import Atomwall.Config.BlacklistOps
import Atomwall.Pipeline.Checks

/-!
What a permanent entry of one address hits: the entry is compared, as it is written, with the text that
`to_string` gives the client's address.
-/

namespace Atomwall

open ByteString Yaml

/-- How a value comes into one of the lists of addresses. -/
inductive AcceptedIp (makeAddress : MakeAddress) (value : String) : Prop where
  | blacklisted {now : Int} {config next : RuntimeConfig} {createdBy source : String}
      (added : addBlacklistEntry makeAddress now config .ips value createdBy source = .ok next)
  | whitelisted {now : Int} {config next : RuntimeConfig} {createdBy source : String}
      (added : addWhitelistEntry makeAddress now config value createdBy source = .ok next)
  | loaded {now : Int} {node : Ref} {entry : BlacklistEntry}
      (read : entry ∈ (readIpList makeAddress now node).1) (same : entry.value = value)

/-- The check blocks the client and names the entry. -/
def BlockedBy (text : AddressText) (config : BlacklistConfig) (entry : BlacklistEntry)
    (clientIp : Address) : Prop :=
  checkIpBlacklist text config clientIp = .block "ip_blacklist" ("exact match: " ++ entry.value)

/-- The entry would whitelist the client with no other there. -/
def WhitelistedBy (text : AddressText) (entry : BlacklistEntry) (clientIp : Address) : Prop :=
  isIpWhitelisted text { ipExact := [entry] } clientIp = true

/-- The clients that are hit, as the listeners pass them on, are those that have the address. -/
def Means (address : Address) (hits : Address → Prop) : Prop :=
  ∀ client, hits (normalizeClientAddress client) ↔
    normalizeClientAddress address = normalizeClientAddress client

variable {makeAddress : MakeAddress} {text : AddressText} {value : String} {entry : BlacklistEntry}

theorem AcceptedIp.parses (accepted : AcceptedIp makeAddress value) (slashless : '/' ∉ value.toList) :
    ∃ address, makeAddress value = some address := by
  have readable : Readable makeAddress value := by
    cases accepted with
    | @blacklisted now config next createdBy source added =>
      have added : (EntryList.blacklist .ips).add makeAddress now config value createdBy source = .ok next :=
        added
      exact (EntryList.add_ok added).2.1 trivial
    | @whitelisted now config next createdBy source added =>
      have added : EntryList.whitelist.add makeAddress now config value createdBy source = .ok next := added
      exact (EntryList.add_ok added).2.1 trivial
    | loaded read same =>
      exact (mem_filterMap_exactOf.mp (List.mem_map.mpr ⟨_, read, same⟩)).2.2
  unfold Readable at readable
  rwa [if_neg slashless] at readable

theorem CheckResult.block_orElse (checkName reason : String) (second : CheckResult) :
    (block checkName reason).orElse second = block checkName reason := rfl

theorem CheckResult.allow_orElse (second : CheckResult) : allow.orElse second = second := rfl

theorem cidr_ne_exact (text other : String) : "cidr match: " ++ text ≠ "exact match: " ++ other := by
  intro same
  have letters := congrArg String.toList same
  rw [String.toList_append, String.toList_append] at letters
  exact absurd (List.cons.inj letters).1 (by decide)

theorem checkIpBlacklist_blocks {config : BlacklistConfig} {clientIp : Address} {reason : String}
    (blocked : checkIpBlacklist text config clientIp = .block "ip_blacklist" reason) :
    (∃ entry ∈ config.ipExact, entry.value = text clientIp ∧ "exact match: " ++ entry.value = reason) ∨
      ∃ range ∈ config.ipCidrs, addressInCidr clientIp range = true ∧
        "cidr match: " ++ range.text = reason := by
  unfold checkIpBlacklist checkEntries at blocked
  split at blocked
  · next found first =>
    rw [CheckResult.block_orElse] at blocked
    have hit : found.value = text clientIp := by simpa using List.find?_some first
    exact .inl ⟨found, List.mem_of_find?_eq_some first, hit, congrArg CheckResult.reason blocked⟩
  · rw [CheckResult.allow_orElse] at blocked
    split at blocked
    · next range first =>
      exact .inr ⟨range, List.mem_of_find?_eq_some first, List.find?_some first,
        congrArg CheckResult.reason blocked⟩
    · cases congrArg CheckResult.verdict blocked

theorem blockedBy_iff {config : BlacklistConfig} {clientIp : Address} (member : entry ∈ config.ipExact) :
    BlockedBy text config entry clientIp ↔ entry.value = text clientIp := by
  unfold BlockedBy
  constructor
  · intro blocked
    rcases checkIpBlacklist_blocks blocked with ⟨found, -, hit, same⟩ | ⟨range, -, -, same⟩
    · rw [← (String.append_right_inj _).mp same, hit]
    · exact absurd same (cidr_ne_exact _ _)
  · intro same
    have found : ∃ other, config.ipExact.find? (fun e => e.value == text clientIp) = some other :=
      Option.isSome_iff_exists.mp (List.find?_isSome.mpr ⟨entry, member, by simpa using same⟩)
    obtain ⟨other, first⟩ := found
    have hit : other.value = text clientIp := by simpa using List.find?_some first
    unfold checkIpBlacklist checkEntries
    rw [first, CheckResult.block_orElse, hit, same]

theorem isIpWhitelisted_iff {config : WhitelistConfig} {clientIp : Address} :
    isIpWhitelisted text config clientIp = true ↔
      (∃ entry ∈ config.ipExact, WhitelistedBy text entry clientIp) ∨
        ∃ range ∈ config.ipCidrs, addressInCidr clientIp range = true := by
  simp [isIpWhitelisted, WhitelistedBy]

theorem whitelistedBy_iff {clientIp : Address} :
    WhitelistedBy text entry clientIp ↔ entry.value = text clientIp := by
  simp [WhitelistedBy, isIpWhitelisted]

/-- An entry means the address it names, in either list, just where it is spelled as `to_string` spells
the address that the listeners pass on. -/
theorem entry_means_address_iff {config : BlacklistConfig}
    (inverse : ∀ address, makeAddress (text address) = some address)
    (accepted : AcceptedIp makeAddress entry.value) (slashless : '/' ∉ entry.value.toList)
    (member : entry ∈ config.ipExact) :
    ∃ address, makeAddress entry.value = some address ∧
      (Means address (BlockedBy text config entry) ↔ entry.value = text (normalizeClientAddress address)) ∧
      (Means address (WhitelistedBy text entry) ↔ entry.value = text (normalizeClientAddress address)) := by
  obtain ⟨address, parsed⟩ := accepted.parses slashless
  have injective : ∀ a b, text a = text b → a = b := by
    intro a b same
    have parsed_same := congrArg makeAddress same
    rw [inverse, inverse] at parsed_same
    exact Option.some.inj parsed_same
  -- both checks compare the entry with the text of the client's address
  have means_iff : ∀ hits : Address → Prop, (∀ client, hits client ↔ entry.value = text client) →
      (Means address hits ↔ entry.value = text (normalizeClientAddress address)) := by
    intro hits compared
    constructor
    · intro means
      exact (compared _).mp ((means address).mpr rfl)
    · intro canonical client
      rw [compared, canonical]
      exact ⟨injective _ _, fun same => by rw [same]⟩
  exact ⟨address, parsed, means_iff _ fun client => blockedBy_iff member,
    means_iff _ fun client => whitelistedBy_iff⟩

def sampleEntry (value : String) : BlacklistEntry := { value, createdAt := 0, createdBy := "ada" }

theorem dotted_entry_means_address :
    ∃ address, Address.ofText "203.0.113.7" = some address ∧
      (Means address (BlockedBy Address.fullText { ipExact := [sampleEntry "203.0.113.7"] }
          (sampleEntry "203.0.113.7")) ↔
        "203.0.113.7" = Address.fullText (normalizeClientAddress address)) ∧
      (Means address (WhitelistedBy Address.fullText (sampleEntry "203.0.113.7")) ↔
        "203.0.113.7" = Address.fullText (normalizeClientAddress address)) :=
  @entry_means_address_iff Address.ofText Address.fullText (sampleEntry "203.0.113.7") _
    Address.ofText_fullText (@AcceptedIp.blacklisted Address.ofText _ 0 {} _ "ada" "manual" rfl) (by decide)
    (List.mem_singleton_self _)

def upperCase : String := "2001:DB8:1:2:3:4:5:6"

def upperCaseAddress : Address := .v6 #v[0x20, 1, 0xD, 0xB8, 0, 1, 0, 2, 0, 3, 0, 4, 0, 5, 0, 6] 0

/-- An entry in upper case is accepted, and does not block the address. -/
theorem upper_case_entry_dead :
    ¬ ∀ (makeAddress : MakeAddress) (text : AddressText) (config : BlacklistConfig) (entry : BlacklistEntry)
        (address : Address), (∀ other, makeAddress (text other) = some other) →
        AcceptedIp makeAddress entry.value → '/' ∉ entry.value.toList → entry ∈ config.ipExact →
        makeAddress entry.value = some address →
        Means address (BlockedBy text config entry) ∧ Means address (WhitelistedBy text entry) := by
  intro claim
  have means := claim Address.ofText Address.fullText { ipExact := [sampleEntry upperCase] }
    (sampleEntry upperCase) upperCaseAddress Address.ofText_fullText
    (@AcceptedIp.blacklisted Address.ofText _ 0 {} _ "ada" "manual" rfl) (by decide)
    (List.mem_singleton_self _) (by decide +kernel)
  have blocked := (means.1 upperCaseAddress).mpr rfl
  have same := (blockedBy_iff (List.mem_singleton_self _)).mp blocked
  exact absurd same (by decide +kernel)

end Atomwall
