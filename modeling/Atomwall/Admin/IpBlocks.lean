import Atomwall.Config.BlacklistOps
import Atomwall.History.TimedBlocks
import Atomwall.Pipeline.IpEntries

/-!
`handle_ip_block_mutation`: one list of blocked addresses over two stores, the permanent entries of the
configuration and the temporary blocks of the tracker.
-/

namespace Atomwall.Admin

open Http

/-! ### Numbers in a request -/

/-- The nearest `int`. -/
def saturate (n : Int) : Int := max (-2147483648) (min n 2147483647)

def saturatingToInt (bits : UInt64) : Int :=
  let exponent := bits.toNat / 4503599627370496 % 2048
  let fraction := bits.toNat % 4503599627370496
  let negative := 9223372036854775808 ≤ bits.toNat
  -- infinities and NaN
  if exponent = 2047 then
    if fraction = 0 ∧ ¬ negative then 2147483647 else -2147483648
  else
    let significand := if exponent = 0 then fraction else fraction + 4503599627370496
    let magnitude :=
      if 1075 ≤ exponent then significand <<< (exponent - 1075) else significand >>> (1075 - exponent)
    saturate (if negative then -magnitude else magnitude)

/-- An integer that is not a double is far from being an `int`. -/
def jsonIntField (obj : JsonObject) (key : String) : Option Int :=
  match obj.find key with
  | some (.int64 n) => some (saturate n)
  | some (.uint64 n) => some (saturate n)
  | some (.double bits) => some (saturatingToInt bits)
  | _ => none

/-! ### The handler -/

structure IpBlockState where
  config : RuntimeConfig := {}
  ipBlocks : IpBlockTracker := {}

/-- What the clock shows where an entry is built, in `IpBlockTracker::add` and in `list_active`. -/
structure IpBlockReadings where
  built : Int
  added : Int
  listed : Int

variable (libs : Libraries) (makeAddress : MakeAddress)

def ipBlocksToJson (blacklist : BlacklistConfig) (temporary : List TemporaryIpBlock) : Json :=
  let permanent (text source : String) (createdAt : Int) : Json :=
    .object [("text", .string text), ("source", .string source), ("permanent", .bool true),
      ("created_at", .string (libs.toIso8601 createdAt)), ("expires_at", .null)]
  .array ((blacklist.ipExact.map fun exact => permanent exact.value exact.source exact.createdAt) ++
    (blacklist.ipCidrs.map fun range => permanent range.text range.source range.createdAt) ++
    temporary.map fun block =>
      .object [("text", .string block.text), ("source", .string block.source), ("permanent", .bool false),
        ("created_at", .string (libs.toIso8601 block.createdAt)),
        ("expires_at", .string (libs.toIso8601 block.expiresAt)),
        ("score_at_block", .int64 block.scoreAtBlock)])

def buildTemporaryBlock (now : Int) (text source : String) (duration : Int) :
    Except Fault TemporaryIpBlock :=
  if '/' ∈ text.toList then
    match parseCidr makeAddress now text with
    | none => .error (.invalidArgument ("not a valid CIDR range: " ++ text))
    | some range =>
      .ok { text, source, createdAt := now, expiresAt := now + duration, isCidr := true,
            address := range.prefixAddress, prefixLen := range.prefixLen }
  else
    match makeAddress text with
    | none => .error (.invalidArgument ("not a valid IP address: " ++ text))
    | some address => .ok { text, source, createdAt := now, expiresAt := now + duration, address }

def listedResponse (now : Int) (state : IpBlockState) (version : Nat) : Response × IpBlockState :=
  let active := state.ipBlocks.listActive now
  (jsonResponse 200 (ipBlocksToJson libs state.config.blacklist active.1) version,
    { state with ipBlocks := active.2 })

/-- The branch that adds a block, for some hours or for good. -/
def addIpBlock (readings : IpBlockReadings) (state : IpBlockState) (value : String) (durationHours : Int) :
    Except Fault IpBlockState :=
  if 0 < durationHours then
    (buildTemporaryBlock makeAddress readings.built value "manual" (hours durationHours)).map fun block =>
      { state with ipBlocks := state.ipBlocks.add readings.added block }
  else
    (addBlacklistEntry makeAddress readings.built state.config .ips value "" "manual").map fun config =>
      { state with config }

/-- The branch that removes a block: the configuration is only looked at when the tracker held none. -/
def removeIpBlock (state : IpBlockState) (value : String) : IpBlockState :=
  let removed := state.ipBlocks.remove makeAddress value
  { config := if removed.1 then state.config else removeBlacklistEntry state.config .ips value
    ipBlocks := removed.2 }

def namedValue (body : String) : Option (JsonObject × String) := do
  let object ← libs.parseJsonObject body
  let value ← jsonStringField object "value"
  return (object, value)

def handleIpBlockMutation (readings : IpBlockReadings) (state : IpBlockState) (method : Verb) (body : String)
    (version : Nat) : Response × IpBlockState :=
  match namedValue libs body with
  | none => (errorResponse 400 "expected JSON body \x7b\"value\": \"...\"\x7d" version, state)
  | some (object, value) =>
    if method = .delete then
      listedResponse libs readings.listed (removeIpBlock makeAddress state value) version
    else
      let durationHours := (jsonIntField object "duration_hours").getD 0
      if kMaxBanDurationHours < durationHours then
        (errorResponse 400 ("duration_hours must be at most " ++ toString kMaxBanDurationHours ++
          " — use a permanent block (omit duration_hours) instead") version, state)
      else
        match addIpBlock makeAddress readings state value durationHours with
        | .error (.invalidArgument what) => (errorResponse 400 what version, state)
        | .error .runtimeError => (errorResponse 500 "failed to persist config" version, state)
        | .ok next => listedResponse libs readings.listed next version

variable {libs makeAddress} {readings : IpBlockReadings} {state : IpBlockState} {method : Verb}
  {body value : String} {version : Nat} {block : TemporaryIpBlock}

theorem handleIpBlockMutation_refused
    (refused : (handleIpBlockMutation libs makeAddress readings state method body version).1.status ≠ 200) :
    (handleIpBlockMutation libs makeAddress readings state method body version).2 = state := by
  unfold handleIpBlockMutation at refused ⊢
  cases named : namedValue libs body with
  | none => rfl
  | some pair =>
    simp only [named] at refused ⊢
    by_cases delete : method = .delete
    · rw [if_pos delete] at refused
      exact absurd rfl refused
    · rw [if_neg delete] at refused ⊢
      by_cases exceeds : kMaxBanDurationHours < (jsonIntField pair.1 "duration_hours").getD 0
      · rw [if_pos exceeds]
      · rw [if_neg exceeds] at refused ⊢
        cases added : addIpBlock makeAddress readings state pair.2
            ((jsonIntField pair.1 "duration_hours").getD 0) with
        | error fault => cases fault <;> rfl
        | ok next =>
          rw [added] at refused
          exact absurd rfl refused

theorem buildTemporaryBlock_wellFormed {now duration : Int} {text source : String}
    (built : buildTemporaryBlock makeAddress now text source duration = .ok block) :
    block.text = text ∧ block.WellFormed makeAddress := by
  unfold buildTemporaryBlock at built
  split at built
  · next slash =>
    split at built
    · cases built
    · obtain rfl := Except.ok.inj built
      exact ⟨rfl, slash⟩
  · split at built
    · cases built
    · next address parsed =>
      obtain rfl := Except.ok.inj built
      exact ⟨rfl, parsed⟩

/-! ### What unblocking leaves -/

/-- Nothing of the value is left in either store, and no client is blocked on account of it. -/
structure Unblocked (makeAddress : MakeAddress) (state : IpBlockState) (value : String) : Prop where
  permanent : value ∉ state.config.blacklist.ips.values
  temporary : ∀ block ∈ state.ipBlocks.blocks, block.key ≠ IpBlockTracker.keyOf makeAddress value
  unnamed : ∀ text clientIp reason,
    checkIpBlacklist text state.config.blacklist clientIp = .block "ip_blacklist" reason →
      reason ≠ "exact match: " ++ value ∧ reason ≠ "cidr match: " ++ value
  others : ∀ now clientIp, state.ipBlocks.isBlocked now clientIp = true →
    ∃ block ∈ state.ipBlocks.blocks, block.key ≠ IpBlockTracker.keyOf makeAddress value ∧
      now < block.expiresAt ∧ block.Covers clientIp

theorem unblocked_iff (kept : state.ipBlocks.Kept) : Unblocked makeAddress state value ↔
    value ∉ state.config.blacklist.ips.values ∧
      ∀ block ∈ state.ipBlocks.blocks, block.key ≠ IpBlockTracker.keyOf makeAddress value := by
  constructor
  · intro unblocked
    exact ⟨unblocked.permanent, unblocked.temporary⟩
  · rintro ⟨permanent, temporary⟩
    have exact : ∀ entry ∈ state.config.blacklist.ipExact, entry.value ≠ value := fun entry member same =>
      permanent (List.mem_append_left _ (List.mem_map.mpr ⟨entry, member, same⟩))
    have cidr : ∀ range ∈ state.config.blacklist.ipCidrs, range.text ≠ value := fun range member same =>
      permanent (List.mem_append_right _ (List.mem_map.mpr ⟨range, member, same⟩))
    refine ⟨permanent, temporary, fun text clientIp reason blocked => ?_, fun now clientIp blocked => ?_⟩
    · rcases checkIpBlacklist_blocks blocked with ⟨entry, member, -, rfl⟩ | ⟨range, member, -, rfl⟩
      · refine ⟨fun same => exact entry member ((String.append_right_inj _).mp same), fun same => ?_⟩
        exact cidr_ne_exact _ _ same.symm
      · refine ⟨cidr_ne_exact _ _, fun same => ?_⟩
        exact cidr range member ((String.append_right_inj _).mp same)
    · obtain ⟨block, member, live, covers⟩ := (IpBlockTracker.isBlocked_iff kept).mp blocked
      exact ⟨block, member, temporary block member, live, covers⟩

theorem not_mem_removeIpFrom (lists : IpLists) (value : String) :
    value ∉ (removeIpFrom lists value).values := by
  simp [removeIpFrom, IpLists.values]

/-- Removing clears both stores just where the value is in one of them at most. -/
theorem removeIpBlock_clears_iff (kept : state.ipBlocks.Kept) :
    (value ∉ (removeIpBlock makeAddress state value).config.blacklist.ips.values) ↔
      value ∉ state.config.blacklist.ips.values ∨
        ∀ block ∈ state.ipBlocks.blocks, block.key ≠ IpBlockTracker.keyOf makeAddress value := by
  cases removed : (state.ipBlocks.remove makeAddress value).1 with
  | true =>
    have config : (removeIpBlock makeAddress state value).config = state.config := by
      simp [removeIpBlock, removed]
    obtain ⟨block, member, same⟩ := (IpBlockTracker.remove_fst kept).mp removed
    rw [config, or_iff_left fun clear => clear block member same]
  | false =>
    have config : (removeIpBlock makeAddress state value).config =
        removeBlacklistEntry state.config .ips value := by
      simp [removeIpBlock, removed]
    have clear : ∀ block ∈ state.ipBlocks.blocks, block.key ≠ IpBlockTracker.keyOf makeAddress value := by
      intro block member same
      rw [(IpBlockTracker.remove_fst kept).mpr ⟨block, member, same⟩] at removed
      cases removed
    rw [config]
    exact iff_of_true (not_mem_removeIpFrom _ value) (.inr clear)

/-- After a DELETE, which is always answered with 200, the value is unblocked just where it was not both
a permanent entry and, expired or not, a block that the tracker held. -/
theorem delete_unblocks_iff (calls : List IpBlockTracker.Call) (pruneInterval : Int) (config : RuntimeConfig)
    {object : JsonObject} (named : namedValue libs body = some (object, value)) :
    let state : IpBlockState := ⟨config, IpBlockTracker.run makeAddress pruneInterval calls⟩
    let answer := handleIpBlockMutation libs makeAddress readings state .delete body version
    answer.1.status = 200 ∧ (Unblocked makeAddress answer.2 value ↔
      value ∉ state.config.blacklist.ips.values ∨
        ∀ block ∈ state.ipBlocks.blocks, block.key ≠ IpBlockTracker.keyOf makeAddress value) := by
  intro state answer
  have kept : state.ipBlocks.Kept := IpBlockTracker.run_kept pruneInterval calls
  have answered : answer = listedResponse libs readings.listed (removeIpBlock makeAddress state value) version := by
    simp only [answer, handleIpBlockMutation, named, if_true]
  have kept_after : answer.2.ipBlocks.Kept := by
    rw [answered]
    exact { kept.remove.pruneExpired with }
  have temporary : ∀ block ∈ answer.2.ipBlocks.blocks, block.key ≠ IpBlockTracker.keyOf makeAddress value := by
    intro block member same
    rw [answered] at member
    have held := (IpBlockTracker.mem_blocks_pruneExpired.mp member).1
    exact ((IpBlockTracker.mem_blocks_remove kept).mp held).2 same.symm
  refine ⟨by rw [answered]; rfl, ?_⟩
  rw [unblocked_iff kept_after, and_iff_left temporary, answered]
  exact removeIpBlock_clears_iff kept

def blockBody : String := "\x7b\"value\":\"192.0.2.7\"\x7d"

def blockLibraries : Libraries where
  jsonParse text :=
    if text = blockBody then some (.object [("value", .string "192.0.2.7")]) else none
  toIso8601 _ := "1970-01-01T00:00:00Z"
  pbkdf2 _ _ _ := none
  hmacSha1 _ _ := none
  sha256 _ := none
  cborLoad _ := none
  validKey _ := false
  digestVerify _ _ _ := false

theorem blockBody_named :
    namedValue blockLibraries blockBody = some ([("value", .string "192.0.2.7")], "192.0.2.7") := rfl

/-- An address that was blocked for some hours, and is not in the configuration. -/
theorem temporary_block_unblocked :
    let state : IpBlockState :=
      ⟨{}, IpBlockTracker.run IpBlockTracker.sampleMakeAddress 60 [.add 10 IpBlockTracker.sampleBlock]⟩
    let answer := handleIpBlockMutation blockLibraries IpBlockTracker.sampleMakeAddress ⟨20, 20, 20⟩ state
      .delete blockBody 11
    answer.1.status = 200 ∧ (Unblocked IpBlockTracker.sampleMakeAddress answer.2 "192.0.2.7" ↔
      "192.0.2.7" ∉ state.config.blacklist.ips.values ∨
        ∀ block ∈ state.ipBlocks.blocks,
          block.key ≠ IpBlockTracker.keyOf IpBlockTracker.sampleMakeAddress "192.0.2.7") :=
  delete_unblocks_iff _ 60 {} blockBody_named

/-- An address that is blocked both for some hours and for good stays blocked for good. -/
theorem both_stores_leave_one :
    ¬ ∀ (libs : Libraries) (makeAddress : MakeAddress) (readings : IpBlockReadings)
        (calls : List IpBlockTracker.Call) (pruneInterval : Int) (config : RuntimeConfig)
        (body value : String) (version : Nat) (object : JsonObject),
        namedValue libs body = some (object, value) →
        let answer := handleIpBlockMutation libs makeAddress readings
          ⟨config, IpBlockTracker.run makeAddress pruneInterval calls⟩ .delete body version
        answer.1.status = 200 → Unblocked makeAddress answer.2 value := by
  intro claim
  have unblocked := claim blockLibraries IpBlockTracker.sampleMakeAddress ⟨20, 20, 20⟩
    [.add 10 IpBlockTracker.sampleBlock] 60
    { blacklist := { ipExact := [sampleEntry "192.0.2.7"] } } blockBody "192.0.2.7" 11 _
    blockBody_named rfl
  exact absurd unblocked.permanent (by decide +kernel)

end Atomwall.Admin
