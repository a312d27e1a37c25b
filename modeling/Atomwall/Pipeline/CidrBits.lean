import Atomwall.Base.BitPrefix
import Atomwall.Net.AddressText
import Atomwall.Pipeline.NetUtils

/-!
`address_in_cidr` as a statement about numbers: a range holds the addresses of its family whose first
bits are those of its prefix.
-/

namespace Atomwall

def addressValue : Address → Nat
  | .v4 bytes => BitPrefix.value bytes.toList
  | .v6 bytes _ => BitPrefix.value bytes.toList

def isV4 : Address → Bool
  | .v4 _ => true
  | .v6 _ _ => false

/-! ### Every read of `prefix_matches` checked -/

/-- The loop from byte `i` on; none once it reads outside the bytes. -/
def readEqualBytes {n : Nat} (a b : Vector UInt8 n) (i : Nat) : Nat → Option Bool
  | 0 => some true
  | left + 1 =>
    match a[i]?, b[i]? with
    | some x, some y => if x ≠ y then some false else readEqualBytes a b (i + 1) left
    | _, _ => none

def readPrefixMatches {n : Nat} (a b : Vector UInt8 n) (prefixLen : Nat) : Option Bool :=
  let fullBytes := prefixLen / 8
  let remainingBits := prefixLen % 8
  match readEqualBytes a b 0 fullBytes with
  | some true =>
    if remainingBits = 0 then some true
    else
      let mask := UInt8.ofNat (0xFF00 >>> remainingBits)
      match a[fullBytes]?, b[fullBytes]? with
      | some x, some y => some (x &&& mask == y &&& mask)
      | _, _ => none
  | other => other

def readAddressInCidr (address : Address) (range : CidrRange) : Option Bool :=
  match address, range.prefixAddress with
  | .v4 a, .v4 b => readPrefixMatches a b range.prefixLen
  | .v6 a _, .v6 b _ => readPrefixMatches a b range.prefixLen
  | _, _ => some false

variable {n i left prefixLen : Nat} {a b : Vector UInt8 n} {makeAddress : MakeAddress} {now : Int}
  {text : String} {range : CidrRange} {bytes : Vector UInt8 16} {scopeId : Nat}

theorem readEqualBytes_eq (inside : i + left ≤ n) : readEqualBytes a b i left =
    some ((List.range' i left).all fun j => a[j]? == b[j]?) := by
  induction left generalizing i with
  | zero => rfl
  | succ left ih =>
    have here : i < n := by omega
    rw [readEqualBytes, List.range'_succ, List.all_cons, Vector.getElem?_eq_getElem here,
      Vector.getElem?_eq_getElem here]
    dsimp only
    by_cases same : a[i] = b[i]
    · rw [if_neg (not_not.mpr same), ih (by omega)]
      simp [same]
    · rw [if_pos same]
      simp [same]

theorem readPrefixMatches_eq (inside : prefixLen ≤ 8 * n) :
    readPrefixMatches a b prefixLen = some (prefixMatches a b prefixLen) := by
  unfold readPrefixMatches prefixMatches
  dsimp only
  rw [readEqualBytes_eq (by omega), ← List.range_eq_range']
  cases (List.range (prefixLen / 8)).all fun j => a[j]? == b[j]? with
  | false => rfl
  | true =>
    by_cases whole : prefixLen % 8 = 0
    · simp [whole]
    · have here : prefixLen / 8 < n := by omega
      simp [whole, Vector.getElem?_eq_getElem here]

/-! ### Bits -/

theorem prefixMatches_iff (inside : prefixLen ≤ 8 * n) : prefixMatches a b prefixLen = true ↔
    BitPrefix.value a.toList >>> (8 * n - prefixLen) = BitPrefix.value b.toList >>> (8 * n - prefixLen) := by
  have agree := @BitPrefix.agree_iff a.toList b.toList prefixLen (by simp) (by simpa using inside)
  unfold BitPrefix.top at agree
  rw [Vector.length_toList, Vector.length_toList] at agree
  rw [← agree]
  unfold prefixMatches BitPrefix.Agree BitPrefix.mask
  by_cases whole : prefixLen % 8 = 0
  · simp [whole]
  · simp [whole]

/-! ### IPv4-mapped addresses -/

/-- `::ffff:0:0`. -/
def mappedBase : List UInt8 := [0, 0, 0, 0, 0, 0, 0, 0, 0, 0, 0xFF, 0xFF, 0, 0, 0, 0]

theorem isV4Mapped_agree : isV4Mapped bytes = true ↔ BitPrefix.Agree 96 bytes.toList mappedBase := by
  have zeros : ∀ i < 10, mappedBase[i]? = some 0 := by decide
  simp only [isV4Mapped, BitPrefix.Agree, Bool.and_eq_true, List.all_eq_true, List.mem_range, beq_iff_eq]
  constructor
  · rintro ⟨⟨first, tenth⟩, eleventh⟩
    refine ⟨fun i small => ?_, fun part => absurd rfl part⟩
    rw [Vector.getElem?_toList]
    rcases Nat.lt_or_ge i 10 with low | high
    · rw [first i low, zeros i low]
    · obtain rfl | rfl : i = 10 ∨ i = 11 := by omega
      · simpa [mappedBase] using tenth
      · simpa [mappedBase] using eleventh
  · rintro ⟨whole, _⟩
    have tenth := whole 10 (by decide)
    have eleventh := whole 11 (by decide)
    refine ⟨⟨fun i low => ?_, by simpa [mappedBase] using tenth⟩, by simpa [mappedBase] using eleventh⟩
    rw [← zeros i low, ← whole i (by omega), Vector.getElem?_toList]

/-- The mapped addresses are those of `::ffff:0:0/96`. -/
theorem isV4Mapped_iff : isV4Mapped bytes = true ↔ addressValue (.v6 bytes scopeId) >>> 32 = 0xFFFF := by
  have base : BitPrefix.top 96 mappedBase = 0xFFFF := by decide
  rw [isV4Mapped_agree, BitPrefix.agree_iff (by simp [mappedBase]) (by simp), base, BitPrefix.top,
    Vector.length_toList]
  rfl

/-- What is unwrapped is the last 32 bits. -/
theorem normalizeClientAddress_mapped (mapped : isV4Mapped bytes = true) :
    ∃ last, normalizeClientAddress (.v6 bytes scopeId) = .v4 last ∧
      addressValue (.v4 last) = addressValue (.v6 bytes scopeId) % 2 ^ 32 := by
  refine ⟨_, if_pos mapped, ?_⟩
  have last : (#v[bytes[12], bytes[13], bytes[14], bytes[15]] : Vector UInt8 4).toList =
      bytes.toList.drop 12 := by
    apply List.ext_getElem
    · simp
    · intro i small _
      have few : i < 4 := by simpa using small
      obtain rfl | rfl | rfl | rfl : i = 0 ∨ i = 1 ∨ i = 2 ∨ i = 3 := by omega
      all_goals simp
  show BitPrefix.value (#v[bytes[12], bytes[13], bytes[14], bytes[15]] : Vector UInt8 4).toList =
    BitPrefix.value bytes.toList % 2 ^ 32
  rw [last, BitPrefix.value_drop, Vector.length_toList]

theorem normalizeClientAddress_unmapped (unmapped : ¬ isV4Mapped bytes = true) :
    normalizeClientAddress (.v6 bytes scopeId) = .v6 bytes scopeId :=
  if_neg unmapped

/-! ### Ranges -/

theorem parseCidr_fits (parsed : parseCidr makeAddress now text = some range) :
    range.prefixLen ≤ maxBits range.prefixAddress := by
  unfold parseCidr at parsed
  split at parsed
  · cases parsed
  · split at parsed
    · split at parsed
      · cases parsed
      · next fits =>
        obtain rfl := Option.some.inj parsed
        exact Nat.not_lt.mp fits
    · cases parsed

theorem addressInCidr_iff {address : Address} (fits : range.prefixLen ≤ maxBits range.prefixAddress) :
    addressInCidr address range = true ↔
      isV4 address = isV4 range.prefixAddress ∧
        addressValue address >>> (maxBits range.prefixAddress - range.prefixLen) =
          addressValue range.prefixAddress >>> (maxBits range.prefixAddress - range.prefixLen) := by
  unfold addressInCidr
  cases base : range.prefixAddress with
  | v4 b =>
    rw [base] at fits
    cases address with
    | v4 a =>
      have bits := @prefixMatches_iff 4 range.prefixLen a b fits
      simpa [isV4, addressValue, maxBits] using bits
    | v6 a scopeId => simp [isV4]
  | v6 b scopeId =>
    rw [base] at fits
    cases address with
    | v4 a => simp [isV4]
    | v6 a scopeId' =>
      have bits := @prefixMatches_iff 16 range.prefixLen a b fits
      simpa [isV4, addressValue, maxBits] using bits

theorem readAddressInCidr_eq {address : Address} (fits : range.prefixLen ≤ maxBits range.prefixAddress) :
    readAddressInCidr address range = some (addressInCidr address range) := by
  unfold addressInCidr readAddressInCidr
  cases base : range.prefixAddress with
  | v4 b =>
    rw [base] at fits
    cases address with
    | v4 a => exact readPrefixMatches_eq fits
    | v6 a scopeId => rfl
  | v6 b scopeId =>
    rw [base] at fits
    cases address with
    | v4 a => rfl
    | v6 a scopeId' => exact readPrefixMatches_eq fits

/-- A range that was parsed holds exactly the addresses of its family that agree with it in the first
bits, and finding that out reads inside the bytes of the two. -/
theorem cidr_is_bit_prefix (parsed : parseCidr makeAddress now text = some range) :
    range.prefixLen ≤ maxBits range.prefixAddress ∧ ∀ address,
      (addressInCidr address range = true ↔
        isV4 address = isV4 range.prefixAddress ∧
          addressValue address >>> (maxBits range.prefixAddress - range.prefixLen) =
            addressValue range.prefixAddress >>> (maxBits range.prefixAddress - range.prefixLen)) ∧
      readAddressInCidr address range = some (addressInCidr address range) := by
  have fits := parseCidr_fits parsed
  exact ⟨fits, fun address => ⟨addressInCidr_iff fits, readAddressInCidr_eq fits⟩⟩

def sampleRange : CidrRange :=
  { prefixAddress := .v4 #v[203, 0, 112, 0], prefixLen := 22, text := "203.0.112.0/22"
    createdAt := 0 }

theorem sampleRange_parsed : parseCidr Address.ofText 0 "203.0.112.0/22" = some sampleRange :=
  rfl

theorem cidr_is_bit_prefix_sample :
    22 ≤ 32 ∧ (addressInCidr (.v4 #v[203, 0, 115, 255]) sampleRange = true ↔ true = true ∧
      addressValue (.v4 #v[203, 0, 115, 255]) >>> (32 - 22) =
        addressValue (.v4 #v[203, 0, 112, 0]) >>> (32 - 22)) :=
  have bits := cidr_is_bit_prefix sampleRange_parsed
  ⟨bits.1, (bits.2 (.v4 #v[203, 0, 115, 255])).1⟩

end Atomwall
