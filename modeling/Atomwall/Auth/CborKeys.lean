import Atomwall.Auth.AuthenticatorData

/-!
Lookups of integer keys in CBOR maps, against the logical value of the keys. The loop converts every
integer key it passes, and the conversion throws for one that an `int64_t` cannot hold.
-/

namespace Atomwall.WebAuthn

/-- What an integer stands for; no other value stands for one. -/
def logicalValue : CborValue → Option Int
  | .uint value => some value.toNat
  | .negint value => some (-1 - value.toNat)
  | _ => none

def entries : CborValue → List (CborValue × CborValue)
  | .map pairs => pairs
  | _ => []

/-- The value of the first entry whose key stands for `key`. -/
def firstEntry (key : Int) (pairs : List (CborValue × CborValue)) : Option CborValue :=
  (pairs.find? fun pair => logicalValue pair.1 = some key).map Prod.snd

/-- The promise of the header: the first entry of the key or null, and no exception. -/
def LookupAsPromised (map : CborValue) (key : Int) : Prop :=
  cborMapFindInt map key = .ok (firstEntry key (entries map))

/-- An integer that an `int64_t` holds, or no integer at all. -/
def Convertible (value : CborValue) : Prop :=
  ∀ n, value = .uint n ∨ value = .negint n → n.toNat < 2 ^ 63

/-- No integer key before the entry of `key`, or anywhere where it has none, is too large. -/
def ConvertibleBefore (key : Int) (pairs : List (CborValue × CborValue)) : Prop :=
  ∀ pair ∈ pairs.takeWhile fun pair => logicalValue pair.1 ≠ some key, Convertible pair.1

variable {k v : CborValue} {key value : Int} {rest : List (CborValue × CborValue)}

theorem firstEntry_found (found : logicalValue k = some key) :
    firstEntry key ((k, v) :: rest) = some v := by
  simp [firstEntry, found]

theorem firstEntry_other (other : logicalValue k ≠ some key) :
    firstEntry key ((k, v) :: rest) = firstEntry key rest := by
  simp [firstEntry, other]

theorem convertibleBefore_found (found : logicalValue k = some key) :
    ConvertibleBefore key ((k, v) :: rest) := by
  simp [ConvertibleBefore, found]

theorem convertibleBefore_other (other : logicalValue k ≠ some key) :
    ConvertibleBefore key ((k, v) :: rest) ↔ Convertible k ∧ ConvertibleBefore key rest := by
  simp [ConvertibleBefore, other]

theorem convertible_uint (n : UInt64) : Convertible (.uint n) ↔ n.toNat < 0x8000000000000000 := by
  simp [Convertible]

theorem convertible_negint (n : UInt64) :
    Convertible (.negint n) ↔ n.toNat < 0x8000000000000000 := by
  simp [Convertible]

/-- The conversion gives the logical value exactly where it fits. -/
theorem cborToInt64_eq (stands : logicalValue k = some value) :
    (Convertible k → cborToInt64 k = .ok value) ∧
      (¬Convertible k → ∃ fault, cborToInt64 k = .error fault) := by
  cases k with
  | uint n =>
    obtain rfl := Option.some.inj stands
    rw [convertible_uint]
    exact ⟨fun small => if_neg (Nat.not_le.mpr small), fun large => ⟨_, if_pos (Nat.not_lt.mp large)⟩⟩
  | negint n =>
    obtain rfl := Option.some.inj stands
    rw [convertible_negint]
    exact ⟨fun small => if_neg (Nat.not_le.mpr small), fun large => ⟨_, if_pos (Nat.not_lt.mp large)⟩⟩
  | _ => cases stands

theorem convertible_of_int64 (key : Int64) (stands : logicalValue k = some key.toInt) :
    Convertible k := by
  have below := key.toInt_lt
  have above := key.le_toInt
  intro n integer
  rcases integer with rfl | rfl
  · have same := Option.some.inj stands
    omega
  · have same := Option.some.inj stands
    omega

theorem findInt_integer (stands : logicalValue k = some value) :
    findInt key ((k, v) :: rest) =
      cborToInt64 k >>= fun n => if n = key then .ok (some v) else findInt key rest := by
  cases k with
  | uint n => rfl
  | negint n => rfl
  | _ => cases stands

theorem findInt_no_integer (stands : logicalValue k = none) :
    findInt key ((k, v) :: rest) = findInt key rest ∧ Convertible k := by
  cases k with
  | uint n => cases stands
  | negint n => cases stands
  | _ => exact ⟨rfl, by simp [Convertible]⟩

/-- The loop finds the first entry where it meets no key that is too large, and throws where it does. -/
theorem findInt_spec (key : Int64) (pairs : List (CborValue × CborValue)) :
    (ConvertibleBefore key.toInt pairs → findInt key.toInt pairs = .ok (firstEntry key.toInt pairs)) ∧
      (¬ConvertibleBefore key.toInt pairs → ∃ fault, findInt key.toInt pairs = .error fault) := by
  induction pairs with
  | nil => exact ⟨fun _ => rfl, fun none_large => absurd (by simp [ConvertibleBefore]) none_large⟩
  | cons pair rest ih =>
    obtain ⟨k, v⟩ := pair
    cases stands : logicalValue k with
    | none =>
      have other : logicalValue k ≠ some key.toInt := by simp [stands]
      obtain ⟨passed, fits⟩ := @findInt_no_integer k v key.toInt rest stands
      rw [passed, convertibleBefore_other other, firstEntry_other other]
      simpa [fits] using ih
    | some value =>
      rw [findInt_integer stands]
      obtain ⟨converted, thrown⟩ := cborToInt64_eq stands
      by_cases found : value = key.toInt
      · subst found
        rw [firstEntry_found stands, converted (convertible_of_int64 key stands)]
        exact ⟨fun _ => if_pos rfl, fun large => absurd (convertibleBefore_found stands) large⟩
      · have other : logicalValue k ≠ some key.toInt := by simp [stands, found]
        rw [convertibleBefore_other other, firstEntry_other other]
        by_cases fits : Convertible k
        · rw [converted fits]
          simpa [fits, found, bind, Except.bind] using ih
        · obtain ⟨fault, throws⟩ := thrown fits
          rw [throws]
          exact ⟨fun given => absurd given.1 fits, fun _ => ⟨fault, rfl⟩⟩

/-- A lookup keeps its promise exactly where every integer key it passes fits into an `int64_t`. -/
theorem lookup_as_promised_iff (map : CborValue) (key : Int64) :
    LookupAsPromised map key.toInt ↔ ConvertibleBefore key.toInt (entries map) := by
  unfold LookupAsPromised
  cases map with
  | map pairs =>
    obtain ⟨found, thrown⟩ := findInt_spec key pairs
    constructor
    · intro promised
      by_contra large
      obtain ⟨fault, throws⟩ := thrown large
      cases throws.symm.trans promised
    · exact found
  | _ => exact iff_of_true rfl (by simp [ConvertibleBefore, entries])

/-- The map of 2^64-1 to 0 and of 1 to 2. -/
def largeKeyBytes : List UInt8 :=
  [0xA2, 0x1B, 0xFF, 0xFF, 0xFF, 0xFF, 0xFF, 0xFF, 0xFF, 0xFF, 0x00, 0x01, 0x02]

def largeKeyReader : Libraries :=
  { emptyMapReader with
    cborLoad := fun data =>
      if data = largeKeyBytes then
        some (.map [(.uint 0xFFFFFFFFFFFFFFFF, .uint 0), (.uint 1, .uint 2)], largeKeyBytes.length)
      else none }

theorem lookup_throws_before_match :
    ∃ map, parseCbor largeKeyReader largeKeyBytes = .ok map ∧
      firstEntry (1 : Int64).toInt (entries map) = some (.uint 2) ∧
      ¬LookupAsPromised map (1 : Int64).toInt := by
  refine ⟨.map [(.uint 0xFFFFFFFFFFFFFFFF, .uint 0), (.uint 1, .uint 2)], rfl, rfl, ?_⟩
  intro promised
  cases promised

end Atomwall.WebAuthn
