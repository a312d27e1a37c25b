import Mathlib.Data.List.Infix

/-!
Byte strings: a `String` whose characters each stand for one byte, with the operations of
`std::string_view`.
-/

namespace ByteString

def startsWith (s start : String) : Bool := start.toList.isPrefixOf s.toList

def endsWith (s finish : String) : Bool := finish.toList.isSuffixOf s.toList

/-- `substr(pos)`. -/
def dropFirst (s : String) (pos : Nat) : String := String.ofList (s.toList.drop pos)

/-- `substr(0, count)`. -/
def takeFirst (s : String) (count : Nat) : String := String.ofList (s.toList.take count)

/-- What stands before the first `c`; the whole string without one. -/
def before (c : Char) (s : String) : String := String.ofList (s.toList.takeWhile (· != c))

def bytes (s : String) : List UInt8 := s.toList.map fun c => UInt8.ofNat c.toNat

def ofBytes (data : List UInt8) : String := String.ofList (data.map fun b => Char.ofNat b.toNat)

def lower (s : String) : String := String.ofList (s.toList.map Char.toLower)

/-- Equal up to the case of ASCII letters. -/
def iequals (a b : String) : Bool := lower a == lower b

/-- `std::search` finds the needle, up to the case of ASCII letters. -/
def icontains (haystack needle : String) : Bool :=
  decide ((lower needle).toList <:+: (lower haystack).toList)

def istartsWith (haystack start : String) : Bool := startsWith (lower haystack) (lower start)

/-- `std::isspace` in the "C" locale. -/
def isSpace (c : Char) : Bool := c == ' ' || decide (9 ≤ c.toNat ∧ c.toNat ≤ 13)

def isBlank (s : String) : Bool := s.toList.all isSpace

theorem isSpace_of_isDigit {c : Char} (digit : c.isDigit = true) : isSpace c = false := by
  have range : 48 ≤ c.toNat ∧ c.toNat ≤ 57 := Char.isDigit_iff_toNat.mp digit
  have other : c ≠ ' ' := by
    rintro rfl
    revert range
    decide
  simp only [isSpace, beq_eq_false_iff_ne.mpr other, Bool.false_or, decide_eq_false_iff_not]
  omega

theorem startsWith_iff {s start : String} : startsWith s start = true ↔ start.toList <+: s.toList :=
  List.isPrefixOf_iff_prefix

theorem startsWith_trans {s mid start : String} (h : startsWith s mid = true)
    (first : startsWith mid start = true) : startsWith s start = true :=
  startsWith_iff.mpr ((startsWith_iff.mp first).trans (startsWith_iff.mp h))

theorem startsWith_self (s : String) : startsWith s s = true :=
  startsWith_iff.mpr (List.prefix_refl _)

/-- Strings that start with different strings of which neither starts the other are different. -/
theorem append_ne {a b : String} (apart : startsWith a b = false) (apart' : startsWith b a = false)
    (x y : String) : a ++ x ≠ b ++ y := by
  intro same
  have left : a.toList <+: (a ++ x).toList := by
    rw [String.toList_append]
    exact List.prefix_append _ _
  have right : b.toList <+: (a ++ x).toList := by
    rw [same, String.toList_append]
    exact List.prefix_append _ _
  rcases List.prefix_or_prefix_of_prefix left right with ab | ba
  · exact absurd (startsWith_iff.mpr ab) (by simp [apart'])
  · exact absurd (startsWith_iff.mpr ba) (by simp [apart])

/-! ### The bytes that are stored

`String.toList` decodes a literal character by character, which takes long to evaluate. These read the
same characters off the bytes. -/

variable {c : Char} {l : List Char} {s : String}

def storedBytes (s : String) : List UInt8 := s.toByteArray.data.toList

theorem storedBytes_inj {a b : String} : storedBytes a = storedBytes b ↔ a = b := by
  unfold storedBytes
  rw [Array.toList_inj, ← ByteArray.ext_iff, String.toByteArray_inj]

theorem storedBytes_eq (s : String) : storedBytes s = s.toList.flatMap String.utf8EncodeChar := by
  unfold storedBytes
  conv_lhs => rw [← String.ofList_toList (s := s)]
  rw [String.toByteArray_ofList, List.utf8Encode, List.data_toByteArray]

theorem utf8EncodeChar_of_ascii (small : ∀ b ∈ String.utf8EncodeChar c, b < 0x80) :
    String.utf8EncodeChar c = [UInt8.ofNat c.toNat] ∧ c.toNat < 0x80 := by
  by_cases one : c.val.toNat ≤ 0x7f
  · refine ⟨if_pos one, ?_⟩
    show c.val.toNat < 0x80
    omega
  · exfalso
    unfold String.utf8EncodeChar at small
    simp only [if_neg one] at small
    -- the first byte of a longer encoding is at least 0xC0
    split at small
    · have first := UInt8.lt_iff_toNat_lt.mp (small _ List.mem_cons_self)
      simp at first
      omega
    · split at small
      · have first := UInt8.lt_iff_toNat_lt.mp (small _ List.mem_cons_self)
        simp at first
        omega
      · have first := UInt8.lt_iff_toNat_lt.mp (small _ List.mem_cons_self)
        simp at first
        omega

theorem utf8Encode_of_ascii (small : ∀ b ∈ l.flatMap String.utf8EncodeChar, b < 0x80) :
    l.flatMap String.utf8EncodeChar = l.map (fun c => UInt8.ofNat c.toNat) ∧
      ∀ c ∈ l, c.toNat < 0x80 := by
  induction l with
  | nil => exact ⟨rfl, by simp⟩
  | cons c l ih =>
    rw [List.flatMap_cons] at small ⊢
    obtain ⟨here, bound⟩ := utf8EncodeChar_of_ascii fun b inside =>
      small b (List.mem_append_left _ inside)
    obtain ⟨others, bounds⟩ := ih fun b inside => small b (List.mem_append_right _ inside)
    rw [here, others]
    exact ⟨rfl, List.forall_mem_cons.mpr ⟨bound, bounds⟩⟩

def storedToList (s : String) : List Char :=
  if (storedBytes s).all (· < 0x80) then (storedBytes s).map fun b => Char.ofNat b.toNat
  else s.toList

theorem toList_eq_stored : String.toList = storedToList := by
  funext s
  unfold storedToList
  split
  · rename_i small
    rw [storedBytes_eq] at small ⊢
    obtain ⟨stored, bound⟩ := utf8Encode_of_ascii fun b inside => by
      simpa using List.all_eq_true.mp small b inside
    rw [stored, List.map_map]
    refine (List.map_id' s.toList).symm.trans (List.map_congr_left fun c inside => ?_)
    have here := bound c inside
    show c = Char.ofNat (UInt8.ofNat c.toNat).toNat
    rw [UInt8.toNat_ofNat', Nat.mod_eq_of_lt (by omega), Char.ofNat_toNat]
  · rfl

theorem eq_ofList (same : storedToList s = l) : s = String.ofList l := by
  rw [← same, ← toList_eq_stored, String.ofList_toList]

def quickBytes (s : String) : List UInt8 := (storedToList s).map fun c => UInt8.ofNat c.toNat

theorem bytes_eq_quick : bytes = quickBytes := by
  funext s
  rw [bytes, toList_eq_stored]
  rfl

theorem ofBytes_bytes (small : s.toList.all (·.toNat < 256) = true) : ofBytes (bytes s) = s := by
  have back : ∀ c ∈ s.toList, Char.ofNat (UInt8.ofNat c.toNat).toNat = c := by
    intro c member
    have bound : c.toNat < 256 := by simpa using List.all_eq_true.mp small c member
    rw [UInt8.toNat_ofNat', Nat.mod_eq_of_lt bound, Char.ofNat_toNat]
  unfold ofBytes bytes
  rw [List.map_map]
  exact (congrArg String.ofList ((List.map_congr_left back).trans (List.map_id _))).trans
    String.ofList_toList

end ByteString
