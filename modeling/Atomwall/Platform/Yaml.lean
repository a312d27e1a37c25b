import Atomwall.Base.Decimal
import Atomwall.Platform.Libraries
import Mathlib.Data.List.TakeWhile

/-!
yaml-cpp: node trees, what `operator[]` and `as` read from them, and the scalars that values are
written as. Its exceptions are `std::runtime_error`s.
-/

namespace Atomwall.Yaml

open ByteString

inductive Node where
  | null
  | scalar (text : String)
  | sequence (items : List Node)
  | map (entries : List (Node × Node))

/-- `YAML::Load`, `YAML::Emitter`, and the scalars of doubles, which are given by their bits. -/
structure Library where
  load : String → Option Node
  emit : Node → String
  doubleText : UInt64 → String
  readDouble : String → Option UInt64

def Node.isKey (key : String) : Node → Bool
  | .scalar text => text == key
  | _ => false

/-! ### Reading -/

/-- A node, or none where it is not defined. -/
abbrev Ref := Option Node

/-- The integer types that the code reads. -/
inductive IntType where
  | int | longLong | unsignedShort | uint32 | size
  deriving DecidableEq

def IntType.least : IntType → Int
  | .int => -0x80000000
  | .longLong => -0x8000000000000000
  | .unsignedShort | .uint32 | .size => 0

def IntType.greatest : IntType → Int
  | .int => 0x7FFFFFFF
  | .longLong => 0x7FFFFFFFFFFFFFFF
  | .unsignedShort => 0xFFFF
  | .uint32 => 0xFFFFFFFF
  | .size => 0xFFFFFFFFFFFFFFFF

def IntType.Holds (type : IntType) (n : Int) : Prop := type.least ≤ n ∧ n ≤ type.greatest

instance (type : IntType) (n : Int) : Decidable (type.Holds n) :=
  inferInstanceAs (Decidable (_ ∧ _))

/-- A number without its sign; a stream with no base set takes it from the first characters. -/
def magnitude : List Char → Option Nat
  | [] => none
  | '0' :: 'x' :: digits | '0' :: 'X' :: digits =>
    if digits = [] then none else Decimal.readHex 0 digits
  | '0' :: digits =>
    if digits.all fun c => c.isDigit && decide (c < '8') then some (Nat.ofDigitChars 8 digits 0) else none
  | digits => if digits.all Char.isDigit then some (Nat.ofDigitChars 10 digits 0) else none

/-- An unsigned type takes no minus, not even before a zero. -/
def signed (type : IntType) : List Char → Option Int
  | '-' :: digits => if type.least = 0 then none else (magnitude digits).map fun n : Nat => -(n : Int)
  | '+' :: digits => (magnitude digits).map Int.ofNat
  | digits => (magnitude digits).map Int.ofNat

/-- `stream >> std::noskipws >> rhs`, after which only white space may stand. -/
def decodeInt (type : IntType) (text : String) : Option Int :=
  if (text.toList.dropWhile fun c => !ByteString.isSpace c).all ByteString.isSpace then
    (signed type (text.toList.takeWhile fun c => !ByteString.isSpace c)).filter fun n => decide (type.Holds n)
  else none

/-- `IsFlexibleCase`. -/
def flexibleCase : List Char → Bool
  | [] => true
  | first :: rest =>
    (first :: rest).all Char.isLower ||
      (first.isUpper && (rest.all Char.isLower || rest.all Char.isUpper))

def decodeBool (text : String) : Option Bool :=
  if !flexibleCase text.toList then none
  else if lower text ∈ ["y", "yes", "true", "on"] then some true
  else if lower text ∈ ["n", "no", "false", "off"] then some false
  else none

namespace Ref

/-- `node[key]`. A scalar has no subscripts, and neither has what a loop over a map runs through. -/
def get (node : Ref) (key : String) : Except Fault Ref :=
  match node with
  | none | some (.scalar _) => .error .runtimeError
  | some .null | some (.sequence _) => .ok none
  | some (.map entries) => .ok ((entries.find? fun e => e.1.isKey key).map Prod.snd)

/-- What `for (const auto& item : node)` runs through: of a map, pairs that are no nodes. -/
def items : Ref → List Ref
  | some (.sequence items) => items.map some
  | some (.map entries) => entries.map fun _ => none
  | _ => []

/-- The pairs of a map, from `begin()` to `end()`. -/
def pairs : Ref → List (Ref × Ref)
  | some (.sequence items) => items.map fun _ => (none, none)
  | some (.map entries) => entries.map fun e => (some e.1, some e.2)
  | _ => []

def isNull : Ref → Bool
  | some .null => true
  | _ => false

def asString? : Ref → Option String
  | some .null => some "null"
  | some (.scalar text) => some text
  | _ => none

/-- `as<T>` of a scalar, through `convert<T>::decode`. -/
def decode {α : Type} (convert : String → Option α) : Ref → Option α
  | some (.scalar text) => convert text
  | _ => none

/-- `as<T>()`, which throws where there is nothing to convert. -/
def required {α : Type} (value : Option α) : Except Fault α :=
  match value with
  | some a => .ok a
  | none => .error .runtimeError

def string (node : Ref) : Except Fault String := required node.asString?

def stringOr (node : Ref) (fallback : String) : String := node.asString?.getD fallback

def int (type : IntType) (node : Ref) : Except Fault Int := required (node.decode (decodeInt type))

def intOr (type : IntType) (node : Ref) (fallback : Int) : Int :=
  (node.decode (decodeInt type)).getD fallback

def natOr (type : IntType) (node : Ref) (fallback : Nat) : Nat :=
  ((node.decode (decodeInt type)).map Int.toNat).getD fallback

def boolOr (node : Ref) (fallback : Bool) : Bool := (node.decode decodeBool).getD fallback

end Ref

/-! ### Writing -/

def ofBool (value : Bool) : Node := .scalar (if value then "true" else "false")

def ofInt (n : Int) : Node := .scalar (toString n)

def ofNat (n : Nat) : Node := .scalar (toString n)

/-- A map that was filled with `node[key] = value` under different keys. -/
def object (entries : List (String × Node)) : Node :=
  .map (entries.map fun e => (.scalar e.1, e.2))

/-! ### What was written is read back -/

@[simp] theorem get_object (entries : List (String × Node)) (key : String) :
    Ref.get (some (object entries)) key =
      .ok ((entries.find? fun e => e.1 == key).map Prod.snd) := by
  have found : ((entries.map fun e => (Node.scalar e.1, e.2)).find? fun e => e.1.isKey key).map Prod.snd =
      (entries.find? fun e => e.1 == key).map Prod.snd := by
    rw [List.find?_map, Option.map_map]
    rfl
  exact congrArg Except.ok found

@[simp] theorem items_sequence (items : List Node) : Ref.items (some (.sequence items)) = items.map some :=
  rfl

@[simp] theorem pairs_object (entries : List (String × Node)) :
    Ref.pairs (some (object entries)) = entries.map fun e => (some (.scalar e.1), some e.2) := by
  simp [Ref.pairs, object]

@[simp] theorem string_scalar (text : String) : Ref.string (some (.scalar text)) = .ok text := rfl

@[simp] theorem stringOr_scalar (text fallback : String) :
    Ref.stringOr (some (.scalar text)) fallback = text := rfl

theorem decodeBool_written (value : Bool) :
    decodeBool (if value then "true" else "false") = some value := by
  cases value <;> decide

@[simp] theorem boolOr_ofBool (value fallback : Bool) : Ref.boolOr (some (ofBool value)) fallback = value :=
  congrArg (Option.getD · fallback) (decodeBool_written value)

theorem magnitude_toDigits (n : Nat) : magnitude (Nat.toDigits 10 n) = some n := by
  by_cases zero : n = 0
  · subst zero
    rfl
  · obtain ⟨first, digits, written, nonzero⟩ := Decimal.toDigits_leading (by omega : 0 < n)
    have value := @Nat.ofDigitChars_ten_toDigits n
    have all : (Nat.toDigits 10 n).all Char.isDigit = true := by
      rw [List.all_eq_true]
      intro c member
      exact Nat.isDigit_of_mem_toDigits (by decide) (by decide) member
    rw [written] at value all ⊢
    unfold magnitude
    split
    · next empty => cases empty
    · next head => exact absurd (List.cons.inj head).1 nonzero
    · next head => exact absurd (List.cons.inj head).1 nonzero
    · next head => exact absurd (List.cons.inj head).1 nonzero
    · rw [if_pos all, value]

theorem isSpace_of_mem_toDigits {n : Nat} {c : Char} (h : c ∈ Nat.toDigits 10 n) : ByteString.isSpace c = false :=
  isSpace_of_isDigit (Nat.isDigit_of_mem_toDigits (by decide) (by decide) h)

theorem decodeInt_word {type : IntType} {text : String} {n : Int}
    (spaceless : ∀ c ∈ text.toList, ByteString.isSpace c = false) (value : signed type text.toList = some n)
    (fits : type.Holds n) : decodeInt type text = some n := by
  have word : (text.toList.takeWhile fun c => !ByteString.isSpace c) = text.toList := by
    rw [List.takeWhile_eq_self_iff]
    intro c member
    rw [spaceless c member, Bool.not_false]
  have rest : (text.toList.dropWhile fun c => !ByteString.isSpace c) = [] := by
    rw [List.dropWhile_eq_nil_iff]
    intro c member
    rw [spaceless c member, Bool.not_false]
  unfold decodeInt
  rw [word, rest, value, if_pos List.all_nil]
  simp [fits]

theorem signed_toDigits (type : IntType) (n : Nat) : signed type (Nat.toDigits 10 n) = some (n : Int) := by
  have read := magnitude_toDigits n
  cases written : Nat.toDigits 10 n with
  | nil => exact absurd written Nat.toDigits_ne_nil
  | cons first digits =>
    have digit : first.isDigit = true :=
      Nat.isDigit_of_mem_toDigits (by decide) (by decide) (written ▸ List.mem_cons_self)
    rw [written] at read
    unfold signed
    split
    · next head => simp [(List.cons.inj head).1] at digit
    · next head => simp [(List.cons.inj head).1] at digit
    · rw [read]
      rfl

theorem decodeInt_nat {type : IntType} {n : Nat} (fits : type.Holds n) :
    decodeInt type (toString n) = some (n : Int) := by
  have written : (toString n).toList = Nat.toDigits 10 n := Nat.toList_repr
  apply decodeInt_word _ _ fits
  · intro c member
    rw [written] at member
    exact isSpace_of_mem_toDigits member
  · rw [written]
    exact signed_toDigits type n

theorem decodeInt_int {type : IntType} {n : Int} (fits : type.Holds n) :
    decodeInt type (toString n) = some n := by
  cases n with
  | ofNat n => exact decodeInt_nat fits
  | negSucc n =>
    have negative : type.least ≠ 0 := by
      intro unsigned
      have least := fits.1
      rw [unsigned] at least
      exact absurd least (by omega)
    have written : (toString (Int.negSucc n)).toList = '-' :: Nat.toDigits 10 (n + 1) := by
      change ("-" ++ (n + 1).repr).toList = _
      rw [String.toList_append, Nat.toList_repr]
      rfl
    apply decodeInt_word _ _ fits
    · intro c member
      rw [written] at member
      rcases List.mem_cons.mp member with rfl | digit
      · decide
      · exact isSpace_of_mem_toDigits digit
    · rw [written]
      rw [signed, if_neg negative, magnitude_toDigits]
      rfl

@[simp] theorem int_ofInt {type : IntType} {n : Int} (fits : type.Holds n) :
    Ref.int type (some (ofInt n)) = .ok n := by
  unfold Ref.int Ref.required Ref.decode ofInt
  dsimp only
  rw [decodeInt_int fits]

@[simp] theorem intOr_ofInt {type : IntType} {n : Int} (fits : type.Holds n) (fallback : Int) :
    Ref.intOr type (some (ofInt n)) fallback = n := by
  unfold Ref.intOr Ref.decode ofInt
  dsimp only
  rw [decodeInt_int fits]
  rfl

@[simp] theorem natOr_ofNat {type : IntType} {n : Nat} (fits : type.Holds n) (fallback : Nat) :
    Ref.natOr type (some (ofNat n)) fallback = n := by
  unfold Ref.natOr Ref.decode ofNat
  dsimp only
  rw [decodeInt_nat fits]
  rfl

theorem mapM_written {α β : Type} {written : α → Node} {read : Ref → Except Fault β} {result : α → β}
    {values : List α} (each : ∀ a ∈ values, read (some (written a)) = .ok (result a)) :
    (values.map fun a => some (written a)).mapM read = .ok (values.map result) := mapM_map_ok each

end Atomwall.Yaml
