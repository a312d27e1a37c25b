import Atomwall.Base.Decimal
import Atomwall.Net.Address

/-!
A way to write addresses: dotted bytes, and eight groups of hexadecimal digits, never shortened with
`::`. The reader takes letters of either case.
-/

namespace Atomwall.Address

open Decimal

/-! ### Bytes and groups of two -/

def groups : List UInt8 → List Nat
  | high :: low :: rest => (256 * high.toNat + low.toNat) :: groups rest
  | _ => []

def ungroup (numbers : List Nat) : List UInt8 :=
  numbers.flatMap fun n => [UInt8.ofNat (n / 256), UInt8.ofNat (n % 256)]

theorem ungroup_groups (bytes : List UInt8) (even : bytes.length % 2 = 0) :
    ungroup (groups bytes) = bytes := by
  induction bytes using groups.induct with
  | case1 high low rest ih =>
    have first : (256 * high.toNat + low.toNat) / 256 = high.toNat := by
      have := low.toNat_lt
      omega
    have second : (256 * high.toNat + low.toNat) % 256 = low.toNat := by
      have := low.toNat_lt
      omega
    have later := ih (by
      rw [List.length_cons, List.length_cons] at even
      omega)
    rw [groups, ungroup, List.flatMap_cons, first, second, UInt8.ofNat_toNat, UInt8.ofNat_toNat]
    exact congrArg (high :: low :: ·) later
  | case2 bytes short =>
    match bytes, even, short with
    | [], _, _ => rfl
    | [_], odd, _ => cases odd
    | high :: low :: rest, _, short => exact absurd rfl (short high low rest)

theorem groups_lt {bytes : List UInt8} {n : Nat} (h : n ∈ groups bytes) : n < 65536 := by
  induction bytes using groups.induct with
  | case1 high low rest ih =>
    rcases List.mem_cons.mp h with rfl | later
    · have := high.toNat_lt
      have := low.toNat_lt
      omega
    · exact ih later
  | case2 bytes short =>
    rw [groups] at h
    · cases h
    · exact short

theorem groups_ne_nil {bytes : List UInt8} (long : 2 ≤ bytes.length) : groups bytes ≠ [] := by
  match bytes, long with
  | high :: low :: rest, _ => exact List.cons_ne_nil _ _

/-! ### Texts -/

def dotted (bytes : List UInt8) : List Char :=
  ['.'].intercalate (bytes.map fun byte => Nat.toDigits 10 byte.toNat)

def colons (bytes : List UInt8) : List Char :=
  [':'].intercalate ((groups bytes).map fun n => Nat.toDigits 16 n)

def zone (scopeId : Nat) : List Char :=
  if scopeId = 0 then [] else '%' :: Nat.toDigits 10 scopeId

def fullText : Address → String
  | .v4 bytes => String.ofList (dotted bytes.toList)
  | .v6 bytes scopeId => String.ofList (colons bytes.toList ++ zone scopeId)

def readByte (part : List Char) : Option UInt8 :=
  match scanNat part with
  | some (n, []) => if n < 256 then some (UInt8.ofNat n) else none
  | _ => none

def readGroup (part : List Char) : Option Nat :=
  if part = [] then none else (readHex 0 part).filter (· < 65536)

def ofBytes4 (bytes : List UInt8) : Option Address :=
  if h : bytes.length = 4 then some (.v4 ⟨bytes.toArray, h⟩) else none

def ofBytes16 (bytes : List UInt8) (scopeId : Nat) : Option Address :=
  if h : bytes.length = 16 then some (.v6 ⟨bytes.toArray, h⟩ scopeId) else none

def readZone : List Char → Option Nat
  | [] => some 0
  | _ :: digits =>
    match scanNat digits with
    | some (n, []) => some n
    | _ => none

def ofText (text : String) : Option Address :=
  match (text.toList.splitOn '.').mapM readByte with
  | some bytes => ofBytes4 bytes
  | none => do
    let numbers ← ((text.toList.takeWhile (· != '%')).splitOn ':').mapM readGroup
    ofBytes16 (ungroup numbers) (← readZone (text.toList.dropWhile (· != '%')))

/-! ### Every address is read back -/

theorem mem_intercalate {sep c : Char} {parts : List (List Char)} (h : c ∈ [sep].intercalate parts) :
    c = sep ∨ ∃ part ∈ parts, c ∈ part := by
  induction parts with
  | nil => cases h
  | cons part rest ih =>
    cases rest with
    | nil => exact .inr ⟨part, List.mem_cons_self, by simpa [List.intercalate] using h⟩
    | cons next rest =>
      have split : [sep].intercalate (part :: next :: rest) =
          part ++ sep :: [sep].intercalate (next :: rest) := by simp [List.intercalate]
      rw [split] at h
      rcases List.mem_append.mp h with first | later
      · exact .inr ⟨part, List.mem_cons_self, first⟩
      · rcases List.mem_cons.mp later with same | later
        · exact .inl same
        · rcases ih later with same | ⟨other, member, inside⟩
          · exact .inl same
          · exact .inr ⟨other, List.mem_cons_of_mem _ member, inside⟩

theorem readByte_toDigits (byte : UInt8) : readByte (Nat.toDigits 10 byte.toNat) = some byte := by
  rw [readByte, scanNat_toDigits]
  dsimp only
  rw [if_pos byte.toNat_lt, UInt8.ofNat_toNat]

theorem readGroup_toDigits {n : Nat} (small : n < 65536) : readGroup (Nat.toDigits 16 n) = some n := by
  rw [readGroup, if_neg Nat.toDigits_ne_nil, readHex_toDigits]
  simp [small]

theorem mapM_map_eq_some {α β : Type} {read : β → Option α} {write : α → β} {values : List α}
    (each : ∀ a ∈ values, read (write a) = some a) : (values.map write).mapM read = some values := by
  induction values with
  | nil => rfl
  | cons a rest ih =>
    have later := ih fun b member => each b (List.mem_cons_of_mem _ member)
    rw [List.map_cons, List.mapM_cons, each a List.mem_cons_self, later]
    rfl

theorem ofText_v4 (bytes : Vector UInt8 4) : ofText (fullText (.v4 bytes)) = some (.v4 bytes) := by
  have parts : (dotted bytes.toList).splitOn '.' =
      bytes.toList.map fun byte => Nat.toDigits 10 byte.toNat := by
    apply List.splitOn_intercalate
    · intro part member dot
      obtain ⟨byte, -, rfl⟩ := List.mem_map.mp member
      exact absurd (Nat.isDigit_of_mem_toDigits (by decide) (by decide) dot) (by decide)
    · intro none_there
      have := congrArg List.length none_there
      simp at this
  unfold ofText fullText
  rw [String.toList_ofList, parts, mapM_map_eq_some fun byte _ => readByte_toDigits byte]
  simp [ofBytes4, Vector.toArray_toList]

section V6

variable {bytes : List UInt8}

theorem colons_chars {c : Char} (h : c ∈ colons bytes) : c = ':' ∨ (hexValue c).isSome := by
  rcases mem_intercalate h with same | ⟨part, member, inside⟩
  · exact .inl same
  · obtain ⟨n, -, rfl⟩ := List.mem_map.mp member
    exact .inr (isSome_hexValue_of_mem_toDigits inside)

theorem zone_chars {scopeId : Nat} {c : Char} (h : c ∈ zone scopeId) : c = '%' ∨ c.isDigit = true := by
  unfold zone at h
  split at h
  · cases h
  · rcases List.mem_cons.mp h with same | digit
    · exact .inl same
    · exact .inr (Nat.isDigit_of_mem_toDigits (by decide) (by decide) digit)

theorem colon_mem (long : 4 ≤ bytes.length) : ':' ∈ colons bytes := by
  match bytes, long with
  | a :: b :: c :: d :: rest, _ =>
    simp [colons, groups, List.intercalate]

theorem readZone_zone (scopeId : Nat) : readZone (zone scopeId) = some scopeId := by
  unfold zone
  split
  · next zero =>
    rw [zero]
    rfl
  · rw [readZone, scanNat_toDigits]

theorem colons_before_zone (scopeId : Nat) :
    ((colons bytes ++ zone scopeId).takeWhile (· != '%')) = colons bytes ∧
      ((colons bytes ++ zone scopeId).dropWhile (· != '%')) = zone scopeId := by
  have inside : ∀ c ∈ colons bytes, (c != '%') = true := by
    intro c member
    rw [bne_iff_ne]
    rintro rfl
    rcases colons_chars member with same | digit
    · exact absurd same (by decide)
    · exact absurd digit (by decide)
  rw [List.takeWhile_append_of_pos inside, List.dropWhile_append_of_pos inside]
  unfold zone
  split <;> simp

end V6

theorem ofText_v6 (bytes : Vector UInt8 16) (scopeId : Nat) :
    ofText (fullText (.v6 bytes scopeId)) = some (.v6 bytes scopeId) := by
  have length : bytes.toList.length = 16 := by simp
  have dotless : '.' ∉ colons bytes.toList ++ zone scopeId := by
    intro dot
    rcases List.mem_append.mp dot with left | right
    · exact absurd (colons_chars left) (by decide)
    · exact absurd (zone_chars right) (by decide)
  have one_part : (colons bytes.toList ++ zone scopeId).splitOn '.' =
      [colons bytes.toList ++ zone scopeId] := by
    have apart : ∀ part ∈ [colons bytes.toList ++ zone scopeId], '.' ∉ part := by
      intro part member
      rwa [List.mem_singleton.mp member]
    have whole := List.splitOn_intercalate '.' apart (List.cons_ne_nil _ _)
    simpa using whole
  have no_byte : readByte (colons bytes.toList ++ zone scopeId) = none := by
    unfold readByte
    split
    · next n scanned =>
      have long : 4 ≤ bytes.toList.length := by omega
      have colon := List.mem_append_left (zone scopeId) (colon_mem long)
      exact absurd (isDigit_of_scanNat scanned _ colon) (by decide)
    · rfl
  have parts : (colons bytes.toList).splitOn ':' =
      (groups bytes.toList).map fun n => Nat.toDigits 16 n := by
    apply List.splitOn_intercalate
    · intro part member colon
      obtain ⟨n, -, rfl⟩ := List.mem_map.mp member
      exact absurd (isSome_hexValue_of_mem_toDigits colon) (by decide)
    · intro none_there
      exact groups_ne_nil (by omega) (List.map_eq_nil_iff.mp none_there)
  have each : ∀ n ∈ groups bytes.toList, readGroup (Nat.toDigits 16 n) = some n := by
    intro n member
    exact readGroup_toDigits (groups_lt member)
  have read := mapM_map_eq_some each
  unfold ofText fullText
  rw [String.toList_ofList, one_part, (colons_before_zone scopeId).1, (colons_before_zone scopeId).2, parts]
  simp [no_byte, read, readZone_zone, ofBytes16, ungroup_groups, length, Vector.toArray_toList]

theorem ofText_fullText (address : Address) : ofText (fullText address) = some address := by
  cases address with
  | v4 bytes => exact ofText_v4 bytes
  | v6 bytes scopeId => exact ofText_v6 bytes scopeId

end Atomwall.Address
