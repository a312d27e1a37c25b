import Atomwall.Auth.Encoding
import Atomwall.Base.DigitGroups
import Mathlib.Data.UInt

/-!
base64url as arithmetic: six bits go into the buffer with a digit, eight come out with a byte. The
encoder works on groups of three bytes; both regroup the digits of one number.
-/

namespace Atomwall.Base64Url

open DigitGroups

def accept (buffer : UInt32) (value : Nat) : UInt32 := (buffer <<< 6) ||| UInt32.ofNat value

def byteAbove (buffer : UInt32) (bits : Nat) : UInt8 := ((buffer >>> UInt32.ofNat bits) &&& 0xFF).toUInt8

def digit (value : Nat) : Char := base64urlAlphabet.getD value 'A'

theorem idxOf_digit : ∀ value < 64, base64urlAlphabet.idxOf? (digit value) = some value := by decide +kernel

theorem digit_ne_pad : ∀ value < 64, digit value ≠ '=' := by decide +kernel

theorem accept_toNat {buffer : UInt32} {value : Nat} (small : value < 64) :
    (accept buffer value).toNat = (buffer.toNat * 64 + value) % 4294967296 := by
  have room : (buffer.toNat * 64) % 4294967296 = (buffer.toNat % 67108864) <<< 6 := by
    rw [Nat.shiftLeft_eq]
    omega
  have shifted : (buffer <<< 6).toNat = (buffer.toNat % 67108864) <<< 6 := by
    rw [UInt32.toNat_shiftLeft, ← room, Nat.shiftLeft_eq]
    rfl
  have fits : (UInt32.ofNat value).toNat = value := by
    rw [UInt32.toNat_ofNat']
    omega
  unfold accept
  rw [UInt32.toNat_or, shifted, fits, ← Nat.shiftLeft_add_eq_or_of_lt (show value < 2 ^ 6 from small),
    Nat.shiftLeft_eq]
  omega

theorem byteAbove_toNat {buffer : UInt32} {bits : Nat} (few : bits < 32) :
    (byteAbove buffer bits).toNat = buffer.toNat / 2 ^ bits % 256 := by
  have shift : (UInt32.ofNat bits).toNat % 32 = bits := by
    rw [UInt32.toNat_ofNat']
    omega
  unfold byteAbove
  rw [UInt32.toNat_toUInt8, UInt32.toNat_and, UInt32.toNat_shiftRight, shift, Nat.shiftRight_eq_div_pow]
  have mask : (0xFF : UInt32).toNat = 2 ^ 8 - 1 := rfl
  rw [mask, Nat.and_two_pow_sub_one_eq_mod]
  omega

theorem base64urlDigit_eq {chunk shift : UInt32} (few : shift.toNat < 32) :
    base64urlDigit chunk shift = digit (chunk.toNat / 2 ^ shift.toNat % 64) := by
  unfold base64urlDigit digit
  have mask : (0x3F : UInt32).toNat = 2 ^ 6 - 1 := rfl
  rw [UInt32.toNat_and, UInt32.toNat_shiftRight, Nat.mod_eq_of_lt few, Nat.shiftRight_eq_div_pow, mask,
    Nat.and_two_pow_sub_one_eq_mod]

theorem chunk_toNat (a b c : UInt8) :
    ((a.toUInt32 <<< 16) ||| (b.toUInt32 <<< 8) ||| c.toUInt32).toNat =
      a.toNat * 65536 + b.toNat * 256 + c.toNat := by
  have ha := a.toNat_lt
  have hb := b.toNat_lt
  have hc := c.toNat_lt
  have first : (a.toUInt32 <<< 16).toNat = a.toNat <<< 16 := by
    rw [UInt32.toNat_shiftLeft, Nat.shiftLeft_eq, Nat.shiftLeft_eq, UInt8.toNat_toUInt32]
    change a.toNat * 2 ^ 16 % 2 ^ 32 = _
    omega
  have second : (b.toUInt32 <<< 8).toNat = b.toNat <<< 8 := by
    rw [UInt32.toNat_shiftLeft, Nat.shiftLeft_eq, Nat.shiftLeft_eq, UInt8.toNat_toUInt32]
    change b.toNat * 2 ^ 8 % 2 ^ 32 = _
    omega
  have both : a.toNat <<< 16 ||| b.toNat <<< 8 = (a.toNat * 256 + b.toNat) <<< 8 := by
    rw [← Nat.shiftLeft_add_eq_or_of_lt (by rw [Nat.shiftLeft_eq]; omega)]
    simp only [Nat.shiftLeft_eq]
    omega
  rw [UInt32.toNat_or, UInt32.toNat_or, first, second, UInt8.toNat_toUInt32, both,
    ← Nat.shiftLeft_add_eq_or_of_lt (show c.toNat < 2 ^ 8 from hc), Nat.shiftLeft_eq]
  omega

theorem chunk_two (a b : UInt8) :
    ((a.toUInt32 <<< 16) ||| (b.toUInt32 <<< 8)).toNat = a.toNat * 65536 + b.toNat * 256 := by
  have whole := chunk_toNat a b 0
  have none_there : (a.toUInt32 <<< 16) ||| (b.toUInt32 <<< 8) ||| UInt8.toUInt32 0 =
      (a.toUInt32 <<< 16) ||| (b.toUInt32 <<< 8) := UInt32.or_zero
  rw [none_there] at whole
  simpa using whole

theorem chunk_one (a : UInt8) : (a.toUInt32 <<< 16).toNat = a.toNat * 65536 := by
  have whole := chunk_two a 0
  have none_there : (a.toUInt32 <<< 16) ||| (UInt8.toUInt32 0 <<< 8) = a.toUInt32 <<< 16 := UInt32.or_zero
  rw [none_there] at whole
  simpa using whole

/-! ### What is encoded is decoded -/

theorem bytes_digit {buffer : UInt32} {bits value : Nat} (small : value < 64) (rest : List Char) :
    base64urlBytes buffer bits (digit value :: rest) =
      if 8 ≤ bits + 6 then
        (base64urlBytes (accept buffer value) (bits - 2) rest).map
          (byteAbove (accept buffer value) (bits - 2) :: ·)
      else base64urlBytes (accept buffer value) (bits + 6) rest := by
  rw [base64urlBytes, idxOf_digit value small]
  rfl

def values : List UInt8 → List Nat
  | a :: b :: c :: rest =>
    let chunk := a.toNat * 65536 + b.toNat * 256 + c.toNat
    chunk / 262144 % 64 :: chunk / 4096 % 64 :: chunk / 64 % 64 :: chunk % 64 :: values rest
  | [a, b] =>
    let chunk := a.toNat * 65536 + b.toNat * 256
    [chunk / 262144 % 64, chunk / 4096 % 64, chunk / 64 % 64]
  | [a] =>
    let chunk := a.toNat * 65536
    [chunk / 262144 % 64, chunk / 4096 % 64]
  | [] => []

theorem digits_eq (data : List UInt8) : base64urlDigits data = (values data).map digit := by
  induction data using values.induct with
  | case1 a b c rest ih =>
    simp only [base64urlDigits, values, List.map_cons, ih,
      base64urlDigit_eq (show (18 : UInt32).toNat < 32 by decide),
      base64urlDigit_eq (show (12 : UInt32).toNat < 32 by decide),
      base64urlDigit_eq (show (6 : UInt32).toNat < 32 by decide),
      base64urlDigit_eq (show (0 : UInt32).toNat < 32 by decide), chunk_toNat]
    simp
  | case2 a b =>
    simp only [base64urlDigits, values, List.map_cons, List.map_nil,
      base64urlDigit_eq (show (18 : UInt32).toNat < 32 by decide),
      base64urlDigit_eq (show (12 : UInt32).toNat < 32 by decide),
      base64urlDigit_eq (show (6 : UInt32).toNat < 32 by decide), chunk_two]
    simp
  | case3 a =>
    simp only [base64urlDigits, values, List.map_cons, List.map_nil,
      base64urlDigit_eq (show (18 : UInt32).toNat < 32 by decide),
      base64urlDigit_eq (show (12 : UInt32).toNat < 32 by decide), chunk_one]
    simp
  | case4 => rfl

theorem byteAbove_eq {buffer : UInt32} {bits : Nat} (few : bits < 32) :
    byteAbove buffer bits = UInt8.ofNat (buffer.toNat / 2 ^ bits % 2 ^ 8) := by
  apply UInt8.toNat_inj.mp
  rw [byteAbove_toNat few, UInt8.toNat_ofNat', Nat.mod_mod]
  rfl

theorem bytes_collect {buffer : UInt32} {bits : Nat} {values : List Nat} (few : bits < 8)
    (small : ∀ value ∈ values, value < 64) :
    base64urlBytes buffer bits (values.map digit) =
      .ok ((collect UInt32.toNat accept 6 8 buffer bits values).map UInt8.ofNat) := by
  induction values generalizing buffer bits with
  | nil => rfl
  | cons value rest ih =>
    obtain ⟨fits, later⟩ := List.forall_mem_cons.mp small
    rw [List.map_cons, bytes_digit fits, collect]
    by_cases enough : 8 ≤ bits + 6
    · have left : bits + 6 - 8 = bits - 2 := by omega
      rw [if_pos enough, if_pos enough, left, ih (by omega) later, List.map_cons, byteAbove_eq (by omega)]
      rfl
    · rw [if_neg enough, if_neg enough, ih (by omega) later]

theorem collect_values {values : List Nat} (small : ∀ value ∈ values, value < 64) :
    Cut 8 (6 * values.length) (DigitGroups.value 6 values)
      (collect UInt32.toNat accept 6 8 0 0 values) := by
  have keeps (buffer : UInt32) (count value : Nat) (few : count < 8) (fits : value < 2 ^ 6) :
      (accept buffer value).toNat % 2 ^ (count + 6) = buffer.toNat % 2 ^ count * 2 ^ 6 + value := by
    have whole : (accept buffer value).toNat = (buffer.toNat * 2 ^ 6 + value) % 2 ^ 32 := accept_toNat fits
    rw [whole, Nat.mod_mod_of_dvd _ (Nat.pow_dvd_pow 2 (by omega)), low_accept _ fits]
  have cut := @collect_cut 8 6 values _ UInt32.toNat accept 0 0 keeps (by decide) (by decide) small
  rwa [Nat.pow_zero, Nat.mod_one, Nat.zero_mul, Nat.zero_add, Nat.zero_add] at cut

theorem value_digit {n : Nat} {front : List Nat} (upper : DigitGroups.value 6 front = n / 64) :
    DigitGroups.value 6 (front ++ [n % 64]) = n := by
  rw [value_snoc, upper]
  exact Nat.div_add_mod' n 64

theorem value_chunk {chunk : Nat} (small : chunk < 16777216) :
    DigitGroups.value 6 [chunk / 262144 % 64, chunk / 4096 % 64] = chunk / 4096 ∧
      DigitGroups.value 6 [chunk / 262144 % 64, chunk / 4096 % 64, chunk / 64 % 64] = chunk / 64 ∧
      DigitGroups.value 6 [chunk / 262144 % 64, chunk / 4096 % 64, chunk / 64 % 64, chunk % 64] =
        chunk := by
  have one : DigitGroups.value 6 [chunk / 262144 % 64] = chunk / 4096 / 64 := by
    have high : chunk / 262144 < 64 := Nat.div_lt_of_lt_mul small
    rw [value_cons, value_nil, Nat.mod_eq_of_lt high, Nat.div_div_eq_div_mul]
    exact Nat.mul_one _
  have two := value_digit one
  have three := value_digit (two.trans (Nat.div_div_eq_div_mul chunk 64 64).symm)
  exact ⟨two, three, value_digit three⟩

/-- The encoder's groups are the digits of the bytes, filled up with zeros. -/
theorem values_pad (data : List UInt8) :
    Pad 6 (8 * data.length) (DigitGroups.value 8 (data.map UInt8.toNat)) (values data) := by
  have fits (n : Nat) : n % 64 < 2 ^ 6 := Nat.mod_lt n (by decide)
  induction data using values.induct with
  | case1 a b c rest ih =>
    have ha := a.toNat_lt
    have hb := b.toNat_lt
    have hc := c.toNat_lt
    simp only [values]
    generalize chunk_eq : a.toNat * 65536 + b.toNat * 256 + c.toNat = chunk
    have small : ∀ d ∈ [chunk / 262144 % 64, chunk / 4096 % 64, chunk / 64 % 64, chunk % 64], d < 2 ^ 6 := by
      simp only [List.forall_mem_cons, fits]
      simp
    have same : DigitGroups.value 6 [chunk / 262144 % 64, chunk / 4096 % 64, chunk / 64 % 64, chunk % 64] =
        DigitGroups.value 8 [a.toNat, b.toNat, c.toNat] := by
      rw [(value_chunk (show chunk < 16777216 by omega)).2.2]
      simp only [value_eq_foldl, List.foldl_cons, List.foldl_nil]
      omega
    have whole := ih.append small
    have bytes := @value_append 8 [a.toNat, b.toNat, c.toNat] (rest.map UInt8.toNat)
    rw [List.length_map] at bytes
    rw [same, ← bytes] at whole
    exact whole
  | case2 a b =>
    have ha := a.toNat_lt
    have hb := b.toNat_lt
    have three := (@value_chunk (a.toNat * 65536 + b.toNat * 256) (by omega)).2.1
    refine ⟨Nat.le_of_ble_eq_true rfl, Nat.le_of_ble_eq_true rfl, ?_, ?_⟩
    · simp only [values, List.forall_mem_cons, fits]
      simp
    · simp only [values, three]
      simp only [value_eq_foldl, List.map_cons, List.map_nil, List.foldl_cons, List.foldl_nil,
        List.length_cons, List.length_nil]
      omega
  | case3 a =>
    have ha := a.toNat_lt
    have two := (@value_chunk (a.toNat * 65536) (by omega)).1
    refine ⟨Nat.le_of_ble_eq_true rfl, Nat.le_of_ble_eq_true rfl, ?_, ?_⟩
    · simp only [values, List.forall_mem_cons, fits]
      simp
    · simp only [values, two]
      simp only [value_eq_foldl, List.map_cons, List.map_nil, List.foldl_cons, List.foldl_nil,
        List.length_cons, List.length_nil]
      omega
  | case4 => exact Pad.nil (by decide)

theorem values_cut (data : List UInt8) :
    Cut 8 (6 * (values data).length) (DigitGroups.value 6 (values data)) (data.map UInt8.toNat) := by
  have padded := values_pad data
  rw [← List.length_map UInt8.toNat] at padded
  exact Cut.of_pad (by decide) (List.forall_mem_map.mpr fun byte _ => byte.toNat_lt) padded

theorem length_values (data : List UInt8) : (values data).length % 4 ≠ 1 := by
  have padded := values_pad data
  have enough := padded.enough
  have tight := padded.tight
  omega

end Atomwall.Base64Url

namespace Atomwall

open Base64Url DigitGroups

theorem toList_encode (data : List UInt8) : (base64urlEncode data).toList = (values data).map digit := by
  rw [base64urlEncode, String.toList_ofList, digits_eq]

theorem base64urlDecode_digits {text : String} {values : List Nat}
    (small : ∀ value ∈ values, value < 64) (same : text.toList = values.map digit)
    (length : text.length % 4 ≠ 1) :
    base64urlDecode text = .ok ((collect UInt32.toNat accept 6 8 0 0 values).map UInt8.ofNat) := by
  have unpadded : '=' ∉ text.toList := by
    rw [same]
    intro padded
    obtain ⟨value, member, pad⟩ := List.mem_map.mp padded
    exact digit_ne_pad value (small value member) pad
  unfold base64urlDecode
  rw [if_neg unpadded, if_neg length, same, bytes_collect (by decide) small]

theorem base64urlDecode_encode (data : List UInt8) : base64urlDecode (base64urlEncode data) = .ok data := by
  have small : ∀ value ∈ values data, value < 64 := (values_pad data).small
  have length : (base64urlEncode data).length % 4 ≠ 1 := by
    rw [← String.length_toList, toList_encode, List.length_map]
    exact length_values data
  rw [base64urlDecode_digits small (toList_encode data) length,
    (collect_values small).unique (by decide) (values_cut data), List.map_map]
  congr 1
  exact (List.map_congr_left fun byte _ => UInt8.ofNat_toNat).trans (List.map_id data)

/-! ### What is decoded -/

namespace Base64Url

/-- `build_decode_table`: the value of each byte, -1 for those that are no digit. -/
def buildDecodeTable : List Int :=
  base64urlAlphabet.zipIdx.foldl (fun table entry => table.set entry.1.toNat entry.2)
    (List.replicate 256 (-1))

theorem fill_lookup {alphabet : List Char} {table : List Int} {next : Nat} {c : Char}
    (distinct : alphabet.Nodup) (inside : c.toNat < table.length) :
    ((alphabet.zipIdx next).foldl (fun table entry => table.set entry.1.toNat entry.2) table)[c.toNat]? =
      match alphabet.idxOf? c with
      | some i => some (Int.ofNat (next + i))
      | none => table[c.toNat]? := by
  induction alphabet generalizing table next with
  | nil => rfl
  | cons first rest ih =>
    obtain ⟨absent, apart⟩ := List.nodup_cons.mp distinct
    have later := @ih (table.set first.toNat (Int.ofNat next)) (next + 1) apart (by rwa [List.length_set])
    rw [List.zipIdx_cons, List.foldl_cons]
    refine later.trans ?_
    by_cases same : first = c
    · subst same
      rw [List.idxOf?_eq_none_iff.mpr absent, List.idxOf?_cons, if_pos (beq_self_eq_true _)]
      exact List.getElem?_set_self inside
    · rw [List.idxOf?_cons, if_neg (by simpa using same)]
      cases rest.idxOf? c with
      | none => exact List.getElem?_set_ne fun codes => same (Char.toNat_inj.mp codes)
      | some i => exact congrArg (fun n => some (Int.ofNat n)) (Nat.add_right_comm next 1 i)

/-- The search in the alphabet is the table. -/
theorem decodeTable_eq {c : Char} (byte : c.toNat < 256) :
    buildDecodeTable[c.toNat]? = some ((base64urlAlphabet.idxOf? c).elim (-1) Int.ofNat) := by
  have distinct : base64urlAlphabet.Nodup := by decide
  have filled := @fill_lookup base64urlAlphabet (List.replicate 256 (-1)) 0 c distinct
    (by rwa [List.length_replicate])
  refine filled.trans ?_
  cases base64urlAlphabet.idxOf? c with
  | none => exact List.getElem?_replicate_of_lt byte
  | some i => exact congrArg (fun n => some (Int.ofNat n)) (Nat.zero_add i)

/-- The texts differ in their last digit at most, and there only in the lowest `unused` bits. -/
def SameButLow (unused : Nat) (text other : List Char) : Prop :=
  text = [] ∧ other = [] ∨
    ∃ front v u, v < 64 ∧ u < 64 ∧ text = front ++ [digit v] ∧ other = front ++ [digit u] ∧
      v / 2 ^ unused = u / 2 ^ unused

theorem exists_value {c : Char} (member : c ∈ base64urlAlphabet) : ∃ value < 64, c = digit value := by
  obtain ⟨value, inside, same⟩ := List.mem_iff_getElem.mp member
  exact ⟨value, inside, same.symm.trans (List.getElem_eq_getD 'A')⟩

theorem exists_values {text : List Char} (digits : ∀ c ∈ text, c ∈ base64urlAlphabet) :
    ∃ values : List Nat, (∀ value ∈ values, value < 64) ∧ text = values.map digit := by
  induction text with
  | nil => exact ⟨[], by simp, rfl⟩
  | cons c rest ih =>
    obtain ⟨first, later⟩ := List.forall_mem_cons.mp digits
    obtain ⟨value, fits, rfl⟩ := exists_value first
    obtain ⟨values, small, rfl⟩ := ih later
    exact ⟨value :: values, List.forall_mem_cons.mpr ⟨fits, small⟩, rfl⟩

theorem digits_of_bytes {buffer : UInt32} {bits : Nat} {text : List Char} {data : List UInt8}
    (decoded : base64urlBytes buffer bits text = .ok data) : ∀ c ∈ text, c ∈ base64urlAlphabet := by
  induction text generalizing buffer bits data with
  | nil => simp
  | cons c rest ih =>
    unfold base64urlBytes at decoded
    split at decoded
    · cases decoded
    · next value found =>
      have member : c ∈ base64urlAlphabet := by
        by_contra absent
        rw [List.idxOf?_eq_none_iff.mpr absent] at found
        cases found
      refine List.forall_mem_cons.mpr ⟨member, ?_⟩
      dsimp only at decoded
      split at decoded
      · cases later : base64urlBytes (accept buffer value) (bits - 2) rest with
        | error fault =>
          rw [← accept, later] at decoded
          cases decoded
        | ok bytes => exact ih later
      · exact ih decoded

end Base64Url

theorem base64urlDecode_ok_iff {text : String} : (∃ data, base64urlDecode text = .ok data) ↔
    (∀ c ∈ text.toList, c ∈ base64urlAlphabet ∧ c ≠ '=') ∧ text.length % 4 ≠ 1 := by
  unfold base64urlDecode
  constructor
  · rintro ⟨data, decoded⟩
    split at decoded
    · cases decoded
    · next unpadded =>
      split at decoded
      · cases decoded
      · next length =>
        refine ⟨fun c member => ⟨digits_of_bytes decoded c member, ?_⟩, length⟩
        rintro rfl
        exact unpadded member
  · rintro ⟨digits, length⟩
    obtain ⟨values, small, same⟩ := exists_values fun c member => (digits c member).1
    exact ⟨_, base64urlDecode_digits small same length⟩

/-- Encoded again, a text comes back up to the bits that no byte uses. -/
theorem encode_of_decoded {text : String} {data : List UInt8} (decoded : base64urlDecode text = .ok data) :
    (base64urlEncode data).length = text.length ∧
      SameButLow (6 * text.length % 8) text.toList (base64urlEncode data).toList := by
  obtain ⟨digits, length⟩ := base64urlDecode_ok_iff.mp ⟨data, decoded⟩
  obtain ⟨given, small, same⟩ := exists_values fun c member => (digits c member).1
  have count : text.length = given.length := by rw [← String.length_toList, same, List.length_map]
  have cut := collect_values small
  have bytes : data.map UInt8.toNat = collect UInt32.toNat accept 6 8 0 0 given := by
    obtain rfl := Except.ok.inj (decoded.symm.trans (base64urlDecode_digits small same length))
    rw [List.map_map]
    refine (List.map_congr_left fun byte member => ?_).trans (List.map_id _)
    exact (UInt8.toNat_ofNat').trans (Nat.mod_eq_of_lt (cut.small byte member))
  rw [← bytes] at cut
  have padded := values_pad data
  rw [← List.length_map UInt8.toNat] at padded
  obtain ⟨whole, high⟩ := Pad.of_cut cut (by omega) padded
  rw [← String.length_toList, toList_encode, List.length_map, whole, count, same]
  refine ⟨rfl, ?_⟩
  have fits := padded.small
  rcases List.eq_nil_or_concat' given with rfl | ⟨front, v, rfl⟩
  · exact Or.inl ⟨rfl, by rw [List.length_eq_zero_iff.mp whole, List.map_nil]⟩
  rcases List.eq_nil_or_concat' (values data) with none_there | ⟨other, u, ends⟩
  · rw [none_there, List.length_append] at whole
    cases whole
  rw [ends] at whole high fits ⊢
  have equal : front.length = other.length := by
    rw [List.length_append, List.length_append] at whole
    exact (Nat.add_right_cancel whole).symm
  have unused : 6 * (front ++ [v]).length % 8 ≤ 6 := by omega
  have low := same_but_low (by decide) unused equal small fits
    (by rw [high, Nat.mul_div_cancel _ (Nat.two_pow_pos _)])
  refine Or.inr ⟨front.map digit, v, u, small v (by simp), fits u (by simp), ?_, ?_, low.2⟩
  · rw [List.map_append, List.map_singleton]
  · rw [low.1, List.map_append, List.map_singleton]

/-- Bytes survive encoding; of the other texts those of digits in a possible length are decoded, each to
bytes that are encoded alike. -/
theorem base64url_lossless :
    (∀ data, base64urlDecode (base64urlEncode data) = .ok data) ∧
      ∀ text : String,
        ((∃ data, base64urlDecode text = .ok data) ↔
          (∀ c ∈ text.toList, c ∈ base64urlAlphabet ∧ c ≠ '=') ∧ text.length % 4 ≠ 1) ∧
        ∀ data, base64urlDecode text = .ok data →
          (base64urlEncode data).length = text.length ∧
            SameButLow (6 * text.length % 8) text.toList (base64urlEncode data).toList :=
  ⟨base64urlDecode_encode, fun _ => ⟨base64urlDecode_ok_iff, fun _ => encode_of_decoded⟩⟩

theorem base64url_lossless_loose :
    base64urlEncode [1] = "AQ" ∧
      SameButLow (6 * "AR".length % 8) "AR".toList (base64urlEncode [1]).toList :=
  ⟨rfl, ((base64url_lossless.2 "AR").2 [1] rfl).2⟩

/-! ### Texts that were decoded before -/

structure Decoded where
  text : String
  data : List UInt8
  decodes : base64urlDecode text = .ok data

def Decoded.of (data : List UInt8) : Decoded := ⟨base64urlEncode data, data, base64urlDecode_encode data⟩

/-- The decoder, with the texts of the list looked up in it. -/
def decodeKnown (known : List Decoded) (text : String) : Except Fault (List UInt8) :=
  match known.find? (·.text == text) with
  | some entry => .ok entry.data
  | none => base64urlDecode text

/-- The two are one function; on long texts the second takes far fewer steps. -/
theorem base64urlDecode_known (known : List Decoded) : base64urlDecode = decodeKnown known := by
  funext text
  rw [decodeKnown]
  split
  · rename_i entry found
    obtain rfl : entry.text = text := by simpa using List.find?_some found
    exact entry.decodes
  · rfl

end Atomwall
