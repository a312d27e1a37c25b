import Atomwall.Auth.Encoding
import Atomwall.Base.AsciiCase
import Atomwall.Base.DigitGroups

/-!
The text form of TOTP secrets. Neither loop of `auth/totp.cpp` masks its buffer, which overflows after a
few bytes and turns negative: only the bits not yet put out count, and they are the low ones.
-/

namespace Atomwall

namespace Base32

open DigitGroups

/-- `(buffer << width) | value`. -/
def accept (buffer : BitVec 32) (width value : Nat) : BitVec 32 :=
  (buffer <<< width) ||| BitVec.ofNat 32 value

def digit (value : Nat) : Char := base32Alphabet.getD value 'A'

/-- The inner loop of `base32_encode`: a digit for every five bits, and how many bits are left. -/
def drain (buffer : BitVec 32) (bitsLeft : Nat) : List Char × Nat :=
  if 5 ≤ bitsLeft then
    let later := drain buffer (bitsLeft - 5)
    (base32Digit buffer (bitsLeft - 5) :: later.1, later.2)
  else ([], bitsLeft)
  termination_by bitsLeft

variable {buffer : BitVec 32} {bitsLeft width value count shift : Nat}

theorem idxOf_digit : ∀ value < 32, base32Alphabet.idxOf? (digit value).toUpper = some value := by
  decide

theorem digit_significant : ∀ value < 32, ¬ (digit value = '=' ∨ digit value = ' ' ∨ digit value = '-') := by
  decide

theorem bytes_small (data : List UInt8) : ∀ value ∈ data.map UInt8.toNat, value < 2 ^ 8 :=
  List.forall_mem_map.mpr fun byte _ => byte.toNat_lt

/-! ### The low bits of the buffer -/

theorem accept_low (within : count + width ≤ 32) (fits : value < 2 ^ width) :
    (accept buffer width value).toNat % 2 ^ (count + width) =
      buffer.toNat % 2 ^ count * 2 ^ width + value := by
  have held : (accept buffer width value).toNat = (buffer.toNat * 2 ^ width + value) % 2 ^ 32 := by
    rw [accept, BitVec.toNat_or, BitVec.toNat_shiftLeft, BitVec.toNat_ofNat, ← Nat.or_mod_two_pow,
      ← Nat.shiftLeft_add_eq_or_of_lt fits, Nat.shiftLeft_eq]
  rw [held, Nat.mod_mod_of_dvd _ (Nat.pow_dvd_pow 2 within), low_accept _ fits]

theorem shifted_low (within : shift + width ≤ 32) :
    (buffer.sshiftRight shift).toNat % 2 ^ width = buffer.toNat / 2 ^ shift % 2 ^ width := by
  apply Nat.eq_of_testBit_eq
  intro i
  rw [Nat.testBit_mod_two_pow, Nat.testBit_mod_two_pow, Nat.testBit_div_two_pow]
  by_cases inside : i < width
  · have bit := BitVec.getLsbD_sshiftRight buffer shift i
    rw [if_pos (by omega), decide_eq_false (by omega), Bool.not_false, Bool.true_and] at bit
    rw [← BitVec.testBit_toNat, ← BitVec.testBit_toNat] at bit
    rw [bit, Nat.add_comm]
  · simp [inside]

theorem base32Digit_eq (within : shift + 5 ≤ 32) :
    base32Digit buffer shift = digit (buffer.toNat / 2 ^ shift % 2 ^ 5) := by
  unfold base32Digit digit
  have mask : (0x1F : BitVec 32).toNat = 2 ^ 5 - 1 := rfl
  rw [BitVec.toNat_and, mask, Nat.and_two_pow_sub_one_eq_mod, shifted_low within]

/-! ### What is encoded is decoded -/

theorem drain_put : drain buffer (count + 5) =
    (base32Digit buffer count :: (drain buffer count).1, (drain buffer count).2) := by
  rw [drain, if_pos (Nat.le_add_left 5 count)]
  rfl

theorem drain_done (few : bitsLeft < 5) : drain buffer bitsLeft = ([], bitsLeft) := by
  rw [drain, if_neg (by omega)]

theorem base32Digits_cons {byte : UInt8} {rest : List UInt8} (few : bitsLeft < 5) :
    base32Digits buffer bitsLeft (byte :: rest) =
      (drain (accept buffer 8 byte.toNat) (bitsLeft + 8)).1 ++
        base32Digits (accept buffer 8 byte.toNat) (drain (accept buffer 8 byte.toNat) (bitsLeft + 8)).2
          rest := by
  rw [base32Digits, show bitsLeft + 8 = bitsLeft + 3 + 5 from rfl, drain_put]
  split
  · next two =>
    obtain ⟨kept, rfl⟩ : ∃ kept, bitsLeft = kept + 2 := ⟨bitsLeft - 2, by omega⟩
    rw [show kept + 2 + 3 = kept + 5 from rfl, drain_put, drain_done (by omega)]
    rfl
  · next one =>
    rw [drain_done (show bitsLeft + 3 < 5 by omega)]
    rfl

theorem drain_values (within : bitsLeft ≤ 32) :
    ∃ values, (drain buffer bitsLeft).1 = values.map digit ∧ (drain buffer bitsLeft).2 < 5 ∧
      ∀ more number out,
        Pad 5 ((drain buffer bitsLeft).2 + more)
            (buffer.toNat % 2 ^ (drain buffer bitsLeft).2 * 2 ^ more + number) out →
          Pad 5 (bitsLeft + more) (buffer.toNat % 2 ^ bitsLeft * 2 ^ more + number) (values ++ out) := by
  induction bitsLeft using Nat.strongRecOn with
  | ind bitsLeft ih =>
    by_cases few : bitsLeft < 5
    · rw [drain_done few]
      exact ⟨[], rfl, few, fun more number out padded => padded⟩
    · obtain ⟨count, rfl⟩ : ∃ count, bitsLeft = count + 5 := ⟨bitsLeft - 5, by omega⟩
      obtain ⟨values, chars, less, rest⟩ := ih count (by omega) (by omega)
      rw [drain_put]
      refine ⟨buffer.toNat / 2 ^ count % 2 ^ 5 :: values, ?_, less, fun more number out padded => ?_⟩
      · rw [List.map_cons, ← chars, base32Digit_eq within]
      · rw [low_split, Nat.add_mul, Nat.mul_assoc, ← Nat.pow_add, Nat.add_assoc (_ * _), Nat.add_right_comm]
        exact (rest more number out padded).cons (Nat.mod_lt _ (Nat.two_pow_pos 5))

/-- The digits of the bits in the buffer and the bytes to come, filled up with zeros. -/
theorem base32Digits_pad (data : List UInt8) (few : bitsLeft < 5) :
    ∃ values, base32Digits buffer bitsLeft data = values.map digit ∧
      Pad 5 (bitsLeft + 8 * data.length)
        (buffer.toNat % 2 ^ bitsLeft * 2 ^ (8 * data.length) + DigitGroups.value 8 (data.map UInt8.toNat))
        values := by
  induction data generalizing buffer bitsLeft with
  | nil =>
    simp only [base32Digits, List.length_nil, List.map_nil, value_nil, Nat.mul_zero, Nat.add_zero,
      Nat.pow_zero, Nat.mul_one]
    split
    · next some_left =>
      refine ⟨_, ?_, Pad.last some_left (Nat.le_of_lt few) (Nat.mod_lt _ (Nat.two_pow_pos _))⟩
      have low := @low_accept (5 - bitsLeft) bitsLeft 0 buffer.toNat (Nat.two_pow_pos _)
      rw [Nat.add_zero, Nat.add_zero, Nat.add_sub_cancel' (Nat.le_of_lt few)] at low
      have shifted : (buffer <<< (5 - bitsLeft)).toNat % 2 ^ 5 = buffer.toNat * 2 ^ (5 - bitsLeft) % 2 ^ 5 := by
        rw [BitVec.toNat_shiftLeft, Nat.shiftLeft_eq, Nat.mod_mod_of_dvd _ (by decide)]
      rw [base32Digit_eq (by decide), Nat.pow_zero, Nat.div_one, shifted, low]
      rfl
    · next none_left =>
      obtain rfl : bitsLeft = 0 := by omega
      refine ⟨[], rfl, ?_⟩
      rw [Nat.pow_zero, Nat.mod_one]
      exact Pad.nil (by decide)
  | cons byte rest ih =>
    have accepted := @accept_low buffer 8 byte.toNat bitsLeft (by omega) byte.toNat_lt
    obtain ⟨values, chars, less, drained⟩ :=
      @drain_values (accept buffer 8 byte.toNat) (bitsLeft + 8) (by omega)
    obtain ⟨later, laterChars, padded⟩ := @ih (accept buffer 8 byte.toNat) _ less
    refine ⟨values ++ later, ?_, ?_⟩
    · rw [base32Digits_cons few, chars, laterChars, List.map_append]
    · have whole := drained _ _ _ padded
      have count : bitsLeft + 8 * (byte :: rest).length = bitsLeft + 8 + 8 * rest.length := by
        rw [List.length_cons, Nat.mul_succ]
        omega
      have taken := @value_take 8 byte.toNat (rest.map UInt8.toNat) (buffer.toNat % 2 ^ bitsLeft)
      rw [← accepted, ← List.map_cons, List.length_map, List.length_map] at taken
      rw [count, taken]
      exact whole

theorem byte_above (within : shift + 8 ≤ 32) :
    UInt8.ofNat ((buffer.sshiftRight shift) &&& 0xFF).toNat =
      UInt8.ofNat (buffer.toNat / 2 ^ shift % 2 ^ 8) := by
  have mask : (0xFF : BitVec 32).toNat = 2 ^ 8 - 1 := rfl
  rw [BitVec.toNat_and, mask, Nat.and_two_pow_sub_one_eq_mod, shifted_low within]

theorem base32Bytes_digits {values : List Nat} (few : bitsLeft < 8)
    (small : ∀ value ∈ values, value < 32) :
    base32Bytes buffer bitsLeft (values.map digit) =
      .ok ((collect BitVec.toNat (accept · 5 ·) 5 8 buffer bitsLeft values).map UInt8.ofNat) := by
  induction values generalizing buffer bitsLeft with
  | nil => rfl
  | cons value rest ih =>
    obtain ⟨fits, later⟩ := List.forall_mem_cons.mp small
    rw [List.map_cons, base32Bytes, if_neg (digit_significant value fits), idxOf_digit value fits, collect]
    by_cases enough : 8 ≤ bitsLeft + 5
    · have left : bitsLeft + 5 - 8 = bitsLeft - 3 := by omega
      have bytes := @ih (accept buffer 5 value) (bitsLeft - 3) (by omega) later
      rw [if_pos enough, left, List.map_cons, ← byte_above (by omega)]
      simp only [if_pos enough]
      exact congrArg (Except.map _) bytes
    · simp only [if_neg enough]
      exact ih (by omega) later

end Base32

open Base32 DigitGroups

theorem base32Decode_encode (data : List UInt8) : base32Decode (base32Encode data) = .ok data := by
  obtain ⟨values, chars, padded⟩ := @base32Digits_pad 0 0 data (by decide)
  rw [Nat.pow_zero, Nat.mod_one, Nat.zero_mul, Nat.zero_add, Nat.zero_add, ← List.length_map UInt8.toNat]
    at padded
  have keeps (buffer : BitVec 32) (count value : Nat) (few : count < 8) (fits : value < 2 ^ 5) :
      (accept buffer 5 value).toNat % 2 ^ (count + 5) = buffer.toNat % 2 ^ count * 2 ^ 5 + value :=
    accept_low (by omega) fits
  have cut := @collect_cut 8 5 values _ BitVec.toNat (accept · 5 ·) 0 0 keeps (by decide) (by decide)
    padded.small
  rw [Nat.pow_zero, Nat.mod_one, Nat.zero_mul, Nat.zero_add, Nat.zero_add] at cut
  have back := cut.unique (by decide) (Cut.of_pad (by decide) (bytes_small data) padded)
  rw [base32Decode, base32Encode, String.toList_ofList, chars, base32Bytes_digits (by decide) padded.small,
    back, List.map_map]
  congr 1
  exact (List.map_congr_left fun byte _ => UInt8.ofNat_toNat).trans (List.map_id data)

/-! ### Secrets that were typed in -/

namespace Base32

/-- The second text is the first one with letters in another case, and with padding, blanks and hyphens
put in anywhere. -/
inductive Respelled : List Char → List Char → Prop
  | done : Respelled [] []
  | letter {c d : Char} {text other : List Char} (same : d = c ∨ d = c.toUpper ∨ d = c.toLower)
      (rest : Respelled text other) : Respelled (c :: text) (d :: other)
  | insert {c : Char} {text other : List Char} (separator : c = '=' ∨ c = ' ' ∨ c = '-')
      (rest : Respelled text other) : Respelled text (c :: other)

theorem not_separator {c : Char} (letter : c.isAlpha = true) : ¬ (c = '=' ∨ c = ' ' ∨ c = '-') := by
  rintro (rfl | rfl | rfl)
  · revert letter
    decide
  · revert letter
    decide
  · revert letter
    decide

theorem respelled_char {c d : Char} (same : d = c ∨ d = c.toUpper ∨ d = c.toLower) :
    ((d = '=' ∨ d = ' ' ∨ d = '-') ↔ (c = '=' ∨ c = ' ' ∨ c = '-')) ∧ d.toUpper = c.toUpper := by
  have upper : d.toUpper = c.toUpper := by
    rcases same with rfl | rfl | rfl
    · rfl
    · exact Char.toUpper_toUpper_eq_toUpper c
    · exact Char.toUpper_toLower_eq_toUpper c
  refine ⟨?_, upper⟩
  cases letter : c.isAlpha with
  | true =>
    have stays : d.isAlpha = true := by
      rw [← Char.isAlpha_toUpper_eq_isAlpha, upper, Char.isAlpha_toUpper_eq_isAlpha, letter]
    exact iff_of_false (not_separator stays) (not_separator letter)
  | false =>
    rw [Char.isAlpha, Bool.or_eq_false_iff] at letter
    have big := Char.toUpper_eq_of_not_isLower (Bool.eq_false_iff.mp letter.2)
    have small := Char.toLower_eq_of_not_isUpper (Bool.eq_false_iff.mp letter.1)
    rw [big, small, or_self, or_self] at same
    rw [same]

theorem base32Bytes_respelled {buffer : BitVec 32} {bitsLeft : Nat} {text other : List Char}
    (respelled : Respelled text other) :
    base32Bytes buffer bitsLeft other = base32Bytes buffer bitsLeft text := by
  induction respelled generalizing buffer bitsLeft with
  | done => rfl
  | letter same rest ih =>
    obtain ⟨skipped, upper⟩ := respelled_char same
    rw [base32Bytes, base32Bytes]
    simp only [skipped, upper, ih]
  | insert separator rest ih => rw [base32Bytes, if_pos separator, ih]

end Base32

/-- What is encoded is decoded, and a secret may be typed in another case and with separators. -/
theorem base32_lossless :
    (∀ data, base32Decode (base32Encode data) = .ok data) ∧
      ∀ text other : String, Respelled text.toList other.toList →
        base32Decode other = base32Decode text :=
  ⟨base32Decode_encode, fun _ _ respelled => base32Bytes_respelled respelled⟩

theorem base32_lossless_typed : base32Decode "mz xW-6=" = .ok [102, 111, 111] := by
  have typed : Respelled ['M', 'Z', 'X', 'W', '6'] ['m', 'z', ' ', 'x', 'W', '-', '6', '='] :=
    .letter (by decide) <| .letter (by decide) <| .insert (by decide) <| .letter (by decide) <|
      .letter (by decide) <| .insert (by decide) <| .letter (by decide) <| .insert (by decide) .done
  exact (base32_lossless.2 "MZXW6" "mz xW-6=" typed).trans rfl

end Atomwall
