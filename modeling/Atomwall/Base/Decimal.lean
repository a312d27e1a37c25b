import Atomwall.Base.ByteString
import Mathlib.Data.List.TakeWhile

/-! Decimal numbers as `printf` writes them and `scanf` reads them, and hexadecimal digits. -/

namespace Decimal

open ByteString

/-- The longest run of digits that the text starts with, where there is one, and what follows it. -/
def scanNat (text : List Char) : Option (Nat × List Char) :=
  match text.takeWhile Char.isDigit with
  | [] => none
  | digits => some (Nat.ofDigitChars 10 digits 0, text.dropWhile Char.isDigit)

/-- `%d` of `scanf`. -/
def scanInt (text : List Char) : Option (Int × List Char) :=
  match text.dropWhile isSpace with
  | '-' :: rest => (scanNat rest).map fun found => (-(found.1 : Int), found.2)
  | '+' :: rest => (scanNat rest).map fun found => ((found.1 : Int), found.2)
  | rest => (scanNat rest).map fun found => ((found.1 : Int), found.2)

def paddedNat (width n : Nat) : List Char :=
  List.replicate (width - (Nat.toDigits 10 n).length) '0' ++ Nat.toDigits 10 n

/-- `%0<width>d` of `printf`. -/
def padded (width : Nat) : Int → List Char
  | .ofNat n => paddedNat width n
  | .negSucc n => '-' :: paddedNat (width - 1) (n + 1)

/-- Nothing of the text would go on with a number before it. -/
def EndsNumber (rest : List Char) : Prop := ∀ c ∈ rest.head?, c.isDigit = false

theorem endsNumber_nil : EndsNumber [] := by
  intro c member
  cases member

theorem endsNumber_cons {c : Char} (other : c.isDigit = false) (rest : List Char) :
    EndsNumber (c :: rest) := by
  intro d member
  obtain rfl : c = d := Option.some.inj member
  exact other

theorem isDigit_of_mem_paddedNat {width n : Nat} {c : Char} (h : c ∈ paddedNat width n) :
    c.isDigit = true := by
  rcases List.mem_append.mp h with zero | digit
  · rw [List.eq_of_mem_replicate zero]
    rfl
  · exact Nat.isDigit_of_mem_toDigits (by decide) (by decide) digit

theorem paddedNat_ne_nil (width n : Nat) : paddedNat width n ≠ [] := by
  intro empty
  exact Nat.toDigits_ne_nil (List.append_eq_nil_iff.mp empty).2

theorem ofDigitChars_paddedNat (width n : Nat) : Nat.ofDigitChars 10 (paddedNat width n) 0 = n := by
  unfold paddedNat
  rw [Nat.ofDigitChars_append, Nat.ofDigitChars_replicate_zero, Nat.mul_zero,
    Nat.ofDigitChars_ten_toDigits]

theorem takeWhile_number {digits rest : List Char} (all : ∀ c ∈ digits, c.isDigit = true)
    (ends : EndsNumber rest) :
    (digits ++ rest).takeWhile Char.isDigit = digits ∧
      (digits ++ rest).dropWhile Char.isDigit = rest := by
  rw [List.takeWhile_append_of_pos all, List.dropWhile_append_of_pos all]
  cases rest with
  | nil => exact ⟨List.append_nil _, rfl⟩
  | cons c rest =>
    have other : c.isDigit = false := ends c rfl
    rw [List.takeWhile_cons_of_neg (by simp [other]), List.dropWhile_cons_of_neg (by simp [other])]
    exact ⟨List.append_nil _, rfl⟩

theorem scanNat_paddedNat (width n : Nat) {rest : List Char} (ends : EndsNumber rest) :
    scanNat (paddedNat width n ++ rest) = some (n, rest) := by
  have split := takeWhile_number (fun _ => @isDigit_of_mem_paddedNat width n _) ends
  have value := ofDigitChars_paddedNat width n
  unfold scanNat
  rw [split.1, split.2]
  cases written : paddedNat width n with
  | nil => exact absurd written (paddedNat_ne_nil width n)
  | cons first digits =>
    rw [written] at value
    dsimp only
    rw [value]

@[simp] theorem paddedNat_zero (n : Nat) : paddedNat 0 n = Nat.toDigits 10 n := by
  rw [paddedNat, Nat.zero_sub]
  rfl

theorem scanNat_toDigits (n : Nat) : scanNat (Nat.toDigits 10 n) = some (n, []) := by
  have scanned := scanNat_paddedNat 0 n endsNumber_nil
  rwa [paddedNat_zero, List.append_nil] at scanned

theorem isDigit_of_scanNat {text : List Char} {n : Nat} (h : scanNat text = some (n, [])) :
    ∀ c ∈ text, c.isDigit = true := by
  unfold scanNat at h
  split at h
  · cases h
  · rw [Option.some.injEq, Prod.mk.injEq] at h
    exact List.dropWhile_eq_nil_iff.mp h.2

theorem scanInt_padded (width : Nat) (n : Nat) {rest : List Char} (ends : EndsNumber rest) :
    scanInt (padded width n ++ rest) = some ((n : Int), rest) := by
  have scanned := scanNat_paddedNat width n ends
  change scanInt (paddedNat width n ++ rest) = _
  cases written : paddedNat width n with
  | nil => exact absurd written (paddedNat_ne_nil width n)
  | cons first digits =>
    have digit : first.isDigit = true :=
      isDigit_of_mem_paddedNat (written ▸ List.mem_cons_self)
    rw [written] at scanned
    rw [List.cons_append] at scanned ⊢
    unfold scanInt
    rw [List.dropWhile_cons_of_neg (by simp [isSpace_of_isDigit digit])]
    split
    · next head => simp [(List.cons.inj head).1] at digit
    · next head => simp [(List.cons.inj head).1] at digit
    · rw [scanned]
      rfl

theorem toDigits_leading {n : Nat} (positive : 0 < n) :
    ∃ first digits, Nat.toDigits 10 n = first :: digits ∧ first ≠ '0' := by
  induction n using Nat.strongRecOn with
  | ind n ih =>
    by_cases small : n < 10
    · refine ⟨n.digitChar, [], Nat.toDigits_of_lt_base small, ?_⟩
      intro zero
      rw [Nat.digitChar_eq_zero] at zero
      omega
    · obtain ⟨first, digits, written, nonzero⟩ := ih (n / 10) (by omega) (by omega)
      refine ⟨first, digits ++ [(n % 10).digitChar], ?_, nonzero⟩
      rw [Nat.toDigits_of_base_le (by decide) (by omega), written, List.cons_append]

/-! ### Hexadecimal digits -/

def hexValue (c : Char) : Option Nat :=
  if c.isDigit then some (c.toNat - 48)
  else if 'a' ≤ c ∧ c ≤ 'f' then some (c.toNat - 87)
  else if 'A' ≤ c ∧ c ≤ 'F' then some (c.toNat - 55)
  else none

/-- The number that the digits go on to, after `high`. -/
def readHex (high : Nat) : List Char → Option Nat
  | [] => some high
  | c :: rest => (hexValue c).bind fun digit => readHex (16 * high + digit) rest

theorem hexValue_digitChar {n : Nat} (small : n < 16) : hexValue (Nat.digitChar n) = some n := by
  match n, small with
  | 0, _ | 1, _ | 2, _ | 3, _ | 4, _ | 5, _ | 6, _ | 7, _ | 8, _ | 9, _ | 10, _ | 11, _ | 12, _ | 13, _
  | 14, _ | 15, _ => rfl
  | n + 16, large => exact absurd large (by omega)

theorem readHex_append (high : Nat) (digits rest : List Char) :
    readHex high (digits ++ rest) = (readHex high digits).bind fun n => readHex n rest := by
  induction digits generalizing high with
  | nil => rfl
  | cons c digits ih =>
    cases digit : hexValue c with
    | none => simp [readHex, digit]
    | some d => simpa [readHex, digit] using ih _

theorem readHex_toDigits (n : Nat) : readHex 0 (Nat.toDigits 16 n) = some n := by
  induction n using Nat.strongRecOn with
  | ind n ih =>
    by_cases small : n < 16
    · rw [Nat.toDigits_of_lt_base small, readHex, hexValue_digitChar small]
      simp [readHex]
    · have split : 16 * (n / 16) + n % 16 = n := by omega
      rw [Nat.toDigits_of_base_le (by decide) (by omega), readHex_append, ih (n / 16) (by omega),
        Option.bind_some, readHex, hexValue_digitChar (by omega), Option.bind_some, split]
      rfl

theorem isSome_hexValue_of_mem_toDigits {n : Nat} {c : Char} (h : c ∈ Nat.toDigits 16 n) :
    (hexValue c).isSome := by
  induction n using Nat.strongRecOn with
  | ind n ih =>
    by_cases small : n < 16
    · rw [Nat.toDigits_of_lt_base small] at h
      rw [List.mem_singleton.mp h, hexValue_digitChar small]
      rfl
    · rw [Nat.toDigits_of_base_le (by decide) (by omega)] at h
      rcases List.mem_append.mp h with before | last
      · exact ih (n / 16) (by omega) before
      · rw [List.mem_singleton.mp last, hexValue_digitChar (by omega)]
        rfl

end Decimal
