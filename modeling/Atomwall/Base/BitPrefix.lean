import Mathlib.Algebra.Order.Ring.Nat
import Mathlib.Data.List.Basic

/-!
Byte strings as big-endian numbers, and the comparison of their first bits byte by byte with a mask for
the last ones.
-/

namespace BitPrefix

def value : List UInt8 → Nat
  | [] => 0
  | b :: rest => b.toNat * 256 ^ rest.length + value rest

/-- The number that the first `n` bits make. -/
def top (n : Nat) (data : List UInt8) : Nat := value data >>> (8 * data.length - n)

/-- The bits that `remaining` of a byte leave. -/
def mask (remaining : Nat) : UInt8 := UInt8.ofNat (0xFF00 >>> remaining)

/-- Whole bytes are equal, and what the mask leaves of the next one. -/
def Agree (n : Nat) (a b : List UInt8) : Prop :=
  (∀ i < n / 8, a[i]? = b[i]?) ∧
    (n % 8 ≠ 0 → a[n / 8]?.map (· &&& mask (n % 8)) = b[n / 8]?.map (· &&& mask (n % 8)))

variable {a b : UInt8} {as bs data : List UInt8} {n : Nat}

theorem pow_bytes (length : Nat) : 256 ^ length = 2 ^ (8 * length) := by
  rw [Nat.pow_mul]

theorem value_lt (data : List UInt8) : value data < 2 ^ (8 * data.length) := by
  induction data with
  | nil => simp [value]
  | cons b rest ih =>
    have byte := b.toNat_lt
    have split : 2 ^ (8 * (b :: rest).length) = 256 * 2 ^ (8 * rest.length) := by
      rw [List.length_cons, Nat.mul_add, Nat.pow_add, Nat.mul_comm]
    rw [value, pow_bytes, split]
    calc b.toNat * 2 ^ (8 * rest.length) + value rest
        < b.toNat * 2 ^ (8 * rest.length) + 2 ^ (8 * rest.length) := Nat.add_lt_add_left ih _
      _ = (b.toNat + 1) * 2 ^ (8 * rest.length) := (Nat.succ_mul _ _).symm
      _ ≤ 256 * 2 ^ (8 * rest.length) := Nat.mul_le_mul_right _ byte

theorem value_append : value (as ++ bs) = value as * 2 ^ (8 * bs.length) + value bs := by
  induction as with
  | nil => simp [value]
  | cons a as ih =>
    rw [List.cons_append, value, value, ih, pow_bytes, pow_bytes, List.length_append, Nat.mul_add,
      Nat.pow_add, Nat.add_mul, Nat.mul_assoc, Nat.add_assoc]

theorem value_drop (n : Nat) (data : List UInt8) :
    value (data.drop n) = value data % 2 ^ (8 * (data.length - n)) := by
  have split := @value_append (data.take n) (data.drop n)
  have rest := value_lt (data.drop n)
  rw [List.take_append_drop, List.length_drop] at split
  rw [List.length_drop] at rest
  rw [split, Nat.mul_add_mod', Nat.mod_eq_of_lt rest]

theorem top_lt (within : n ≤ 8 * data.length) : top n data < 2 ^ n := by
  have bound := value_lt data
  have split : 2 ^ (8 * data.length) = 2 ^ n * 2 ^ (8 * data.length - n) := by
    rw [← Nat.pow_add]
    congr 1
    omega
  rw [split] at bound
  unfold top
  rw [Nat.shiftRight_eq_div_pow]
  exact Nat.div_lt_of_lt_mul (by rwa [Nat.mul_comm])

theorem top_byte (within : n ≤ 8 * as.length) :
    top (n + 8) (a :: as) = a.toNat * 2 ^ n + top n as := by
  have shift : 8 * (a :: as).length - (n + 8) = 8 * as.length - n := by
    rw [List.length_cons]
    omega
  have split : 2 ^ (8 * as.length) = 2 ^ n * 2 ^ (8 * as.length - n) := by
    rw [← Nat.pow_add]
    congr 1
    omega
  unfold top
  rw [shift, Nat.shiftRight_eq_div_pow, Nat.shiftRight_eq_div_pow, value, pow_bytes, split,
    ← Nat.mul_assoc, Nat.add_comm, Nat.add_mul_div_right _ _ (Nat.two_pow_pos _), Nat.add_comm]

theorem top_bits (few : n < 8) : top n (a :: as) = a.toNat / 2 ^ (8 - n) := by
  have shift : 8 * (a :: as).length - n = 8 * as.length + (8 - n) := by
    rw [List.length_cons]
    omega
  unfold top
  rw [shift, Nat.shiftRight_eq_div_pow, Nat.pow_add, ← Nat.div_div_eq_div_mul, value, pow_bytes,
    Nat.add_comm, Nat.add_mul_div_right _ _ (Nat.two_pow_pos _), Nat.div_eq_of_lt (value_lt as),
    Nat.zero_add]

theorem toNat_and_mask : ∀ n < 8, ∀ byte < 256,
    (UInt8.ofNat byte &&& mask n).toNat = byte / 2 ^ (8 - n) * 2 ^ (8 - n) := by
  decide +kernel

theorem and_mask_eq_iff (few : n < 8) :
    a &&& mask n = b &&& mask n ↔ a.toNat / 2 ^ (8 - n) = b.toNat / 2 ^ (8 - n) := by
  have left := toNat_and_mask n few a.toNat a.toNat_lt
  have right := toNat_and_mask n few b.toNat b.toNat_lt
  rw [UInt8.ofNat_toNat] at left right
  rw [← UInt8.toNat_inj, left, right]
  exact Nat.mul_left_inj (Nat.two_pow_pos _).ne'

theorem top_byte_eq_iff (same : as.length = bs.length) (within : n ≤ 8 * as.length) :
    top (n + 8) (a :: as) = top (n + 8) (b :: bs) ↔ a = b ∧ top n as = top n bs := by
  have left := top_lt within
  have right := top_lt (same ▸ within : n ≤ 8 * bs.length)
  rw [top_byte within, top_byte (same ▸ within)]
  constructor
  · intro equal
    have high : a.toNat = b.toNat := by
      have first := congrArg (· / 2 ^ n) equal
      simpa only [Nat.mul_comm _ (2 ^ n), Nat.mul_add_div (Nat.two_pow_pos n), Nat.div_eq_of_lt left,
        Nat.div_eq_of_lt right, Nat.add_zero] using first
    refine ⟨UInt8.toNat_inj.mp high, ?_⟩
    rw [high] at equal
    exact Nat.add_left_cancel equal
  · intro given
    obtain ⟨rfl, rest⟩ := given
    rw [rest]

theorem agree_byte : Agree (n + 8) (a :: as) (b :: bs) ↔ a = b ∧ Agree n as bs := by
  have whole : (n + 8) / 8 = n / 8 + 1 := by omega
  have part : (n + 8) % 8 = n % 8 := by omega
  unfold Agree
  rw [whole, part, ← and_assoc]
  refine and_congr ?_ (by simp)
  constructor
  · intro equal
    refine ⟨by simpa using equal 0 (Nat.succ_pos _), fun i small => ?_⟩
    simpa using equal (i + 1) (Nat.succ_lt_succ small)
  · intro given i small
    obtain ⟨rfl, equal⟩ := given
    cases i with
    | zero => rfl
    | succ i => simpa using equal i (Nat.lt_of_succ_lt_succ small)

/-- Byte strings of one length agree in their first bits exactly when these make the same number. -/
theorem agree_iff (same : as.length = bs.length) (within : n ≤ 8 * as.length) :
    Agree n as bs ↔ top n as = top n bs := by
  induction as generalizing bs n with
  | nil =>
    obtain rfl := List.eq_nil_of_length_eq_zero same.symm
    exact iff_of_true ⟨fun _ _ => rfl, fun _ => rfl⟩ rfl
  | cons a as ih =>
    cases bs with
    | nil => cases same
    | cons b bs =>
      have rest : as.length = bs.length := Nat.succ.inj same
      by_cases few : n < 8
      · have none_whole : n / 8 = 0 := by omega
        have all_part : n % 8 = n := by omega
        rw [top_bits few, top_bits few, ← and_mask_eq_iff few]
        unfold Agree
        rw [none_whole, all_part]
        by_cases zero : n = 0
        · subst zero
          simp [mask]
        · simp [zero]
      · obtain ⟨m, rfl⟩ := Nat.exists_eq_add_of_le' (Nat.not_lt.mp few)
        have inside : m ≤ 8 * as.length := by
          rw [List.length_cons] at within
          omega
        rw [agree_byte, top_byte_eq_iff rest inside, ih rest inside]

end BitPrefix
