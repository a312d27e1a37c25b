import Mathlib.Data.Nat.Digits.Lemmas

/-!
Digits of `w` bits, the most significant one first, and their regrouping into digits of `v` bits. What is
left at the end and fills no digit is cut off, or filled up with zeros: the one undoes the other.
-/

namespace DigitGroups

def value (w : Nat) (digits : List Nat) : Nat := Nat.ofDigits (2 ^ w) digits.reverse

/-- The loop: the digits come into a buffer, of which `bits` bits were not put out, and go out as soon as
there are enough bits. -/
def collect {B : Type*} (number : B → Nat) (accept : B → Nat → B) (w v : Nat) (buffer : B) (bits : Nat) :
    List Nat → List Nat
  | [] => []
  | d :: rest =>
    if v ≤ bits + w then
      number (accept buffer d) / 2 ^ (bits + w - v) % 2 ^ v ::
        collect number accept w v (accept buffer d) (bits + w - v) rest
    else collect number accept w v (accept buffer d) (bits + w) rest

/-- The digits of a number of `count` bits, without the last ones, which fill no digit. -/
structure Cut (v count number : Nat) (out : List Nat) : Prop where
  length : out.length = count / v
  small : ∀ d ∈ out, d < 2 ^ v
  value : value v out = number / 2 ^ (count % v)

/-- The digits of a number of `count` bits, with zeros behind it to fill the last one. -/
structure Pad (v count number : Nat) (out : List Nat) : Prop where
  enough : count ≤ v * out.length
  tight : v * out.length < count + v
  small : ∀ d ∈ out, d < 2 ^ v
  value : value v out = number * 2 ^ (v * out.length - count)

variable {v w count number d e r : Nat} {digits out other : List Nat}

/-! ### Numbers and their digits -/

theorem value_nil : value w [] = 0 := rfl

theorem value_cons : value w (d :: digits) = d * 2 ^ (w * digits.length) + value w digits := by
  rw [value, List.reverse_cons, Nat.ofDigits_append, Nat.ofDigits_singleton, List.length_reverse,
    ← Nat.pow_mul, Nat.mul_comm, Nat.add_comm]
  rfl

theorem value_snoc : value w (digits ++ [d]) = value w digits * 2 ^ w + d := by
  rw [value, List.reverse_append, List.reverse_singleton, List.singleton_append, Nat.ofDigits_cons,
    Nat.mul_comm, Nat.add_comm]
  rfl

theorem value_eq_foldl : value w digits = digits.foldl (fun number d => number * 2 ^ w + d) 0 := by
  induction digits using List.reverseRecOn with
  | nil => rfl
  | append_singleton digits d ih => rw [value_snoc, ih, List.foldl_append, List.foldl_cons, List.foldl_nil]

theorem value_append :
    value w (digits ++ other) = value w digits * 2 ^ (w * other.length) + value w other := by
  rw [value, List.reverse_append, Nat.ofDigits_append, List.length_reverse, ← Nat.pow_mul, Nat.mul_comm,
    Nat.add_comm, Nat.mul_comm w]
  rfl

theorem value_take (low : Nat) :
    low * 2 ^ (w * (d :: digits).length) + value w (d :: digits) =
      (low * 2 ^ w + d) * 2 ^ (w * digits.length) + value w digits := by
  rw [value_cons, List.length_cons, Nat.mul_succ, Nat.pow_add, Nat.add_mul, Nat.mul_assoc,
    Nat.mul_comm (2 ^ w), Nat.add_assoc]

theorem value_inj (some_bits : 0 < w) (length : digits.length = other.length)
    (small : ∀ d ∈ digits, d < 2 ^ w) (otherSmall : ∀ d ∈ other, d < 2 ^ w)
    (same : value w digits = value w other) : digits = other := by
  apply List.reverse_injective
  refine Nat.ofDigits_inj_of_len_eq (Nat.one_lt_two_pow (Nat.pos_iff_ne_zero.mp some_bits)) ?_ ?_ ?_ same
  · rw [List.length_reverse, List.length_reverse, length]
  · exact fun d member => small d (List.mem_reverse.mp member)
  · exact fun d member => otherSmall d (List.mem_reverse.mp member)

theorem same_but_low (some_bits : 0 < w) (within : r ≤ w) (length : digits.length = other.length)
    (small : ∀ x ∈ digits ++ [d], x < 2 ^ w) (otherSmall : ∀ x ∈ other ++ [e], x < 2 ^ w)
    (same : value w (digits ++ [d]) / 2 ^ r = value w (other ++ [e]) / 2 ^ r) :
    digits = other ∧ d / 2 ^ r = e / 2 ^ r := by
  have part (n x : Nat) : (n * 2 ^ w + x) / 2 ^ r = n * 2 ^ (w - r) + x / 2 ^ r := by
    have split : 2 ^ w = 2 ^ (w - r) * 2 ^ r := by rw [← Nat.pow_add, Nat.sub_add_cancel within]
    rw [split, ← Nat.mul_assoc, Nat.add_comm, Nat.add_mul_div_right _ _ (Nat.two_pow_pos r), Nat.add_comm]
  have high (x : Nat) (fits : x < 2 ^ w) : x / 2 ^ r < 2 ^ (w - r) := by
    rw [Nat.div_lt_iff_lt_mul (Nat.two_pow_pos r), ← Nat.pow_add, Nat.sub_add_cancel within]
    exact fits
  have left := high d (small d (by simp))
  have right := high e (otherSmall e (by simp))
  rw [value_snoc, value_snoc, part, part] at same
  have upper : value w digits = value w other := by
    have quotient := congrArg (· / 2 ^ (w - r)) same
    simpa only [Nat.add_comm (_ * _), Nat.add_mul_div_right _ _ (Nat.two_pow_pos (w - r)),
      Nat.div_eq_of_lt left, Nat.div_eq_of_lt right, Nat.zero_add] using quotient
  rw [upper] at same
  refine ⟨value_inj some_bits length ?_ ?_ upper, Nat.add_left_cancel same⟩
  · exact fun d member => small d (List.mem_append_left _ member)
  · exact fun d member => otherSmall d (List.mem_append_left _ member)

/-! ### Regrouping -/

theorem Cut.nil (few : count < v) (small : number < 2 ^ count) : Cut v count number [] where
  length := (Nat.div_eq_of_lt few).symm
  small := by simp
  value := by rw [value_nil, Nat.mod_eq_of_lt few, Nat.div_eq_of_lt small]

theorem Cut.cons (some_bits : 0 < v) (fits : d < 2 ^ v) (rest : Cut v count number out) :
    Cut v (count + v) (d * 2 ^ count + number) (d :: out) where
  length := by rw [List.length_cons, rest.length, Nat.add_div_right _ some_bits]
  small := List.forall_mem_cons.mpr ⟨fits, rest.small⟩
  value := by
    have split : 2 ^ count = 2 ^ (v * out.length) * 2 ^ (count % v) := by
      rw [← Nat.pow_add, rest.length, Nat.div_add_mod]
    rw [value_cons, rest.value, Nat.add_mod_right, split, ← Nat.mul_assoc, Nat.add_comm (_ * _),
      Nat.add_comm (_ * _), Nat.add_mul_div_right _ _ (Nat.two_pow_pos _)]

theorem Cut.unique (some_bits : 0 < v) (one : Cut v count number out)
    (two : Cut v count number other) : out = other :=
  value_inj some_bits (one.length.trans two.length.symm) one.small two.small
    (one.value.trans two.value.symm)

theorem Pad.nil (some_bits : 0 < v) : Pad v 0 0 [] where
  enough := Nat.zero_le _
  tight := by simpa using some_bits
  small := by simp
  value := by rw [value_nil, Nat.zero_mul]

theorem Pad.last (some_left : 0 < count) (few : count ≤ v) (small : number < 2 ^ count) :
    Pad v count number [number * 2 ^ (v - count)] where
  enough := by simpa using few
  tight := by
    rw [List.length_singleton]
    omega
  small := by
    rw [List.forall_mem_singleton]
    calc number * 2 ^ (v - count)
        < 2 ^ count * 2 ^ (v - count) := Nat.mul_lt_mul_of_pos_right small (Nat.two_pow_pos _)
      _ = 2 ^ v := by rw [← Nat.pow_add, Nat.add_sub_cancel' few]
  value := by rw [value_cons, value_nil, List.length_nil, List.length_singleton, Nat.mul_zero, Nat.mul_one,
    Nat.pow_zero, Nat.mul_one, Nat.add_zero]

theorem Pad.cons (fits : d < 2 ^ v) (rest : Pad v count number out) :
    Pad v (count + v) (d * 2 ^ count + number) (d :: out) where
  enough := by
    have enough := rest.enough
    rw [List.length_cons, Nat.mul_succ]
    omega
  tight := by
    have tight := rest.tight
    rw [List.length_cons, Nat.mul_succ]
    omega
  small := List.forall_mem_cons.mpr ⟨fits, rest.small⟩
  value := by
    have split : 2 ^ (v * out.length) = 2 ^ count * 2 ^ (v * out.length - count) := by
      rw [← Nat.pow_add, Nat.add_sub_cancel' rest.enough]
    rw [value_cons, rest.value, List.length_cons, Nat.mul_succ, Nat.add_sub_add_right, split, Nat.add_mul,
      Nat.mul_assoc]

theorem Pad.append (small : ∀ d ∈ digits, d < 2 ^ v) (rest : Pad v count number out) :
    Pad v (count + v * digits.length) (DigitGroups.value v digits * 2 ^ count + number)
      (digits ++ out) := by
  induction digits with
  | nil => simpa [value_nil] using rest
  | cons d digits ih =>
    obtain ⟨fits, later⟩ := List.forall_mem_cons.mp small
    have more := (ih later).cons fits
    rwa [Nat.pow_add, Nat.mul_comm (2 ^ count), ← Nat.mul_assoc, ← Nat.add_assoc, ← Nat.add_mul,
      ← value_cons, Nat.add_assoc] at more

theorem Pad.unique (some_bits : 0 < v) (one : Pad v count number out)
    (two : Pad v count number other) : out = other := by
  have length : out.length = other.length := by
    have low := one.enough
    have high := one.tight
    have otherLow := two.enough
    have otherHigh := two.tight
    have below : v * out.length < v * (other.length + 1) := by
      rw [Nat.mul_succ]
      omega
    have above : v * other.length < v * (out.length + 1) := by
      rw [Nat.mul_succ]
      omega
    have left := Nat.lt_of_mul_lt_mul_left below
    have right := Nat.lt_of_mul_lt_mul_left above
    omega
  exact value_inj some_bits length one.small two.small (by rw [one.value, two.value, length])

/-- What was filled up with zeros is found again where the last bits are cut off. -/
theorem Cut.of_pad (narrower : v ≤ w) (small : ∀ d ∈ digits, d < 2 ^ w)
    (padded : Pad v (w * digits.length) (DigitGroups.value w digits) out) :
    Cut w (v * out.length) (DigitGroups.value v out) digits := by
  have enough := padded.enough
  have tight := padded.tight
  have whole : v * out.length / w = digits.length := by
    apply Nat.div_eq_of_lt_le
    · rwa [Nat.mul_comm]
    · rw [Nat.succ_mul, Nat.mul_comm digits.length]
      omega
  have left : v * out.length % w = v * out.length - w * digits.length := by
    have division := Nat.div_add_mod (v * out.length) w
    rw [whole] at division
    omega
  refine ⟨whole.symm, small, ?_⟩
  rw [left, padded.value, Nat.mul_div_cancel _ (Nat.two_pow_pos _)]

/-- What was cut off is filled up with zeros, where it is less than a digit. -/
theorem Pad.of_cut (cut : Cut v (w * digits.length) (DigitGroups.value w digits) out)
    (less : w * digits.length % v < w)
    (padded : Pad w (v * out.length) (DigitGroups.value v out) other) :
    other.length = digits.length ∧ DigitGroups.value w other =
      DigitGroups.value w digits / 2 ^ (w * digits.length % v) * 2 ^ (w * digits.length % v) := by
  have division := Nat.div_add_mod (w * digits.length) v
  rw [← cut.length] at division
  have enough := padded.enough
  have tight := padded.tight
  have below : w * digits.length < w * (other.length + 1) := by
    rw [Nat.mul_succ]
    omega
  have above : w * other.length < w * (digits.length + 1) := by
    rw [Nat.mul_succ]
    omega
  have left := Nat.lt_of_mul_lt_mul_left below
  have right := Nat.lt_of_mul_lt_mul_left above
  have length : other.length = digits.length := by omega
  have filled : w * other.length - v * out.length = w * digits.length % v := by
    rw [length]
    omega
  exact ⟨length, by rw [padded.value, filled, cut.value]⟩

/-! ### A buffer whose upper bits are not read -/

theorem low_accept (n : Nat) (fits : d < 2 ^ w) :
    (n * 2 ^ w + d) % 2 ^ (count + w) = n % 2 ^ count * 2 ^ w + d := by
  rw [Nat.pow_add, Nat.mul_comm (2 ^ count), Nat.mod_mul, Nat.mul_add_mod', Nat.mod_eq_of_lt fits,
    Nat.add_comm (_ * _) d, Nat.add_mul_div_right _ _ (Nat.two_pow_pos w), Nat.div_eq_of_lt fits, Nat.zero_add,
    Nat.mul_comm (2 ^ w), Nat.add_comm]

/-- The bits in use are the digit that is put out and those that stay. -/
theorem low_split (n : Nat) :
    n % 2 ^ (count + v) = n / 2 ^ count % 2 ^ v * 2 ^ count + n % 2 ^ count := by
  rw [Nat.pow_add, Nat.mod_mul, Nat.mul_comm, Nat.add_comm]

/-- Only the low bits count, as long as the buffer keeps as many as are in use at once. -/
theorem collect_cut {B : Type*} {number : B → Nat} {accept : B → Nat → B} {buffer : B} {bits : Nat}
    (keeps : ∀ buffer count d, count < v → d < 2 ^ w →
      number (accept buffer d) % 2 ^ (count + w) = number buffer % 2 ^ count * 2 ^ w + d)
    (narrower : w ≤ v) (few : bits < v) (small : ∀ d ∈ digits, d < 2 ^ w) :
    Cut v (bits + w * digits.length)
      (number buffer % 2 ^ bits * 2 ^ (w * digits.length) + DigitGroups.value w digits)
      (collect number accept w v buffer bits digits) := by
  induction digits generalizing buffer bits with
  | nil =>
    rw [List.length_nil, Nat.mul_zero, Nat.add_zero, Nat.pow_zero, Nat.mul_one, value_nil, Nat.add_zero]
    exact Cut.nil few (Nat.mod_lt _ (Nat.two_pow_pos bits))
  | cons d rest ih =>
    obtain ⟨fits, later⟩ := List.forall_mem_cons.mp small
    have kept := keeps buffer bits d few fits
    have count : bits + w * (d :: rest).length = bits + w + w * rest.length := by
      rw [List.length_cons, Nat.mul_succ]
      omega
    rw [value_take, ← kept, count, collect]
    split
    · next enough =>
      have left : bits + w = bits + w - v + v := (Nat.sub_add_cancel enough).symm
      rw [left, low_split, Nat.add_sub_cancel, Nat.add_mul, Nat.mul_assoc, ← Nat.pow_add,
        Nat.add_assoc (_ * _), Nat.add_right_comm]
      exact (ih (by omega) later).cons (by omega) (Nat.mod_lt _ (Nat.two_pow_pos v))
    · exact ih (by omega) later

end DigitGroups
