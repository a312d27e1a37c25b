import Mathlib
import Atomwall.Base.ByteString

/-! Texts in lower case, and comparison without regard to case. -/

namespace ByteString

theorem toLower_eq_self {c : Char} (h : c.toLower.isAlpha = false) : c.toLower = c := by
  rw [Char.isAlpha_toLower_eq_isAlpha] at h
  apply Char.toLower_eq_of_not_isUpper
  intro upper
  rw [Char.isAlpha, upper, Bool.true_or] at h
  cases h

theorem isAlpha_of_isDigit {c : Char} (digit : c.isDigit = true) : c.isAlpha = false := by
  have range : 48 ≤ c.val.toNat ∧ c.val.toNat ≤ 57 := Char.isDigit_iff_toNat.mp digit
  rw [Char.isAlpha, Bool.or_eq_false_iff]
  constructor
  · simp only [Char.isUpper, decide_eq_false_iff_not]
    intro inside
    have letters : 65 ≤ c.val.toNat ∧ c.val.toNat ≤ 90 := inside
    omega
  · simp only [Char.isLower, Bool.and_eq_false_iff, decide_eq_false_iff_not]
    left
    intro above
    have letters : 97 ≤ c.val.toNat := above
    omega

theorem toList_lower (s : String) : (lower s).toList = s.toList.map Char.toLower := by
  simp [lower]

theorem lower_lower (s : String) : lower (lower s) = lower s := by
  apply String.toList_injective
  rw [toList_lower, toList_lower, List.map_map]
  exact List.map_congr_left fun c _ => Char.toLower_toLower_eq_toLower c

theorem length_lower (s : String) : (lower s).length = s.length := by
  rw [← String.length_toList, toList_lower, List.length_map, String.length_toList]

theorem iequals_iff {a b : String} : iequals a b = true ↔ lower a = lower b := by
  simp [iequals]

end ByteString
