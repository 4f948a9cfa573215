import InterfaceReport.Number.Binary64
import Mathlib.Algebra.Order.Round
import Mathlib.Data.Rat.Floor
import Mathlib.Tactic.FieldSimp
import Mathlib.Tactic.Linarith
import Mathlib.Tactic.Positivity

/-! How far rounding takes a fraction: to a whole number by half a unit at most, and to binary64 by
half of what the last bit is worth. Numbers that the significand holds stay as they are. -/

namespace InterfaceReport

/-- No whole number is nearer to `x` than `n`. -/
def IsNearest (x : ℚ) (n : ℤ) : Prop := ∀ k : ℤ, |(n : ℚ) - x| ≤ |(k : ℚ) - x|

section Nearest

variable {x : ℚ} {m n : ℤ}

/-- Whole numbers are at least a unit apart, so of two one is half a unit away from `x` or more. -/
theorem one_le_abs_sub_add_abs_sub (h : m ≠ n) : (1 : ℚ) ≤ |(m : ℚ) - x| + |(n : ℚ) - x| := by
  have hunit : (1 : ℚ) ≤ |(m : ℚ) - n| := by
    exact_mod_cast Int.one_le_abs (sub_ne_zero.2 h)
  calc (1 : ℚ) ≤ |(m : ℚ) - n| := hunit
    _ ≤ |(m : ℚ) - x| + |x - n| := abs_sub_le _ _ _
    _ = |(m : ℚ) - x| + |(n : ℚ) - x| := by rw [abs_sub_comm x]

theorem isNearest_iff : IsNearest x n ↔ |(n : ℚ) - x| ≤ 1 / 2 := by
  constructor
  · intro h
    have hround : |(round x : ℚ) - x| ≤ 1 / 2 := by
      rw [abs_sub_comm]
      exact abs_sub_round x
    exact (h (round x)).trans hround
  · intro h k
    by_cases hk : n = k
    · rw [hk]
    · have hfar := one_le_abs_sub_add_abs_sub (x := x) hk
      linarith

/-- Nearer than half a unit to `x` there is one whole number at most. -/
theorem IsNearest.eq_of_abs_lt (hm : IsNearest x m) (hn : |(n : ℚ) - x| < 1 / 2) : m = n := by
  by_contra hne
  have hfar := one_le_abs_sub_add_abs_sub (x := x) hne
  have hhalf := isNearest_iff.1 hm
  linarith

end Nearest

theorem isNearest_div_iff {num den : Nat} (h : 0 < den) {n : ℤ} : IsNearest (num / den) n ↔
    2 * (num : ℤ) ≤ 2 * (n * den) + den ∧ 2 * (n * den) ≤ 2 * (num : ℤ) + den := by
  have hden : (0 : ℚ) < den := by exact_mod_cast h
  have hnum : (num / den * den : ℚ) = num := div_mul_cancel₀ _ hden.ne'
  have hscale : |(n : ℚ) - num / den| ≤ 1 / 2 ↔ |(2 * (n * den) - 2 * num : ℚ)| ≤ den := by
    have hdist : (2 * (n * den) - 2 * num : ℚ) = (n - num / den) * (2 * den) := by
      rw [sub_mul, mul_left_comm (num / den : ℚ), hnum, mul_left_comm]
    rw [hdist, abs_mul, abs_of_pos (a := (2 * den : ℚ)) (by positivity), ← le_div_iff₀ (by positivity)]
    rw [div_mul_cancel_right₀ hden.ne', one_div]
  rw [isNearest_iff, hscale, abs_le]
  norm_cast
  omega

theorem isNearest_roundHalfEven (num : Nat) {den : Nat} (h : 0 < den) :
    IsNearest (num / den) (roundHalfEven num den) := by
  rw [isNearest_div_iff h]
  exact_mod_cast roundHalfEven_near h

theorem roundHalfEven_mul (n : Nat) {den : Nat} (h : 0 < den) : roundHalfEven (n * den) den = n := by
  rw [roundHalfEven, Nat.mul_div_cancel n h, Nat.mul_mod_left]
  simp [h]

namespace Fraction

variable {f : Fraction}

/-- The number that a fraction writes. -/
def value (f : Fraction) : ℚ := f.num / f.den

theorem den_toBinary64_pos (f : Fraction) : 0 < f.toBinary64.den := Nat.pow_pos Nat.two_pos

theorem value_dividedBy (f : Fraction) (n : Nat) : (f.dividedBy n).value = f.value / n := by
  rw [value, value, dividedBy, Nat.cast_mul, div_mul_eq_div_div]

theorem log2_div_le (hden : 0 < f.den) {e : Nat} (h : f.value < 2 ^ (e + 1)) :
    (f.num / f.den).log2 ≤ e := by
  have hden' : (0 : ℚ) < f.den := by exact_mod_cast hden
  have hlt : f.num < 2 ^ (e + 1) * f.den := by
    rw [value, div_lt_iff₀ hden'] at h
    exact_mod_cast h
  by_cases hzero : f.num / f.den = 0
  · simp [hzero]
  · have hdiv : f.num / f.den < 2 ^ (e + 1) := Nat.div_lt_of_lt_mul (by rwa [Nat.mul_comm])
    exact Nat.lt_succ_iff.1 ((Nat.log2_lt hzero).2 hdiv)

/-- What the last bit is worth is one power of two over another, of which one is 1. -/
theorem two_pow_sub_div_two_pow_sub (e : Nat) :
    (2 : ℚ) ^ (e - 52) / 2 ^ (52 - e) = 2 ^ e / 2 ^ 52 := by
  rw [div_eq_div_iff (by positivity) (by positivity), ← pow_add, ← pow_add]
  congr 1
  omega

/-- The last bit of the values below `2 ^ (e + 1)` is worth `2 ^ e / 2 ^ 52`, or less, and rounding
goes half of that at most. -/
theorem abs_value_toBinary64_sub_le (hden : 0 < f.den) {e : Nat} (h : f.value < 2 ^ (e + 1)) :
    |f.toBinary64.value - f.value| ≤ 2 ^ e / 2 ^ 53 := by
  have hlog := log2_div_le hden h
  generalize hl : (f.num / f.den).log2 = l at hlog
  set n := roundHalfEven (f.num * 2 ^ (52 - l)) (f.den * 2 ^ (l - 52)) with hn
  have hvalue : f.toBinary64.value = n * 2 ^ (l - 52) / 2 ^ (52 - l) := by
    simp only [value, toBinary64, hl, Nat.pow_eq, ← hn]
    push_cast
    rfl
  have hunit : 0 < f.den * 2 ^ (l - 52) := Nat.mul_pos hden (Nat.pow_pos Nat.two_pos)
  have hnear := isNearest_iff.1 (isNearest_roundHalfEven (f.num * 2 ^ (52 - l)) hunit)
  rw [← hn, Int.cast_natCast] at hnear
  push_cast at hnear
  set x : ℚ := f.num * 2 ^ (52 - l) / (f.den * 2 ^ (l - 52)) with hx
  have hscale : f.toBinary64.value - f.value = (n - x) * (2 ^ l / 2 ^ 52) := by
    have hden' : (f.den : ℚ) ≠ 0 := by exact_mod_cast hden.ne'
    rw [← two_pow_sub_div_two_pow_sub, hvalue, value, hx]
    field_simp
  calc |f.toBinary64.value - f.value| = |n - x| * (2 ^ l / 2 ^ 52) := by
        rw [hscale, abs_mul, abs_of_pos (a := (2 ^ l / 2 ^ 52 : ℚ)) (by positivity)]
    _ ≤ 1 / 2 * (2 ^ e / 2 ^ 52) := by
        have hpow : (2 : ℚ) ^ l ≤ 2 ^ e := pow_le_pow_right₀ (by norm_num) hlog
        gcongr
    _ = 2 ^ e / 2 ^ 53 := by ring

/-- A whole number of at most 53 bits is a value of binary64. -/
theorem value_toBinary64_whole {n : Nat} (h : n ≤ 2 ^ 53) : (whole n).toBinary64.value = n := by
  rcases Nat.lt_or_eq_of_le h with hlt | rfl
  · have hlog : n.log2 - 52 = 0 := by
      by_cases hzero : n = 0
      · simp [hzero]
      · exact Nat.sub_eq_zero_of_le (Nat.lt_succ_iff.1 ((Nat.log2_lt hzero).2 hlt))
    simp only [value, toBinary64, whole, Nat.div_one, hlog, Nat.one_mul, Nat.pow_eq, Nat.pow_zero]
    have hexact := roundHalfEven_mul (n * 2 ^ (52 - n.log2)) Nat.one_pos
    rw [Nat.mul_one] at hexact
    rw [hexact]
    push_cast
    field_simp
  · have hbits : (whole (2 ^ 53)).toBinary64 = ⟨2 ^ 53, 1⟩ := by decide
    rw [hbits, value]
    norm_num

end Fraction
end InterfaceReport
