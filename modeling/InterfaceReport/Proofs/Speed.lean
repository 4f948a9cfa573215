import InterfaceReport.Proofs.Number.Binary64
import InterfaceReport.Speed

/-! The display of a speed. Dividing in binary64 moves a speed of at most 53 bits by less than a
megabit, and a megabit is the least that a speed can be away from where the last figure shown
changes. So the figures are those that exact arithmetic gives. -/

namespace InterfaceReport.Speed

open Fraction

variable {speed : Nat} {optics : String}

/-- The speed is shown in megabits. -/
def InMegabits (speed : Nat) (optics : String) : Prop :=
  speed < 1000 ∨ optics = Optics.copper ∧ speed ≤ 1000

instance (speed : Nat) (optics : String) : Decidable (InMegabits speed optics) :=
  inferInstanceAs (Decidable (_ ∨ _))

theorem format_of_inMegabits (h : InMegabits speed optics) :
    format speed optics = toString speed ++ "M" := by
  have htest : (speed < 1000 || (optics == Optics.copper && speed ≤ 1000)) = true := by
    simpa [InMegabits] using h
  rw [format, if_pos htest]

theorem format_of_not_inMegabits (h : ¬ InMegabits speed optics) :
    format speed optics = if 100 ≤ speed % 1000 then (gigabits speed).tenthsText ++ "G"
      else (gigabits speed).wholeText ++ "G" := by
  have htest : ¬ (speed < 1000 || (optics == Optics.copper && speed ≤ 1000)) = true := by
    simpa [InMegabits] using h
  rw [format, if_neg htest]

/-- The quotient is below `2 ^ 44`, so its last bit is worth at most `2 ^ 43 / 2 ^ 52`. -/
theorem abs_value_gigabits_sub_le (h : speed ≤ 2 ^ 53) :
    |(gigabits speed).value - speed / 1000| ≤ 1 / 2 ^ 10 := by
  have hvalue : ((whole speed).toBinary64.dividedBy 1000).value = speed / 1000 := by
    rw [value_dividedBy, value_toBinary64_whole h, Nat.cast_ofNat]
  have hden : 0 < ((whole speed).toBinary64.dividedBy 1000).den :=
    Nat.mul_pos (den_toBinary64_pos _) (by decide)
  have hspeed : (speed : ℚ) ≤ 2 ^ 53 := by exact_mod_cast h
  have hnear := abs_value_toBinary64_sub_le hden (e := 43) (by rw [hvalue]; linarith)
  rw [hvalue] at hnear
  calc |(gigabits speed).value - speed / 1000| ≤ 2 ^ 43 / 2 ^ 53 := hnear
    _ = 1 / 2 ^ 10 := by norm_num

/-- A whole number of gigabits that leaves less than a tenth is far from where rounding turns. -/
theorem wholeText_gigabits (h : speed ≤ 2 ^ 53) (hrest : speed % 1000 < 100) :
    (gigabits speed).wholeText = toString (speed / 1000) := by
  have hnear : IsNearest (gigabits speed).value
      (roundHalfEven (gigabits speed).num (gigabits speed).den) :=
    isNearest_roundHalfEven _ (den_toBinary64_pos _)
  have herror := abs_le.1 (abs_value_gigabits_sub_le h)
  have hspeed : (1000 * (speed / 1000 : ℕ) + (speed % 1000 : ℕ) : ℚ) = speed := by
    exact_mod_cast Nat.div_add_mod speed 1000
  have hrest' : ((speed % 1000 : ℕ) : ℚ) ≤ 99 := by exact_mod_cast Nat.le_of_lt_succ hrest
  have hclose : |((speed / 1000 : ℕ) : ℤ) - (gigabits speed).value| < 1 / 2 := by
    rw [Int.cast_natCast, abs_lt]
    constructor <;> linarith [(speed % 1000).cast_nonneg (α := ℚ)]
  have heq := hnear.eq_of_abs_lt hclose
  rw [wholeText, Int.natCast_inj.1 heq]

/-- The tenths shown are the nearest to the quotient, which is less than a hundredth of a tenth away
from the speed. A megabit is a hundredth of a tenth, so there is no other speed between the two. -/
theorem isNearest_tenths (h : speed ≤ 2 ^ 53) : IsNearest (speed / (100 : Nat))
    (roundHalfEven (10 * (gigabits speed).num) (gigabits speed).den) := by
  have hnear : IsNearest (((10 * (gigabits speed).num : ℕ) : ℚ) / (gigabits speed).den)
      (roundHalfEven (10 * (gigabits speed).num) (gigabits speed).den) :=
    isNearest_roundHalfEven _ (den_toBinary64_pos _)
  have hquotient : ((10 * (gigabits speed).num : ℕ) : ℚ) / (gigabits speed).den =
      10 * (gigabits speed).value := by
    rw [value, ← mul_div_assoc, Nat.cast_mul, Nat.cast_ofNat]
  rw [hquotient, isNearest_iff] at hnear
  generalize roundHalfEven (10 * (gigabits speed).num) (gigabits speed).den = t at hnear ⊢
  obtain ⟨hlow, hhigh⟩ := abs_le.1 hnear
  obtain ⟨herrorLow, herrorHigh⟩ := abs_le.1 (abs_value_gigabits_sub_le h)
  have habove : (100 * t : ℚ) < speed + 51 := by
    push_cast at hhigh
    linarith
  have hbelow : (speed : ℚ) < 100 * t + 51 := by
    push_cast at hlow
    linarith
  rw [isNearest_div_iff (by decide)]
  have habove' : 100 * t < speed + 51 := by exact_mod_cast habove
  have hbelow' : speed < 100 * t + 51 := by exact_mod_cast hbelow
  omega

/-- A speed of at most 53 bits is shown exactly but for rounding. In megabits it is shown as it is.
In gigabits, less than a tenth left over is not shown. Otherwise the tenths shown are the nearest to
the speed, and no other tenths are as near unless the speed is halfway between two of them. -/
theorem format_exact_up_to_rounding (speed : Nat) (optics : String) (h : speed ≤ 2 ^ 53) :
    (InMegabits speed optics → format speed optics = toString speed ++ "M") ∧
    (¬ InMegabits speed optics → speed % 1000 < 100 →
      format speed optics = toString (speed / 1000) ++ "G") ∧
    (¬ InMegabits speed optics → 100 ≤ speed % 1000 → ∃ whole tenth : Nat, tenth < 10 ∧
      format speed optics = toString whole ++ "." ++ toString tenth ++ "G" ∧
      IsNearest (speed / 100) (10 * whole + tenth) ∧
      ∀ n, IsNearest (speed / 100) n → n = 10 * whole + tenth ∨ speed % 100 = 50) := by
  refine ⟨format_of_inMegabits, ?_, ?_⟩
  · intro hunit hrest
    rw [format_of_not_inMegabits hunit, if_neg (Nat.not_le.2 hrest), wholeText_gigabits h hrest]
  · intro hunit hrest
    have hnear := isNearest_tenths h
    have hformat : format speed optics = (gigabits speed).tenthsText ++ "G" := by
      rw [format_of_not_inMegabits hunit, if_pos hrest]
    rw [tenthsText] at hformat
    generalize roundHalfEven (10 * (gigabits speed).num) (gigabits speed).den = t at hnear hformat
    have htenths : (t : ℤ) = 10 * (t / 10 : ℕ) + (t % 10 : ℕ) := by omega
    refine ⟨t / 10, t % 10, Nat.mod_lt _ (by decide), hformat, ?_, fun n hn => ?_⟩
    · rwa [htenths] at hnear
    · have hn' : IsNearest (speed / (100 : ℕ)) n := hn
      rw [isNearest_div_iff (by decide)] at hnear hn'
      omega

/-- The greatest speed of 53 bits leaves 992 megabits, which carry into the gigabits. -/
theorem format_exact_up_to_rounding_carry :
    9007199254740992 ≤ 2 ^ 53 ∧ format 9007199254740992 "RJ45" = "9007199254741.0G" := by
  refine ⟨by decide, ?_⟩
  obtain ⟨-, -, htenths⟩ := format_exact_up_to_rounding 9007199254740992 "RJ45" (by decide)
  obtain ⟨whole, tenth, hdigit, hformat, hnear, -⟩ := htenths (by decide) (by decide)
  have hnear' : IsNearest ((9007199254740992 : ℕ) / (100 : ℕ)) (10 * whole + tenth) := hnear
  rw [isNearest_div_iff (by decide)] at hnear'
  obtain ⟨rfl, rfl⟩ : whole = 9007199254741 ∧ tenth = 0 := by omega
  rw [hformat]
  decide

end InterfaceReport.Speed
