/-! Non-negative fractions rounded to binary64, whose significand has 53 bits, and to whole numbers.
Every rounding goes to the nearest value, and from halfway to the even one. -/

namespace InterfaceReport

/-- The whole number nearest to `num / den`; of two that are as near, the even one. -/
def roundHalfEven (num den : Nat) : Nat :=
  let q := num / den
  let r := num % den
  if 2 * r < den then q
  else if den < 2 * r then q + 1
  else q + q % 2

/-- The rounded number is at most half a unit away. -/
theorem roundHalfEven_near {num den : Nat} (h : 0 < den) :
    2 * num ≤ 2 * (roundHalfEven num den * den) + den ∧
      2 * (roundHalfEven num den * den) ≤ 2 * num + den := by
  have hq : den * (num / den) + num % den = num := Nat.div_add_mod num den
  have hr : num % den < den := Nat.mod_lt _ h
  rw [Nat.mul_comm] at hq
  unfold roundHalfEven
  simp only
  split
  · omega
  · split
    · rw [Nat.add_mul]; omega
    · rcases Nat.mod_two_eq_zero_or_one (num / den) with he | he <;> rw [he, Nat.add_mul] <;> omega

/-- The fraction `num / den`. -/
structure Fraction where
  num : Nat
  den : Nat
deriving DecidableEq

namespace Fraction

def whole (n : Nat) : Fraction := ⟨n, 1⟩

def dividedBy (f : Fraction) (n : Nat) : Fraction := ⟨f.num, f.den * n⟩

/-- The binary64 value nearest to a fraction that is 0 or at least 1. The last bit of a value
between `2 ^ e` and `2 ^ (e + 1)` is worth `2 ^ (e - 52)`; one of the two powers below is `1`. -/
def toBinary64 (f : Fraction) : Fraction :=
  let e := (f.num / f.den).log2
  let fine := Nat.pow 2 (52 - e)
  let coarse := Nat.pow 2 (e - 52)
  ⟨roundHalfEven (f.num * fine) (f.den * coarse) * coarse, fine⟩

def wholeText (f : Fraction) : String := toString (roundHalfEven f.num f.den)

/-- The nearest multiple of a tenth, in decimal with one place. -/
def tenthsText (f : Fraction) : String :=
  let t := roundHalfEven (10 * f.num) f.den
  toString (t / 10) ++ "." ++ toString (t % 10)

end Fraction
end InterfaceReport
