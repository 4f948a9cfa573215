/-! Unsigned decimal numerals with a largest admitted value. -/

namespace InterfaceReport.Text.Decimal

def isNumeral (cs : List Char) : Bool := !cs.isEmpty && cs.all Char.isDigit

def value (cs : List Char) : Nat := Nat.ofDigitChars 10 cs 0

/-- The number that `cs` writes, if it is a numeral and writes a number below `bound`. -/
def ofDigits? (bound : Nat) (cs : List Char) : Option Nat :=
  if isNumeral cs && value cs < bound then some (value cs) else none

/-- The number below `bound` that `s` writes; one plus sign may stand before the digits. -/
def ofText? (bound : Nat) (s : String) : Option Nat :=
  match s.toList with
  | '+' :: cs => ofDigits? bound cs
  | cs => ofDigits? bound cs

theorem ofDigits?_lt {bound n : Nat} {cs : List Char} (h : ofDigits? bound cs = some n) :
    n < bound := by
  simp only [ofDigits?, Bool.and_eq_true, decide_eq_true_eq] at h
  split at h
  · rename_i hc
    cases h
    exact hc.2
  · cases h

theorem ofText?_lt {bound n : Nat} {s : String} (h : ofText? bound s = some n) : n < bound := by
  unfold ofText? at h
  split at h <;> exact ofDigits?_lt h

end InterfaceReport.Text.Decimal
