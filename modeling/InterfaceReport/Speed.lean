import InterfaceReport.Error
import InterfaceReport.NaturalOrder
import InterfaceReport.Number.Binary64
import InterfaceReport.Text.Blank
import InterfaceReport.Text.Decimal
import InterfaceReport.Text.Pieces

/-! Speeds: unsigned numbers of megabits per second as they are stored, and their display with a
unit. -/

namespace InterfaceReport

/-- The text shown for what is not known. -/
def notAvailable : String := "N/A"

namespace Optics

def copper : String := "RJ45"

end Optics

namespace Speed

def bound : Nat := UInt64.size

/-- The speed that a stored text gives. White space around the number does not matter. -/
def ofText? (raw : String) : Option Nat := Text.Decimal.ofText? bound (Text.trim raw)

def parse (raw : String) : Except Error Nat :=
  match ofText? raw with
  | some speed => .ok speed
  | none => .error (.malformedSpeed raw)

/-- The gigabits that a speed comes to, divided and rounded in binary64. -/
def gigabits (speed : Nat) : Fraction :=
  ((Fraction.whole speed).toBinary64.dividedBy 1000).toBinary64

/-- The text of a speed. Megabits reach up to 999, on copper to 1000. From there on the unit is the
gigabit, with one decimal when a tenth or more is left over. -/
def format (speed : Nat) (optics : String) : String :=
  if speed < 1000 || (optics == Optics.copper && speed ≤ 1000) then toString speed ++ "M"
  else if 100 ≤ speed % 1000 then (gigabits speed).tenthsText ++ "G"
  else (gigabits speed).wholeText ++ "G"

def formatText (raw optics : String) : Except Error String :=
  (parse raw).map (format · optics)

def listItems (raw : String) : List String := naturalSort ((Text.pieces ',' raw).map Text.trim)

/-- The text of a stored list of speeds, in natural order. The words for "unknown" and "every speed"
stand for themselves. -/
def formatList (raw optics : String) : Except Error String :=
  if raw == notAvailable || raw == "all" then .ok raw
  else do
    let texts ← (listItems raw).mapM (formatText · optics)
    return ",".intercalate texts

end Speed
end InterfaceReport
