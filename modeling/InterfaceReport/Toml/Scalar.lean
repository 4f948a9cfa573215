import InterfaceReport.Text.Decimal
import InterfaceReport.Toml.Node

/-! Values that are written without quotes: truth values, numbers, dates and times. The form of a
number is settled here; a number that is out of range is a fault only where it is used. -/

namespace InterfaceReport.Toml.Scalar

open InterfaceReport.Text

/-! ### Underscores -/

def begins (isDigit : Char → Bool) (group : List Char) : Bool := group.head?.any isDigit

def finishes (isDigit : Char → Bool) (group : List Char) : Bool := group.getLast?.any isDigit

/-- Underscores divide `cs` into groups. What stands next to an underscore is a digit. -/
def isGrouped (isDigit : Char → Bool) (cs : List Char) : Bool :=
  let groups := cs.splitOn '_'
  groups.tail.all (begins isDigit) && groups.dropLast.all (finishes isDigit)

def ungrouped (cs : List Char) : List Char := cs.filter (· != '_')

/-! ### Whole numbers -/

/-- The value of a digit in bases up to sixteen. -/
def digitValue (c : Char) : Nat :=
  if c.isDigit then c.toNat - '0'.toNat
  else if 'a' ≤ c && c ≤ 'f' then c.toNat - 'a'.toNat + 10
  else if 'A' ≤ c && c ≤ 'F' then c.toNat - 'A'.toNat + 10
  else 16

def isAnyDigit (c : Char) : Bool := digitValue c < 16

def valueIn (base : Nat) (cs : List Char) : Nat := cs.foldl (fun n c => n * base + digitValue c) 0

def sign : List Char → Int × List Char
  | '+' :: cs => (1, cs)
  | '-' :: cs => (-1, cs)
  | cs => (1, cs)

/-- A number in range: of at most 128 bits. -/
def bounded (n : Int) : Option Int :=
  if -(Nat.pow 2 127 : Nat) ≤ n && n < (Nat.pow 2 128 : Nat) then some n else none

/-- The number that digits in `base` write behind a base mark. No digits write no number. -/
def based? (base : Nat) (cs : List Char) : Option Node :=
  if cs.all (fun c => digitValue c < base || c == '_') && isGrouped isAnyDigit cs then
    let ds := ungrouped cs
    some (.integer (if ds.isEmpty then none else bounded (valueIn base ds)))
  else none

/-- The number in range that a sign, if there is one, and decimal digits write. -/
def decimal? (cs : List Char) : Option Int :=
  let (s, ds) := sign cs
  if Decimal.isNumeral ds then bounded (s * (Decimal.value ds : Nat)) else none

/-! ### Real numbers -/

/-- The least number that binary64 rounds to infinity. -/
def realBound : Nat := Nat.pow 2 1024 - Nat.pow 2 970

/-- Whether `m * 10 ^ e` is below `realBound`. A number of `d` digits lies between `10 ^ (d - 1)`
and `10 ^ d`, which decides for all but moderate exponents. -/
def isFinite (m : Nat) (e : Int) : Bool :=
  let d : Int := (Nat.toDigits 10 m).length
  if m = 0 || d + e < 300 then true
  else if 320 < d + e then false
  else m * Nat.pow 10 e.toNat < realBound * Nat.pow 10 (-e).toNat

def isDigitOrBreak (c : Char) : Bool := c.isDigit || c == '_'

/-- The digits at the beginning of `cs`, if there is one, and what follows them. -/
def digitRun? (cs : List Char) : Option (List Char × List Char) :=
  let ds := ungrouped (cs.takeWhile isDigitOrBreak)
  if ds.isEmpty then none else some (ds, cs.dropWhile isDigitOrBreak)

/-- The digits after the decimal point, if there is one, and what follows them. -/
def fraction? : List Char → Option (List Char × List Char)
  | '.' :: cs => digitRun? cs
  | cs => some ([], cs)

/-- The exponent, if there is one, and what follows it. -/
def exponent? : List Char → Option (Int × List Char)
  | c :: cs =>
    if c == 'e' || c == 'E' then do
      let (s, ds) := sign cs
      let (ds, rest) ← digitRun? ds
      return (s * (Decimal.value ds : Nat), rest)
    else some (0, c :: cs)
  | [] => some (0, [])

/-- The digits at the beginning of a number, and what follows them. A zero at the beginning is the
only digit, without an underscore behind it. -/
def wholePart? : List Char → Option (List Char × List Char)
  | '0' :: cs => if cs.head?.any isDigitOrBreak then none else some (['0'], cs)
  | cs => digitRun? cs

/-- The real number that `cs` writes without a sign: a whole part, a fraction, and an exponent. -/
def real? (cs : List Char) : Option Node := do
  let (whole, rest) ← wholePart? cs
  let (fraction, rest) ← fraction? rest
  let (e, rest) ← exponent? rest
  if !rest.isEmpty then none
  return .real (isFinite (Decimal.value (whole ++ fraction)) (e - (fraction.length : Nat)))

/-! ### Dates and times -/

def isLeap (year : Nat) : Bool := year % 4 == 0 && (year % 100 != 0 || year % 400 == 0)

def daysIn (year month : Nat) : Nat :=
  if month == 2 then (if isLeap year then 29 else 28)
  else if month == 4 || month == 6 || month == 9 || month == 11 then 30
  else 31

/-- The number that exactly `n` digits write, and what follows them. -/
def fixed? (n : Nat) (cs : List Char) : Option (Nat × List Char) :=
  let ds := cs.take n
  if ds.length = n && ds.all Char.isDigit then some (Decimal.value ds, cs.drop n) else none

def mark? (c : Char) : List Char → Option (List Char)
  | d :: cs => if d == c then some cs else none
  | [] => none

def afterDate? (cs : List Char) : Option (List Char) := do
  let (year, cs) ← fixed? 4 cs
  let (month, cs) ← fixed? 2 (← mark? '-' cs)
  let (day, cs) ← fixed? 2 (← mark? '-' cs)
  if 1 ≤ month && month ≤ 12 && 1 ≤ day && day ≤ daysIn year month then some cs else none

def afterFraction? : List Char → Option (List Char)
  | '.' :: cs =>
    if (cs.takeWhile Char.isDigit).isEmpty then none else some (cs.dropWhile Char.isDigit)
  | cs => some cs

/-- What follows a time. The seconds may be left out. -/
def afterTime? (cs : List Char) : Option (List Char) := do
  let (hour, cs) ← fixed? 2 cs
  let (minute, cs) ← fixed? 2 (← mark? ':' cs)
  if !(hour ≤ 23 && minute ≤ 59) then none
  else
    match mark? ':' cs with
    | none => some cs
    | some cs =>
      let (second, cs) ← fixed? 2 cs
      if second ≤ 60 then afterFraction? cs else none

def isOffset : List Char → Bool
  | [] => true
  | [c] => c == 'Z' || c == 'z'
  | c :: cs => (c == '+' || c == '-') && ((do
      let (hour, cs) ← fixed? 2 cs
      let (minute, cs) ← fixed? 2 (← mark? ':' cs)
      return hour ≤ 23 && minute ≤ 59 && cs.isEmpty).getD false)

/-- A date, a time, or a date with a time and perhaps an offset. -/
def isMoment (cs : List Char) : Bool :=
  match afterDate? cs with
  | some [] => true
  | some (c :: cs) => (c == 'T' || c == 't' || c == ' ') && (afterTime? cs).any isOffset
  | none => (afterTime? cs).any (·.isEmpty)

/-! ### Words -/

/-- The number or moment that a word writes; `body` is the word after its sign. What follows the
first digits tells which of them it has to be. -/
def numeric? (word body : List Char) : Option Node :=
  let rest := body.dropWhile Char.isDigit
  if rest.head? == some '-' || rest.head? == some ':' || rest.contains ' ' then
    if isMoment word then some .moment else none
  else if rest.any fun c => c == '.' || c == 'e' || c == 'E' then
    if isGrouped Char.isDigit word then real? body else none
  else if rest.isEmpty || rest.head? == some '_' then
    if (wholePart? body).isSome && isGrouped isAnyDigit word then
      some (.integer (decimal? (ungrouped word)))
    else none
  else none

def node? (word : List Char) : Option Node :=
  if word == "true".toList then some (.boolean true)
  else if word == "false".toList then some (.boolean false)
  else
    match word with
    | [] => none
    | '0' :: 'x' :: cs => based? 16 cs
    | '0' :: 'o' :: cs => based? 8 cs
    | '0' :: 'b' :: cs => based? 2 cs
    | word =>
      let body := (sign word).2
      if body.isEmpty then none
      else if body == "inf".toList || body == "nan".toList then some (.real true)
      else numeric? word body

end InterfaceReport.Toml.Scalar
