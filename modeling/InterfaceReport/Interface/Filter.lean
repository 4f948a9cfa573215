import Std.Data.TreeSet
import InterfaceReport.Error
import InterfaceReport.Interface.Name
import InterfaceReport.Text.Blank
import InterfaceReport.Text.Decimal

/-! Filters: which interfaces the text of a selection asks for. -/

namespace InterfaceReport

def InterfaceRange.bound : Nat := UInt32.size

/-- The names `stem` followed by a number from `lo` to `hi`. The range is kept unexpanded. -/
structure InterfaceRange where
  stem : String
  lo : Nat
  hi : Nat
deriving DecidableEq

namespace InterfaceRange

/-- The number of a name that is `stem` followed by a number without leading zeros. -/
def number? (stem name : String) : Option Nat := do
  let digits := (← Text.after? stem name).toList
  if digits.length > 1 && digits.head? == some '0' then none
  else Text.Decimal.ofDigits? bound digits

/-- The name is one of the range: numbers are written without leading zeros. -/
def contains (range : InterfaceRange) (name : String) : Bool :=
  (number? range.stem name).any fun n => range.lo ≤ n && n ≤ range.hi

/-- The parts of an item that is written as a range: a stem that is not empty and does not end in a
digit, digits, a hyphen, and digits. -/
def parts? (item : String) : Option (String × List Char × List Char) := do
  let (left, hi) ← Text.cutLast? '-' item
  let lo := (left.toList.reverse.takeWhile Char.isDigit).reverse
  let stem := (left.toList.reverse.dropWhile Char.isDigit).reverse
  if stem.isEmpty || !Text.Decimal.isNumeral lo || !Text.Decimal.isNumeral hi.toList then none
  else some (String.ofList stem, lo, hi.toList)

/-- The range that `item` writes, or `none` if it is no range. A range must not be empty and its
numbers are bounded. -/
def ofItem (item : String) : Except Error (Option InterfaceRange) :=
  match parts? item with
  | none => .ok none
  | some (stem, lo, hi) =>
    match Text.Decimal.ofDigits? bound lo, Text.Decimal.ofDigits? bound hi with
    | some lo, some hi =>
      if lo ≤ hi then .ok (some ⟨Name.long stem, lo, hi⟩)
      else .error (.config s!"Invalid interface range: {item}")
    | _, _ => .error (.config s!"Invalid interface range: {item}")

end InterfaceRange

/-- The interfaces that a report is restricted to. -/
inductive Filter where
  /-- No restriction. -/
  | all
  /-- Ports and LAGs, by name and by range. -/
  | names (listed : Std.TreeSet String) (ranges : List InterfaceRange)
  /-- Every sub-interface. -/
  | subInterfaces
  /-- One sub-interface. -/
  | subInterface (name : String)

namespace Filter

/-- The items of a selection: the texts between its commas that are not blank. -/
def items (selection : String) : List String :=
  ((Text.pieces ',' selection).map Text.trim).filter (!·.isEmpty)

/-- What one item of a list asks for: a name or a range. -/
def parseItem (item : String) : Except Error (String ⊕ InterfaceRange) :=
  if Name.isSub item then
    .error (.config s!"Sub-interface {item} cannot be combined with other interfaces")
  else do
    match ← InterfaceRange.ofItem item with
    | some range => return .inr range
    | none => return .inl (Name.long item)

/-- The filter that a selection describes: the word for every sub-interface, the name of one
sub-interface, or a list of names and ranges. -/
def parse (selection : String) : Except Error Filter :=
  let selection := Text.trim selection
  if selection == "subport" then .ok .subInterfaces
  else if Name.isSub selection && !Text.has ',' selection then .ok (.subInterface selection)
  else do
    let wanted ← (items selection).mapM parseItem
    if wanted.isEmpty then throw (.config "Empty interface filter")
    return .names (Std.TreeSet.ofList (wanted.filterMap Sum.getLeft?))
      (wanted.filterMap Sum.getRight?)

/-- The report shows sub-interfaces instead of ports and LAGs. -/
def showsSubInterfaces : Filter → Bool
  | .subInterfaces | .subInterface _ => true
  | .all | .names .. => false

/-- Whether an interface passes. Sub-interfaces with the same parent and suffix are the same, and so
are all names that are of no sub-interface. -/
def admits : Filter → String → Bool
  | .all, _ | .subInterfaces, _ => true
  | .names listed ranges, name => listed.contains name || ranges.any (·.contains name)
  | .subInterface wanted, name => wanted == name || Name.parent? wanted == Name.parent? name

end Filter
end InterfaceReport
