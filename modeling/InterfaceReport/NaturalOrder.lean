/-! The natural order of names: runs of digits compare by the number they write, so `Ethernet2`
comes before `Ethernet10`. -/

namespace InterfaceReport

/-- A longest stretch of a name that holds digits only, or no digit. -/
inductive Run where
  | digits (cs : List Char)
  | text (cs : List Char)
deriving DecidableEq

namespace Run

def ofChars (cs : List Char) : Run :=
  if cs.head?.any Char.isDigit then .digits cs else .text cs

/-- The digits that matter to the value: all but the leading zeros. -/
def significant (cs : List Char) : List Char := cs.dropWhile (· == '0')

/-- Digits compare by value: with the leading zeros gone a longer run writes a greater number, and
runs of one length compare digit by digit. Equal values compare by the length with the zeros. -/
def compareDigits (a b : List Char) : Ordering :=
  (Ord.compare (significant a).length (significant b).length).then <|
    (Ord.compare (significant a) (significant b)).then <| Ord.compare a.length b.length

/-- A run of digits comes before any other; other runs compare by code points. -/
def compare : Run → Run → Ordering
  | .digits a, .digits b => compareDigits a b
  | .text a, .text b => Ord.compare a b
  | .digits _, .text _ => .lt
  | .text _, .digits _ => .gt

end Run

/-- The runs of `s` in order; together they are `s`. -/
def runs (s : String) : List Run :=
  (s.toList.splitBy fun a b => a.isDigit == b.isDigit).map Run.ofChars

/-- Names compare run by run, and a name comes before its extensions. -/
def naturalCompare (a b : String) : Ordering := List.compareLex Run.compare (runs a) (runs b)

/-- `a` comes before `b` in the natural order or is equal to it. -/
def naturalLe (a b : String) : Bool := (naturalCompare a b).isLE

def naturalSort (names : List String) : List String := names.mergeSort naturalLe

theorem naturalSort_perm (names : List String) : (naturalSort names).Perm names :=
  List.mergeSort_perm _ _

@[simp] theorem mem_naturalSort {name : String} {names : List String} :
    name ∈ naturalSort names ↔ name ∈ names :=
  (naturalSort_perm names).mem_iff

end InterfaceReport
