import InterfaceReport.Text.Pieces

/-! Paths of URIs, in which a segment of two dots takes back the one before it. -/

namespace InterfaceReport.Uri.Path

/-- A segment with its escaped dots written out. -/
def plainDots : List Char → List Char
  | '%' :: '2' :: 'e' :: cs => '.' :: plainDots cs
  | '%' :: '2' :: 'E' :: cs => '.' :: plainDots cs
  | c :: cs => c :: plainDots cs
  | [] => []

def isSelf (segment : List Char) : Bool := plainDots segment == ['.']

/-- The segment that takes back the one before it. -/
def isParent (segment : List Char) : Bool := plainDots segment == ['.', '.']

/-- The name of a drive, which is not taken back. -/
def isDrive : List Char → Bool
  | c :: d :: cs => c.isAlpha && (d == ':' || d == '|') && (cs.isEmpty || cs.head? == some '\\')
  | _ => false

/-- Takes back the last of the segments, of which the last stands first. -/
def pop : List (List Char) → List (List Char)
  | [] => []
  | last :: segments => if isDrive last then last :: segments else segments

/-- The segments that are left, given those before them with the last first. -/
def resolve (before : List (List Char)) : List (List Char) → List (List Char)
  | [] => before.reverse
  | segment :: rest =>
    let before :=
      if isParent segment then pop before
      else if isSelf segment then before
      else segment :: before
    if rest.isEmpty && (isParent segment || isSelf segment) then ([] :: before).reverse
    else resolve before rest

/-- The path that `cs` writes. One that is not empty begins with a slash. -/
def ofChars (cs : List Char) : List Char :=
  match cs with
  | [] => []
  | '/' :: cs => (resolve [] (cs.splitOn '/')).flatMap ('/' :: ·)
  | cs => (resolve [] (cs.splitOn '/')).flatMap ('/' :: ·)

end InterfaceReport.Uri.Path
