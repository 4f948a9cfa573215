import InterfaceReport.NaturalOrder

/-! Tables of text: columns aligned to the right, with a rule under the header. -/

namespace InterfaceReport.Table

/-- The widths that also hold the cells of `row`. A row longer than all before it opens columns. -/
def widen (widths : List Nat) (row : List String) : List Nat :=
  List.zipWithAll (fun w cell => max (w.getD 0) ((cell.map String.length).getD 0)) widths row

/-- The width of each column: that of its widest cell, the header's included. -/
def widths (header : List String) (rows : List (List String)) : List Nat :=
  rows.foldl widen (header.map String.length)

/-- A cell behind the spaces that fill it to its column's width. -/
def pad (cell : String) (width : Nat) : String :=
  String.ofList (cell.toList.leftpad width ' ')

/-- One line: the cells, two spaces apart. -/
def line (widths : List Nat) (cells : List String) : String :=
  "  ".intercalate (List.zipWith pad cells widths) ++ "\n"

/-- The cells of the rule: dashes over the width of every column. -/
def rule (widths : List Nat) : List String := widths.map fun w => String.ofList (.replicate w '-')

def render (header : List String) (rows : List (List String)) : String :=
  let widths := widths header rows
  String.join ((header :: rule widths :: rows).map (line widths))

/-- The rows in the natural order of their first cells; rows that agree there stay in order. -/
def inOrder (rows : List (List String)) : List (List String) :=
  rows.mergeSort fun a b => naturalLe (a.headD "") (b.headD "")

end InterfaceReport.Table
