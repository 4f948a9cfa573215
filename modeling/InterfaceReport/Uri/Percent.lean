import InterfaceReport.Text.Pieces
import InterfaceReport.Text.Utf8

/-! Text in which a percent sign and two hexadecimal digits stand for a byte, and the parameters
that a query writes in this way. -/

namespace InterfaceReport.Uri

open InterfaceReport.Text

def hexValue? (b : UInt8) : Option UInt8 :=
  if 48 ≤ b && b ≤ 57 then some (b - 48)
  else if 97 ≤ b && b ≤ 102 then some (b - 87)
  else if 65 ≤ b && b ≤ 70 then some (b - 55)
  else none

/-- The bytes that `bytes` stand for. A percent sign without two digits stands for itself. -/
def percentDecode : List UInt8 → List UInt8
  | [] => []
  | 37 :: h :: l :: tail =>
    match hexValue? h, hexValue? l with
    | some h, some l => (16 * h + l) :: percentDecode tail
    | _, _ => 37 :: percentDecode (h :: l :: tail)
  | b :: rest => b :: percentDecode rest

def bytesOf (s : String) : List UInt8 := percentDecode (Utf8.encode s)

/-- A name or value of a query, in which a plus sign stands for a space. -/
def parameterText (s : String) : String :=
  Utf8.text (percentDecode ((Utf8.encode s).map fun b => if b == 43 then 32 else b))

/-- The parameters of a query, in order. A name without an equals sign has an empty value. -/
def parameters (query : String) : List (String × String) :=
  ((pieces '&' query).filter (!·.isEmpty)).map fun piece =>
    let (name, value) := (cut? '=' piece).getD (piece, "")
    (parameterText name, parameterText value)

end InterfaceReport.Uri
