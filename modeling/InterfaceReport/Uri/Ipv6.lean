import InterfaceReport.Text.Decimal

/-! Addresses of version 6: eight groups of up to four hexadecimal digits, of which a double colon
leaves out one or more, and the last two of which may be written in decimal. -/

namespace InterfaceReport.Uri.Ipv6

open InterfaceReport.Text

def isHexDigit (c : Char) : Bool :=
  c.isDigit || ('a' ≤ c && c ≤ 'f') || ('A' ≤ c && c ≤ 'F')

def isGroup (cs : List Char) : Bool := !cs.isEmpty && cs.length ≤ 4 && cs.all isHexDigit

/-- A number below 256 without needless zeros. -/
def isByte (cs : List Char) : Bool :=
  Decimal.isNumeral cs && (cs.length == 1 || cs.head? != some '0') && Decimal.value cs < 256

/-- Two groups written as four decimal numbers. -/
def isDotted (cs : List Char) : Bool :=
  let parts := cs.splitOn '.'
  parts.length == 4 && parts.all isByte

def groups? (mayEndDotted : Bool) (cs : List Char) : Option Nat :=
  let parts := cs.splitOn ':'
  if cs.isEmpty then some 0
  else if parts.all isGroup then some parts.length
  else if mayEndDotted && parts.dropLast.all isGroup && parts.getLast?.any isDotted then
    some (parts.length + 1)
  else none

/-- What stands before and after the first double colon. -/
def cutGap? : List Char → Option (List Char × List Char)
  | [] => none
  | [_] => none
  | c :: d :: cs =>
    if c == ':' && d == ':' then some ([], cs)
    else (cutGap? (d :: cs)).map fun (a, b) => (c :: a, b)

def isAddress (cs : List Char) : Bool :=
  match cutGap? cs with
  | none => groups? true cs == some 8
  | some (before, after) =>
    match groups? false before, groups? true after with
    | some m, some n => m + n < 8
    | _, _ => false

end InterfaceReport.Uri.Ipv6
