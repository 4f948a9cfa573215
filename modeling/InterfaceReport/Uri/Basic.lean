import InterfaceReport.Uri.Ipv6
import InterfaceReport.Uri.Path

/-! URIs: who asks, which host and port, which path there, and a query. -/

namespace InterfaceReport

/-- The parts of a URI that names a host. -/
structure Uri where
  user : String
  password : Option String
  /-- The host, empty if none is named. -/
  host : String
  port : Option Nat
  path : String
  query : Option String
deriving DecidableEq

namespace Uri

open InterfaceReport.Text

/-- A character that may stand anywhere and counts for nothing. -/
def isBreak (c : Char) : Bool := c == '\t' || c == '\n' || c == '\r'

/-- A character that ends the part about user, host and port. -/
def isDelimiter (c : Char) : Bool := c == '/' || c == '?' || c == '#'

def isHostChar (c : Char) : Bool :=
  !(['\x00', '\t', '\n', '\r', ' ', '#', '/', ':', '<', '>', '?', '@', '[', '\\', ']', '^',
    '|'].contains c)

/-- What can be named as a host: an address in brackets, or a name. -/
def isHost : List Char → Bool
  | '[' :: cs => cs.getLast? == some ']' && Ipv6.isAddress cs.dropLast
  | cs => cs.all isHostChar

def cutHost (inBrackets : Bool) : List Char → List Char × List Char
  | [] => ([], [])
  | c :: cs =>
    if c == ':' && !inBrackets then ([], c :: cs)
    else
      let (host, rest) := cutHost (c == '[' || (inBrackets && c != ']')) cs
      (c :: host, rest)

/-- The user, and the password behind the first colon unless it is empty. -/
def cutUser (cs : List Char) : List Char × Option (List Char) :=
  match cutChars? ':' cs with
  | none => (cs, none)
  | some (user, []) => (user, none)
  | some (user, password) => (user, some password)

/-- The port behind a colon, if one is given, and what follows it. A backslash may follow. -/
def port? : List Char → Option (Option Nat × List Char)
  | ':' :: cs =>
    let digits := cs.takeWhile Char.isDigit
    let rest := cs.dropWhile Char.isDigit
    if rest.head?.any (· != '\\') then none
    else if digits.isEmpty then some (none, rest)
    else (Decimal.ofDigits? UInt16.size digits).map fun port => (some port, rest)
  | cs => some (none, cs)

/-- The query behind a question mark, up to the number sign. -/
def query? : List Char → Option (List Char)
  | '?' :: cs => some (cs.takeWhile (· != '#'))
  | _ => none

/-- Reads what stands after the two slashes, without the characters that count for nothing. A user,
and a port's colon, need a host. -/
def ofChars? (cs : List Char) : Option Uri := do
  let authority := cs.takeWhile (!isDelimiter ·)
  let tail := cs.dropWhile (!isDelimiter ·)
  let (info, place) := match cutLastChars? '@' authority with
    | some (info, place) => (some info, place)
    | none => (none, authority)
  if info == some [] && place.isEmpty then none
  let (user, password) := cutUser (info.getD [])
  let (host, rest) := cutHost false place
  if !isHost host then none
  if host.isEmpty && !(rest.isEmpty && user.isEmpty && password.isNone) then none
  let (port, rest) ← port? rest
  let isPathChar (c : Char) := c != '?' && c != '#'
  let rest := rest ++ tail
  return {
    user := String.ofList user
    password := password.map String.ofList
    host := String.ofList host
    port
    path := String.ofList (Path.ofChars (rest.takeWhile isPathChar))
    query := (query? (rest.dropWhile isPathChar)).map String.ofList }

def parse? (scheme text : String) : Option Uri := do
  let rest ← after? (scheme ++ "://") text
  ofChars? (rest.toList.filter (!isBreak ·))

end Uri
end InterfaceReport
