import InterfaceReport.Text.Decimal
import InterfaceReport.Uri.Basic
import InterfaceReport.Uri.Percent

/-! Endpoints: the host and port of a server and the number of a database there, as a URI names
them. -/

namespace InterfaceReport

/-- What a connection is made to. -/
structure Endpoint where
  /-- The host as it is spelled. -/
  host : String
  port : Nat
  number : Int
deriving DecidableEq

namespace Endpoint

def usualPort : Nat := 6379

/-- Why a URI names no endpoint. -/
inductive Fault where
  | malformed
  | missingHost
  | malformedNumber
  | malformedUser
  | malformedPassword
  | unknownProtocol (text : String)
deriving DecidableEq

def Fault.message : Fault → String
  | .malformed => "Redis URL did not parse- InvalidClientConfig"
  | .missingHost => "Missing hostname- InvalidClientConfig"
  | .malformedNumber => "Invalid database number- InvalidClientConfig"
  | .malformedUser => "Username is not valid UTF-8 string- InvalidClientConfig"
  | .malformedPassword => "Password is not valid UTF-8 string- InvalidClientConfig"
  | .unknownProtocol text => s!"Invalid protocol version - InvalidClientConfig: {text}"

/-- The number of 64 bits that digits write behind a sign, if there is one. -/
def signed? : List Char → Option Int
  | '-' :: cs => (Text.Decimal.ofDigits? (UInt64.size / 2 + 1) cs).map fun n => -(n : Int)
  | '+' :: cs => (Text.Decimal.ofDigits? (UInt64.size / 2) cs).map fun n => (n : Int)
  | cs => (Text.Decimal.ofDigits? (UInt64.size / 2) cs).map fun n => (n : Int)

/-- The number that a path writes between slashes; an empty path means the first database. -/
def number? (path : String) : Option Int :=
  let isSlash (c : Char) := c == '/'
  match ((path.toList.dropWhile isSlash).reverse.dropWhile isSlash).reverse with
  | [] => some 0
  | cs => signed? cs

def protocols : List String := ["2", "resp2", "3", "resp3"]

/-- The version that a query asks for last. -/
def protocol? (query : String) : Option String := (Uri.parameters query).reverse.lookup "protocol"

def ofParts (uri : Uri) : Except Fault Endpoint := do
  if uri.host.isEmpty then throw .missingHost
  let some number := number? uri.path | throw .malformedNumber
  if !Text.Utf8.isValid (Uri.bytesOf uri.user) then throw .malformedUser
  if !uri.password.all fun password => Text.Utf8.isValid (Uri.bytesOf password) then
    throw .malformedPassword
  match uri.query.bind protocol? with
  | some version =>
    if protocols.contains version then return ⟨uri.host, uri.port.getD usualPort, number⟩
    else throw (.unknownProtocol version)
  | none => return ⟨uri.host, uri.port.getD usualPort, number⟩

def ofUri (text : String) : Except Fault Endpoint :=
  match Uri.parse? "redis" text with
  | some uri => ofParts uri
  | none => .error .malformed

end Endpoint

end InterfaceReport
