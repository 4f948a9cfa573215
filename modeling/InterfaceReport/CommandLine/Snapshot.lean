import InterfaceReport.Server
import InterfaceReport.Settings.Decode
import InterfaceReport.Text.Decimal

/-! Snapshots of servers as text. Each line holds one field: the port of the server, the number of
the database, the full key, the field and its value, with tabs between them. -/

namespace InterfaceReport.CommandLine

/-- One field of a snapshot. -/
structure SnapshotLine where
  port : Nat
  number : Nat
  key : String
  field : String
  value : String
deriving DecidableEq

namespace SnapshotLine

def ofText? (line : String) : Option SnapshotLine :=
  match Text.pieces '\t' line with
  | [port, number, key, field, value] => do
    let port ← Text.Decimal.ofText? DatabaseSettings.portBound port
    let number ← Text.Decimal.ofText? DatabaseSettings.numberBound number
    return { port, number, key, field, value }
  | _ => none

end SnapshotLine

def hashesOf (lines : List SnapshotLine) : Std.TreeMap String Hash :=
  lines.foldl (fun hashes l =>
    hashes.insert l.key (((hashes[l.key]?).getD ∅).insert l.field l.value)) ∅

/-- The servers of a snapshot. Lines of another form are left out. -/
def serversOf (snapshot : String) : List Server :=
  let lines := (Text.pieces '\n' snapshot).filterMap SnapshotLine.ofText?
  let ports := (lines.map (·.port)).eraseDups
  ports.map fun port =>
    let own := lines.filter (·.port == port)
    let numbers := (own.map (·.number)).eraseDups
    let kept (number : Nat) := hashesOf (own.filter (·.number == number))
    { port, outages := [], hashes := numbers.map fun (number : Nat) => (number, kept number) }

end InterfaceReport.CommandLine
