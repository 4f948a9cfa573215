import InterfaceReport.Settings.Basic
import InterfaceReport.Toml.Document

/-! Settings read from a document. Keys without a meaning are ignored; a value of the wrong type
makes the whole document unusable. -/

namespace InterfaceReport

namespace Toml.Node

def items? : Node → Option (List Node)
  | .array items => some items
  | .tables latest earlier => some ((latest :: earlier).reverse.map (.table .header))
  | _ => none

/-- The fields of a table, found by name. Only the names given have a meaning, but the numbers under
the others must be in range too. -/
def named? (names : List String) (entries : Entries) : Option (String → Option Node) :=
  if entries.all fun (name, node) => names.contains name || node.inRange then
    some fun name => entries.lookup name
  else none

/-- The fields of a record with these names. Each is found by its name in a table, or by its
position in a list. A moment has none of them. -/
def fields? (names : List String) : Node → Option (String → Option Node)
  | .table _ entries => named? names entries
  | .moment => some fun _ => none
  | node => node.items?.map fun items name => (names.idxOf? name).bind fun i => items[i]?

def text? : Node → Option String
  | .text s => some s
  | _ => none

/-- A number from 0 up to `bound`, which is excluded. -/
def nat? (bound : Nat) : Node → Option Nat
  | .integer (some n) => if 0 ≤ n && n < bound then some n.toNat else none
  | _ => none

def texts? (node : Node) : Option (List String) := do (← node.items?).mapM text?

def isVacant : Node → Bool
  | .array items => items.isEmpty
  | .table _ entries => entries.isEmpty
  | _ => false

/-- A word, or a table whose only key is the word with nothing under it. -/
def keyword? : Node → Option String
  | .text s => some s
  | .table _ [(s, value)] => if value.isVacant then some s else none
  | _ => none

/-- The value of a field, with a default for one that is missing. -/
def readOr {α : Type} (read : Node → Option α) (default : α) : Option Node → Option α
  | none => some default
  | some node => read node

end Toml.Node

open Toml (Node)

namespace DatabaseSettings

def numberBound : Nat := UInt32.size

def portBound : Nat := UInt16.size

/-- The names of the fields in the order of their positions. -/
def fieldNames : List String :=
  ["redis_host", "redis_port", "config_db_number", "appl_db_number", "state_db_number",
    "counters_db_number"]

def ofNode? (node : Node) : Option DatabaseSettings := do
  let field ← node.fields? fieldNames
  let number (name : String) (kind : DatabaseKind) : Option Nat :=
    Node.readOr (Node.nat? numberBound) kind.number (field name)
  return {
    host := ← Node.readOr Node.text? standard.host (field "redis_host")
    port := ← Node.readOr (Node.nat? portBound) standard.port (field "redis_port")
    configNumber := ← number "config_db_number" .config
    applNumber := ← number "appl_db_number" .appl
    stateNumber := ← number "state_db_number" .state
    countersNumber := ← number "counters_db_number" .counters }

end DatabaseSettings

def NamespaceSettings.ofNode? (node : Node) : Option NamespaceSettings := do
  let field ← node.fields? ["name", "redis_host", "redis_port"]
  let port (node : Node) : Option (Option Nat) :=
    (node.nat? DatabaseSettings.portBound).map some
  return {
    name := ← (← field "name").text?
    host := ← Node.readOr (fun n => n.text?.map some) none (field "redis_host")
    port := ← Node.readOr port none (field "redis_port") }

namespace Settings

def platformOfNode? (node : Node) : Option (List String) := do
  Node.readOr Node.texts? [] ((← node.fields? ["rj45_ports"]) "rj45_ports")

def displayOfNode? (node : Node) : Option (Option DisplayMode) := do
  return some (← DisplayMode.ofName? (← node.keyword?))

def ofEntries? (entries : Toml.Entries) : Option Settings := do
  let field ← Node.named? ["database", "namespaces", "platform", "display"] entries
  let namespaces (node : Node) : Option (List NamespaceSettings) := do
    (← node.items?).mapM NamespaceSettings.ofNode?
  return {
    database := ← Node.readOr DatabaseSettings.ofNode? .standard (field "database")
    namespaces := ← Node.readOr namespaces [] (field "namespaces")
    copperPorts := ← Node.readOr platformOfNode? [] (field "platform")
    display := ← Node.readOr displayOfNode? none (field "display") }

/-- The settings that a document describes, if it is well formed and its values have their types. -/
def ofText? (document : String) : Option Settings := do ofEntries? (← Toml.parse? document)

end Settings
end InterfaceReport
