import InterfaceReport.Store.Database

/-! Namespaces: the parts of a switch that have databases of their own. -/

namespace InterfaceReport

/-- A part of the switch with its own databases. A switch with one part only has the namespace
without a name. -/
structure Namespace where
  name : String
deriving DecidableEq

namespace Namespace

def host : Namespace := ⟨""⟩

def isHost (ns : Namespace) : Bool := ns.name.isEmpty

def label (ns : Namespace) : String := if ns.isHost then "default" else ns.name

end Namespace

/-- The databases that a report reads. -/
structure Stores where
  config : Database
  appl : Database
  state : Database

namespace Stores

def empty : Stores := ⟨.empty .config, .empty .appl, .empty .state⟩

/-- The database of a kind; a report reads no counters. -/
def database? (stores : Stores) : DatabaseKind → Option Database
  | .config => some stores.config
  | .appl => some stores.appl
  | .state => some stores.state
  | .counters => none

/-- No database has an outage. -/
structure Available (stores : Stores) : Prop where
  config : stores.config.outage = none
  appl : stores.appl.outage = none
  state : stores.state.outage = none

theorem Available.outage_eq_none {stores : Stores} (h : stores.Available) {kind : DatabaseKind}
    {db : Database} (hdb : stores.database? kind = some db) : db.outage = none := by
  cases kind <;> cases hdb
  · exact h.config
  · exact h.appl
  · exact h.state

def modify (stores : Stores) (kind : DatabaseKind) (change : Database → Database) : Stores :=
  match kind with
  | .config => { stores with config := change stores.config }
  | .appl => { stores with appl := change stores.appl }
  | .state => { stores with state := change stores.state }
  | .counters => stores

end Stores

abbrev Connect := Namespace → Except StoreError Stores

/-- A switch: its namespaces with what their databases hold. -/
structure Switch where
  /-- Every namespace once, in the order in which they were added. -/
  stores : List (Namespace × Stores)
  /-- The namespaces that cannot be reached. -/
  unreachable : List Namespace

namespace Switch

def empty : Switch := ⟨[], []⟩

/-- Adds a namespace at the end; one of the same name is replaced. -/
def add (s : Switch) (ns : Namespace) (stores : Stores) : Switch :=
  { s with stores := s.stores.filter (·.1 != ns) ++ [(ns, stores)] }

/-- No longer lets the databases of `ns` be opened. -/
def cutOff (s : Switch) (ns : Namespace) : Switch :=
  { s with unreachable := ns :: s.unreachable }

def modify (s : Switch) (ns : Namespace) (change : Stores → Stores) : Switch :=
  { s with stores := s.stores.map fun (n, stores) => (n, if n = ns then change stores else stores) }

/-- Opens the databases of `ns` if it can be reached and is known. -/
def connect (s : Switch) : Connect := fun ns =>
  if s.unreachable.contains ns then
    .error (.connection DatabaseKind.config.name s!"namespace {ns.label} unreachable")
  else
    match s.stores.lookup ns with
    | some stores => .ok stores
    | none => .error (.connection DatabaseKind.config.name s!"no stores for namespace {ns.label}")

end Switch
end InterfaceReport
