import InterfaceReport.Report.Display
import InterfaceReport.Watermark

/-! Settings: which namespaces a switch has, where their databases are served, and which ports are
copper. -/

namespace InterfaceReport

/-- Where databases are served, and under which number each is kept. -/
structure DatabaseSettings where
  host : String
  port : Nat
  configNumber : Nat
  applNumber : Nat
  stateNumber : Nat
  countersNumber : Nat
deriving DecidableEq

namespace DatabaseSettings

/-- The databases of a switch that runs them itself. -/
def standard : DatabaseSettings where
  host := "127.0.0.1"
  port := 6379
  configNumber := DatabaseKind.config.number
  applNumber := DatabaseKind.appl.number
  stateNumber := DatabaseKind.state.number
  countersNumber := DatabaseKind.counters.number

def number (s : DatabaseSettings) : DatabaseKind → Nat
  | .config => s.configNumber
  | .appl => s.applNumber
  | .state => s.stateNumber
  | .counters => s.countersNumber

end DatabaseSettings

/-- A namespace, and where its databases are served if that is special to it. -/
structure NamespaceSettings where
  name : String
  host : Option String
  port : Option Nat
deriving DecidableEq

/-- The settings of a switch. -/
structure Settings where
  database : DatabaseSettings
  /-- Without any, the switch has the host namespace only. -/
  namespaces : List NamespaceSettings
  copperPorts : List String
  display : Option DisplayMode
deriving DecidableEq

/-- Where one database is served. -/
structure Address where
  host : String
  port : Nat
  kind : DatabaseKind
  number : Nat
deriving DecidableEq

namespace Address

def usual (host : String) (port : Nat) (kind : DatabaseKind) : Address :=
  ⟨host, port, kind, kind.number⟩

def uri (a : Address) : String := s!"redis://{a.host}:{a.port}/{a.number}"

/-- Opens the database at the address. The client is given the URI only. -/
def connect {ε : Type} (client : Client ε) (a : Address) : Except StoreError (Connection ε) := do
  let failed (reason : String) := StoreError.connection a.kind.name s!"{a.uri}: {reason}"
  return .ofLink a.kind (← (client a.uri).mapError failed)

end Address

namespace Settings

def standard : Settings := ⟨.standard, [], [], none⟩

/-! ### Validity -/

/-- Checks the namespaces in order, given the names before them. -/
def validateNamespaces (seen : List String) : List NamespaceSettings → Except Error Unit
  | [] => .ok ()
  | ns :: rest =>
    if ns.port = some 0 then
      .error (.config s!"redis_port of namespace '{ns.name}' must be > 0")
    else if seen.contains ns.name then .error (.config s!"duplicate namespace '{ns.name}'")
    else validateNamespaces (ns.name :: seen) rest

/-- Checks that no port is 0 and that no two namespaces have one name. -/
def validate (s : Settings) : Except Error Unit :=
  if s.database.port = 0 then .error (.config "redis_port must be > 0")
  else validateNamespaces [] s.namespaces

/-! ### Namespaces -/

/-- The switch has several parts. -/
def isPartitioned (s : Settings) : Bool := !s.namespaces.isEmpty

def allNamespaces (s : Settings) : List Namespace :=
  if s.namespaces.isEmpty then [Namespace.host] else s.namespaces.map fun ns => ⟨ns.name⟩

/-- The namespaces to visit: all of them, or the one of the name given, which must be among them. -/
def select (known : List Namespace) : Option String → Except Error (List Namespace)
  | none => .ok known
  | some name =>
    match known.find? (·.name == name) with
    | some ns => .ok [ns]
    | none => .error (.unknownNamespace name)

/-- The namespaces to visit under settings that are valid. -/
def visited (s : Settings) (name : Option String) : Except Error (List Namespace) := do
  s.validate
  select s.allNamespaces name

/-- The display mode unless an argument gives one. In a switch of several parts internal interfaces
are left out. -/
def displayMode (s : Settings) : DisplayMode :=
  s.display.getD (if s.isPartitioned then .frontend else .all)

/-- Where a database of a namespace is served. What the namespace does not settle is settled for all
of them. -/
def address (s : Settings) (ns : Namespace) (kind : DatabaseKind) : Address :=
  let own := s.namespaces.find? (·.name == ns.name)
  { host := (own.bind (·.host)).getD s.database.host
    port := (own.bind (·.port)).getD s.database.port
    kind
    number := s.database.number kind }

/-! ### Databases -/

variable {ε : Type}

/-- Opens the databases that a report reads, one after the other. -/
def connectStores (s : Settings) (client : Client ε) : Connect := fun ns => do
  let config ← (s.address ns .config).connect client
  let appl ← (s.address ns .appl).connect client
  let state ← (s.address ns .state).connect client
  return ⟨config.database, appl.database, state.database⟩

/-- Opens the counters of a namespace. Each namespace may be answered in its own way. -/
def connectCounters (s : Settings) (client : Namespace → Client ε) (ns : Namespace) :
    Except StoreError (Connection ε) :=
  (s.address ns .counters).connect (client ns)

/-- Clears a watermark in the namespaces to visit. Settings that are not valid, and a namespace that
is not known, keep every request from being made. -/
def clearWatermark (s : Settings) (open? : Namespace → Except StoreError (Connection ε))
    (name : Option String) (w : Watermark) : Except Error (List (Contact ε)) := do
  return w.clearAll open? (← s.visited name)

end Settings
end InterfaceReport
