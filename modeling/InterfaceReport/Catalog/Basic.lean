import Std.Data.TreeMap
import InterfaceReport.Catalog.SwitchMode
import InterfaceReport.Error
import InterfaceReport.NaturalOrder
import InterfaceReport.Store.Namespace
import InterfaceReport.Store.Schema

/-! The catalog of a namespace: which ports, LAGs and sub-interfaces the configuration knows, who is
a member of which LAG, and how each takes part in VLANs. -/

namespace InterfaceReport

/-- The configured tables that a catalog is made from. -/
structure Tables where
  ports : Std.TreeMap String Record
  lags : Std.TreeMap String Record
  lagMemberKeys : List String
  vlanMemberKeys : List String
  subInterfaceKeys : List String

namespace Tables

/-- Reads the tables one after the other; a table that does not exist is empty. -/
def read (config : Database) : Except StoreError Tables := do
  let ports ← config.entries Schema.portConfig
  let lags ← config.entries Schema.lagConfig
  let lagMemberKeys ← config.entryKeys Schema.lagMembers
  let vlanMemberKeys ← config.entryKeys Schema.vlanMembers
  let subInterfaceKeys ← config.entryKeys Schema.subInterfaces
  return { ports, lags, lagMemberKeys, vlanMemberKeys, subInterfaceKeys }

end Tables

/-- A port that belongs to a LAG. -/
structure Membership where
  lag : String
  member : String
deriving DecidableEq

/-- The membership that a key writes, with the LAG before the first bar. -/
def Membership.ofKey? (key : String) : Option Membership :=
  (Text.cut? '|' key).map fun (lag, member) => ⟨lag, member⟩

/-- What the configuration of a namespace says about its interfaces. -/
structure Catalog where
  ports : Std.TreeMap String Record
  /-- The configured LAGs; the others are known by their members only. -/
  configuredLags : Std.TreeMap String Record
  /-- In the natural order of the keys that write them. -/
  memberships : List Membership
  /-- The ports and LAGs that belong to some VLAN. -/
  vlanMembers : List String
  /-- The sub-interfaces in natural order. -/
  subInterfaces : List String

namespace Catalog

/-- Makes the catalog. Keys without a bar write no membership; a sub-interface's key with a bar
holds one of its addresses and not the sub-interface. -/
def ofTables (tables : Tables) : Catalog where
  ports := tables.ports
  configuredLags := tables.lags
  memberships := (naturalSort tables.lagMemberKeys).filterMap Membership.ofKey?
  vlanMembers := tables.vlanMemberKeys.filterMap fun key => (Text.cut? '|' key).map (·.2)
  subInterfaces := naturalSort (tables.subInterfaceKeys.filter (!Text.has '|' ·))

def ofStores (ns : Namespace) (stores : Stores) : Except Error Catalog :=
  match Tables.read stores.config with
  | .ok tables => .ok (ofTables tables)
  | .error source => .error (.catalogBuild ns.label source)

/-! ### Ports and LAGs -/

def isPort (c : Catalog) (name : String) : Bool := c.ports.contains name

def portNames (c : Catalog) : List String := naturalSort c.ports.keys

/-- `name` is that of a LAG: it is configured or it has members. -/
def isLag (c : Catalog) (name : String) : Bool :=
  c.configuredLags.contains name || c.memberships.any (·.lag == name)

/-- The LAGs in natural order: those configured and those that have members. -/
def lagNames (c : Catalog) : List String :=
  naturalSort (c.configuredLags.keys ++ c.memberships.map (·.lag)).eraseDups

/-! ### Membership -/

def members (c : Catalog) (lag : String) : List String :=
  (c.memberships.filter (·.lag == lag)).map (·.member)

/-- The LAG that `port` is shown in: the last of those that claim it. -/
def lagOf? (c : Catalog) (port : String) : Option String :=
  (c.memberships.findRev? (·.member == port)).map (·.lag)

/-- The members that a LAG claims after another one did; `earlier` is read from its end. -/
def conflictsAfter (earlier : List Membership) : List Membership → List String
  | [] => []
  | m :: rest =>
    let others := conflictsAfter (m :: earlier) rest
    match earlier.find? (·.member == m.member) with
    | some previous => if previous.lag == m.lag then others else m.member :: others
    | none => others

/-- The ports that more than one LAG claims, once for each LAG after the first. -/
def conflicts (c : Catalog) : List String := conflictsAfter [] c.memberships

/-! ### VLANs -/

/-- The record of a port or LAG; that of a LAG goes before that of a port. -/
def record? (c : Catalog) (name : String) : Option Record :=
  c.configuredLags[name]? <|> c.ports[name]?

def statedMode? (c : Catalog) (name : String) : Option SwitchMode := do
  SwitchMode.ofName? (← (← c.record? name).lookup Schema.mode)

/-- The mode of a port or LAG: the one stated, or else trunk for members of VLANs. -/
def switchMode (c : Catalog) (name : String) : SwitchMode :=
  if c.isPort name || c.isLag name then
    (c.statedMode? name).getD (if c.vlanMembers.contains name then .trunk else .routed)
  else .routed

/-! ### Internal interfaces -/

def isInternalPort (c : Catalog) (port : String) : Bool :=
  ((c.ports[port]?).bind (·.lookup Schema.role)).any Schema.internalRoles.contains

/-- A LAG with members, all of them internal. -/
def isInternalLag (c : Catalog) (lag : String) : Bool :=
  !(c.members lag).isEmpty && (c.members lag).all c.isInternalPort

end Catalog
end InterfaceReport
