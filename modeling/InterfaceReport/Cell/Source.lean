import InterfaceReport.Cell.LagSpeed
import InterfaceReport.Interface.Name

/-! The cells of a report: the text shown for an attribute of an interface. Data that is missing or
malformed is shown as not available, so only failing databases are errors. -/

namespace InterfaceReport

/-- What the cells of one namespace are made from. -/
structure CellSource where
  stores : Stores
  catalog : Catalog
  lagSpeeds : LagSpeeds
  copperPorts : List String

namespace CellSource

def show? (r : CellSource) (key value : String) : Display → Except StoreError (Option String)
  | .verbatim => return some value
  | .enabling => return some (if value == "on" then "enabled" else "disabled")
  | .speed => do return (Speed.formatText value (← r.stores.optics r.copperPorts key)).toOption
  | .speedList => do return (Speed.formatList value (← r.stores.optics r.copperPorts key)).toOption

def follow (r : CellSource) (rule : Rule) (key : String) : Except StoreError String := do
  match ← r.stores.firstValue key rule.lookups with
  | none => return rule.absent
  | some value => return (← r.show? key value rule.display).getD notAvailable

def followOrAbsent (r : CellSource) (rule : Option Rule) (key : String) :
    Except StoreError String :=
  match rule with
  | some rule => r.follow rule key
  | none => .ok notAvailable

/-- A cell of a port. A member of a LAG takes part in VLANs as its LAG does. -/
def portCell (r : CellSource) (port : String) : Attribute → Except StoreError String
  | .vlan => return (r.catalog.switchMode ((r.catalog.lagOf? port).getD port)).name
  | .type => r.stores.optics r.copperPorts port
  | a => r.followOrAbsent (Rule.port? a) port

def lagCell (r : CellSource) (lag : String) : Attribute → Except StoreError String
  | .speed => return (r.lagSpeeds.get? lag).getD notAvailable
  | .vlan => return (r.catalog.switchMode lag).name
  | .type => return notAvailable
  | a => r.followOrAbsent (Rule.lag? a) lag

/-- A cell that a sub-interface takes from its parent, which is looked for among the ports first. -/
def parentCell (r : CellSource) (parent : String) (a : Attribute) : Except StoreError String :=
  if r.catalog.isPort parent then r.portCell parent a
  else if r.catalog.isLag parent then r.lagCell parent a
  else .ok notAvailable

/-- A cell of a sub-interface. A name without a parent has nothing to show. -/
def subInterfaceCell (r : CellSource) (name : String) (a : Attribute) : Except StoreError String :=
  match Name.parent? name with
  | none => .ok notAvailable
  | some (parent, _) =>
    match a with
    | .type => return "802.1q-encapsulation"
    | .mtu | .speed => r.parentCell parent a
    | a => r.followOrAbsent (Rule.subInterface? a) name

def cell (r : CellSource) : InterfaceKind → String → Attribute → Except StoreError String
  | .port => r.portCell
  | .lag => r.lagCell
  | .subInterface => r.subInterfaceCell

end CellSource
end InterfaceReport
