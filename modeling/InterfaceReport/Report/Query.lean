import InterfaceReport.Cell.Attribute
import InterfaceReport.Interface.Filter

/-! Queries: which report to make of which interfaces, and its columns. -/

namespace InterfaceReport

/-- The reports. -/
inductive ReportKind where
  | status
  | description
  | autoneg
  | tpid
  | linkTraining
  | fec
deriving DecidableEq

namespace ReportKind

def all : List ReportKind := [.status, .description, .autoneg, .tpid, .linkTraining, .fec]

def name : ReportKind → String
  | .status => "status"
  | .description => "description"
  | .autoneg => "autoneg"
  | .tpid => "tpid"
  | .linkTraining => "link_training"
  | .fec => "fec"

def ofName? (text : String) : Option ReportKind := all.find? (·.name == text)

def parse (text : String) : Except Error ReportKind :=
  match ofName? text with
  | some kind => .ok kind
  | none => .error (.config s!"Unknown report: {text}")

/-- Rows of LAGs follow those of the ports. -/
def showsLags : ReportKind → Bool
  | .status | .tpid => true
  | _ => false

theorem ofName?_name (kind : ReportKind) : ofName? kind.name = some kind := by
  cases kind <;> decide

end ReportKind

/-- A column after the one of the names. -/
structure Column where
  title : String
  content : Attribute
deriving DecidableEq

namespace Column

def ofReport : ReportKind → List Column
  | .status =>
    [⟨"Lanes", .lanes⟩, ⟨"Speed", .speed⟩, ⟨"MTU", .mtu⟩, ⟨"FEC", .adminFec⟩,
      ⟨"Alias", .aliasName⟩, ⟨"Vlan", .vlan⟩, ⟨"Oper", .operStatus⟩, ⟨"Admin", .adminStatus⟩,
      ⟨"Type", .type⟩, ⟨"Asym PFC", .pfcAsym⟩]
  | .description =>
    [⟨"Oper", .operStatus⟩, ⟨"Admin", .adminStatus⟩, ⟨"Alias", .aliasName⟩,
      ⟨"Description", .description⟩]
  | .autoneg =>
    [⟨"Auto-Neg Mode", .autoneg⟩, ⟨"Speed", .speed⟩, ⟨"Adv Speeds", .advSpeeds⟩,
      ⟨"Rmt Adv Speeds", .rmtAdvSpeeds⟩, ⟨"Type", .interfaceType⟩,
      ⟨"Adv Types", .advInterfaceTypes⟩, ⟨"Oper", .operStatus⟩, ⟨"Admin", .adminStatus⟩]
  | .tpid =>
    [⟨"Alias", .aliasName⟩, ⟨"Oper", .operStatus⟩, ⟨"Admin", .adminStatus⟩, ⟨"TPID", .tpid⟩]
  | .linkTraining =>
    [⟨"LT Oper", .linkTrainingStatus⟩, ⟨"LT Admin", .linkTraining⟩, ⟨"Oper", .operStatus⟩,
      ⟨"Admin", .adminStatus⟩]
  | .fec => [⟨"FEC Oper", .operFec⟩, ⟨"FEC Admin", .adminFec⟩]

def ofSubInterfaces : List Column :=
  [⟨"Speed", .speed⟩, ⟨"MTU", .mtu⟩, ⟨"Vlan", .vlan⟩, ⟨"Admin", .adminStatus⟩, ⟨"Type", .type⟩]

end Column

/-- A report and the interfaces it is restricted to. -/
structure Query where
  kind : ReportKind
  filter : Filter

namespace Query

/-- The query for a report on a selection of interfaces. Only the status report knows
sub-interfaces. -/
def parse (kind : ReportKind) (selection : Option String) : Except Error Query := do
  let filter ← match selection with
    | some text => Filter.parse text
    | none => pure .all
  if filter.showsSubInterfaces && kind != .status then
    throw (.config s!"The {kind.name} report does not support sub-interfaces")
  return ⟨kind, filter⟩

def columns (q : Query) : List Column :=
  if q.filter.showsSubInterfaces then Column.ofSubInterfaces else Column.ofReport q.kind

def header (q : Query) : List String :=
  (if q.filter.showsSubInterfaces then "Sub port interface" else "Interface") ::
    q.columns.map (·.title)

end Query
end InterfaceReport
