import InterfaceReport.Catalog.Basic
import InterfaceReport.Cell.Attribute

/-! Which interfaces are hidden from a report. -/

namespace InterfaceReport

/-- An interface that a report may show. -/
structure Interface where
  ns : Namespace
  kind : InterfaceKind
  name : String
deriving DecidableEq

/-- Decides which interfaces are left out, with the catalog of their namespace at hand. -/
abbrev Hides := Catalog → Interface → Bool

/-- Which interfaces a report leaves out. -/
inductive DisplayMode where
  /-- Every interface is shown. -/
  | all
  /-- Internal ports and LAGs are left out. -/
  | frontend
deriving DecidableEq

namespace DisplayMode

def name : DisplayMode → String
  | .all => "all"
  | .frontend => "frontend"

def ofName? : String → Option DisplayMode
  | "all" => some .all
  | "frontend" => some .frontend
  | _ => none

def unknownMessage (text : String) : String := s!"Unknown display mode: {text}"

def hides : DisplayMode → Hides
  | .all, _, _ => false
  | .frontend, catalog, interface =>
    match interface.kind with
    | .port => catalog.isInternalPort interface.name
    | .lag => catalog.isInternalLag interface.name
    | .subInterface => false

theorem ofName?_name (m : DisplayMode) : ofName? m.name = some m := by cases m <;> rfl

end DisplayMode
end InterfaceReport
