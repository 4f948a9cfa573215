import InterfaceReport.Cell.Source
import InterfaceReport.Report.Display
import InterfaceReport.Report.Query

/-! The rows of one namespace. -/

namespace InterfaceReport

/-- The cells of a row, the interface's name first. -/
abbrev Row := List String

/-- The rows of a namespace, or why it has none, and the interfaces on which the display was asked
to decide. -/
structure Listing (ε : Type) where
  asked : List Interface
  rows : Except ε (List Row)

namespace CellSource

/-- The ports that a report goes through: those configured that the daemons know too. -/
def knownPorts (r : CellSource) : Except StoreError (List String) := do
  let known ← r.stores.appl.entryKeys Schema.portStatus
  return r.catalog.portNames.filter known.contains

/-- The interfaces that a report goes through, in order. -/
def candidates (r : CellSource) (ns : Namespace) (query : Query) :
    Except StoreError (List Interface) :=
  if query.filter.showsSubInterfaces then
    .ok (r.catalog.subInterfaces.map (⟨ns, .subInterface, ·⟩))
  else do
    let ports ← r.knownPorts
    let lags := if query.kind.showsLags then r.catalog.lagNames else []
    return ports.map (⟨ns, .port, ·⟩) ++ lags.map (⟨ns, .lag, ·⟩)

def row (r : CellSource) (query : Query) (interface : Interface) : Except StoreError Row := do
  let cells ← query.columns.mapM fun column => r.cell interface.kind interface.name column.content
  return interface.name :: cells

/-- The rows of the interfaces that pass the filter and are not hidden. The first row that cannot be
read ends the listing. -/
def list (r : CellSource) (query : Query) (hides : Hides) : List Interface → Listing StoreError
  | [] => ⟨[], .ok []⟩
  | interface :: rest =>
    if !query.filter.admits interface.name then r.list query hides rest
    else if hides r.catalog interface then
      let others := r.list query hides rest
      ⟨interface :: others.asked, others.rows⟩
    else
      match r.row query interface with
      | .error e => ⟨[interface], .error e⟩
      | .ok row =>
        let others := r.list query hides rest
        ⟨interface :: others.asked, others.rows.map (row :: ·)⟩

def rows (r : CellSource) (ns : Namespace) (query : Query) (hides : Hides) : Listing StoreError :=
  match r.candidates ns query with
  | .ok interfaces => r.list query hides interfaces
  | .error e => ⟨[], .error e⟩

end CellSource

namespace LagSpeedFault

def toError (ns : Namespace) : LagSpeedFault → Error
  | .store source => .query ns.label source
  | .overflow => .speedOverflow

end LagSpeedFault

namespace Stores

/-- The rows that a query has in one namespace. The catalog and the speeds of the LAGs are read
before any row is. -/
def report (stores : Stores) (ns : Namespace) (copperPorts : List String) (query : Query)
    (hides : Hides) : Listing Error :=
  let cells : Except Error CellSource := do
    let catalog ← Catalog.ofStores ns stores
    let lagSpeeds ← (LagSpeeds.compute stores catalog copperPorts).mapError (·.toError ns)
    return { stores, catalog, lagSpeeds, copperPorts }
  match cells with
  | .error e => ⟨[], .error e⟩
  | .ok r =>
    let listing := r.rows ns query hides
    ⟨listing.asked, listing.rows.mapError (.query ns.label)⟩

end Stores
end InterfaceReport
