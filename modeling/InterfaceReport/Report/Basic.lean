import InterfaceReport.Report.Rows
import InterfaceReport.Report.Table

/-! A report over several namespaces, which are visited one after the other. -/

namespace InterfaceReport

/-- A namespace that was left out, and why. -/
structure Failure where
  ns : Namespace
  error : Error
deriving DecidableEq

/-- What the namespaces visited have come to. -/
structure Report where
  header : List String
  rows : List Row
  failures : List Failure
  /-- The interfaces on which the display was asked to decide. -/
  asked : List Interface
deriving DecidableEq

namespace Report

def empty (query : Query) : Report := ⟨query.header, [], [], []⟩

/-- Every namespace has contributed its rows. -/
def isComplete (r : Report) : Bool := r.failures.isEmpty

/-- The rows as a table, in the natural order of the interfaces. -/
def render (r : Report) : String := Table.render r.header (Table.inOrder r.rows)

/-- The report with the part of a namespace that was visited before. A failure there leaves the
namespace out, unless it is fatal. -/
def prepend (ns : Namespace) (part : Listing Error) (rest : Report) : Report :=
  let report := { rest with asked := part.asked ++ rest.asked }
  match part.rows with
  | .ok rows => { report with rows := rows ++ rest.rows }
  | .error e => { report with failures := ⟨ns, e⟩ :: rest.failures }

end Report

/-- What is given to every run. -/
structure Platform where
  connect : Connect
  copperPorts : List String

namespace Platform

/-- The part of one namespace. Databases that cannot be opened, and sums of speeds that leave their
range, end the run. -/
def visit (p : Platform) (query : Query) (hides : Hides) (ns : Namespace) :
    Except Error (Listing Error) :=
  match p.connect ns with
  | .error source => .error (.storeUnavailable ns.label source)
  | .ok stores =>
    let part := stores.report ns p.copperPorts query hides
    match part.rows with
    | .error e => if e.endsRun then .error e else .ok part
    | .ok _ => .ok part

def run (p : Platform) (query : Query) (hides : Hides) : List Namespace → Except Error Report
  | [] => .ok (.empty query)
  | ns :: rest => do
    let part ← p.visit query hides ns
    return (← p.run query hides rest).prepend ns part

end Platform

end InterfaceReport
