/-! Why a database does not answer. -/

namespace InterfaceReport

/-- A failure of the connection to a database or of one command on it. Keys and fields that are
missing are no failures. -/
inductive StoreError where
  | connection (database text : String)
  | command (database operation text : String)
deriving DecidableEq

namespace StoreError

def message : StoreError → String
  | .connection database text => s!"Failed to connect to {database}: {text}"
  | .command database operation text =>
    s!"Database operation failed on {database}: {operation}: {text}"

def database : StoreError → String
  | .connection database _ => database
  | .command database _ _ => database

/-- The database could not be reached at all. -/
def isUnreachable : StoreError → Bool
  | .connection .. => true
  | .command .. => false

end StoreError
end InterfaceReport
