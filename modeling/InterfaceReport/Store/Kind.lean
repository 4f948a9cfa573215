/-! The databases of a switch and how they lay out their keys. -/

namespace InterfaceReport

/-- The logical databases of a switch. -/
inductive DatabaseKind where
  /-- What the operator has configured. -/
  | config
  /-- What the daemons publish. -/
  | appl
  /-- What the hardware reports. -/
  | state
  /-- Statistics, and the requests to clear them. -/
  | counters
deriving DecidableEq

namespace DatabaseKind

def name : DatabaseKind → String
  | .config => "CONFIG_DB"
  | .appl => "APPL_DB"
  | .state => "STATE_DB"
  | .counters => "COUNTERS_DB"

/-- The number under which a server keeps the database unless it is configured otherwise. -/
def number : DatabaseKind → Nat
  | .config => 4
  | .appl => 0
  | .state => 6
  | .counters => 2

/-- The character between a table's name and the key of an entry. -/
def separator : DatabaseKind → Char
  | .config | .state => '|'
  | .appl | .counters => ':'

def fullKey (kind : DatabaseKind) (table key : String) : String :=
  table ++ kind.separator.toString ++ key

end DatabaseKind
end InterfaceReport
