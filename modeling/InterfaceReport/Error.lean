import InterfaceReport.Store.Error

/-! What can go wrong between a query and its report. Data that is missing or malformed is shown as
such in the report; only the failures below reach the caller. -/

namespace InterfaceReport

/-- The failures of a report, a namespace being named as it is displayed. -/
inductive Error where
  /-- The databases of a namespace could not be opened. -/
  | storeUnavailable (ns : String) (source : StoreError)
  /-- The configuration of a namespace could not be read. -/
  | catalogBuild (ns : String) (source : StoreError)
  /-- A field of some interface could not be read. -/
  | query (ns : String) (source : StoreError)
  /-- A speed is not an unsigned number of 64 bits. -/
  | malformedSpeed (raw : String)
  /-- A sub-interface belongs to no known port or LAG. -/
  | unresolvedParent (name : String)
  /-- The namespace asked for is not configured. -/
  | unknownNamespace (ns : String)
  /-- The settings or the arguments are not usable. -/
  | config (text : String)
  /-- The sum of member speeds does not fit into 64 bits. -/
  | speedOverflow
deriving DecidableEq

namespace Error

/-- The text of a failure without that of its cause. -/
def message : Error → String
  | .storeUnavailable ns source => s!"Store unavailable for namespace '{ns}': {source.message}"
  | .catalogBuild ns source =>
    s!"Failed to build interface catalog for namespace '{ns}': {source.message}"
  | .query ns source => s!"Failed to query namespace '{ns}': {source.message}"
  | .malformedSpeed raw => s!"Malformed speed value '{raw}'"
  | .unresolvedParent name => s!"Cannot resolve parent of sub-interface '{name}'"
  | .unknownNamespace ns => s!"Unknown namespace '{ns}'"
  | .config text => s!"Configuration error: {text}"
  | .speedOverflow => "attempt to add with overflow"

def source? : Error → Option StoreError
  | .storeUnavailable _ source | .catalogBuild _ source | .query _ source => some source
  | _ => none

def messages (e : Error) : List String := e.message :: (e.source?.map (·.message)).toList

/-- The failure ends the whole run and not only the part of one namespace. -/
def endsRun : Error → Bool
  | .storeUnavailable .. | .unknownNamespace .. | .config .. | .speedOverflow => true
  | _ => false

end Error
end InterfaceReport
