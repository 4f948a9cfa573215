/-! How an interface takes part in VLANs. -/

namespace InterfaceReport

/-- The ways to take part in VLANs. -/
inductive SwitchMode where
  /-- The interface routes and carries no VLANs. -/
  | routed
  /-- The interface carries tagged traffic. -/
  | trunk
  /-- The interface carries the untagged traffic of one VLAN. -/
  | access
deriving DecidableEq

namespace SwitchMode

def name : SwitchMode → String
  | .routed => "routed"
  | .trunk => "trunk"
  | .access => "access"

def ofName? : String → Option SwitchMode
  | "routed" => some .routed
  | "trunk" => some .trunk
  | "access" => some .access
  | _ => none

def unknownMessage (text : String) : String := s!"Unknown switchport mode: {text}"

theorem ofName?_name (m : SwitchMode) : ofName? m.name = some m := by cases m <;> rfl

end SwitchMode
end InterfaceReport
