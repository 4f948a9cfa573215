import InterfaceReport.Cell.Rule

/-! The optics type of a port: what is plugged into it. -/

namespace InterfaceReport

namespace Optics

/-- The optics type of ports that face a data processing unit. -/
def dpu : String := "DPU-NPU Data Port"

end Optics

namespace Stores

/-- The optics type of `port`. The transceiver's own type goes first, then the platform's list of
copper ports, then the role of the port. -/
def optics (stores : Stores) (copperPorts : List String) (port : String) :
    Except StoreError String := do
  match (← stores.state.field Schema.transceiver port Schema.opticsType).filter (!·.isEmpty) with
  | some type => return type
  | none =>
    if copperPorts.contains port then return Optics.copper
    else if (← stores.appl.field Schema.portStatus port Schema.role) == some Schema.dpuRole then
      return Optics.dpu
    else return notAvailable

end Stores
end InterfaceReport
