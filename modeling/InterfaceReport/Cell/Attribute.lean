import InterfaceReport.Store.Schema

/-! The attributes of interfaces that reports have columns for. -/

namespace InterfaceReport

/-- What a row is about. -/
inductive InterfaceKind where
  | port
  | lag
  | subInterface
deriving DecidableEq

/-- What a column can tell of an interface. -/
inductive Attribute where
  | lanes
  | speed
  | mtu
  | adminFec
  | operFec
  | aliasName
  | vlan
  | operStatus
  | adminStatus
  | type
  | pfcAsym
  | description
  | tpid
  | autoneg
  | advSpeeds
  | rmtAdvSpeeds
  | interfaceType
  | advInterfaceTypes
  | linkTraining
  | linkTrainingStatus
deriving DecidableEq

/-- The field that holds an attribute where it is stored as such. -/
def Attribute.stored : Attribute → String
  | .lanes => Schema.lanes
  | .speed => Schema.speed
  | .mtu => Schema.mtu
  | .adminFec | .operFec => Schema.fec
  | .aliasName => Schema.aliasName
  | .vlan => Schema.vlan
  | .operStatus => Schema.operStatus
  | .adminStatus => Schema.adminStatus
  | .type => Schema.opticsType
  | .pfcAsym => Schema.pfcAsym
  | .description => Schema.description
  | .tpid => Schema.tpid
  | .autoneg => Schema.autoneg
  | .advSpeeds => Schema.advSpeeds
  | .rmtAdvSpeeds => Schema.rmtAdvSpeeds
  | .interfaceType => Schema.interfaceType
  | .advInterfaceTypes => Schema.advInterfaceTypes
  | .linkTraining => Schema.linkTraining
  | .linkTrainingStatus => Schema.linkTrainingStatus

end InterfaceReport
