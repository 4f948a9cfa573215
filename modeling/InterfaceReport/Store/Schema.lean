/-! The tables, fields and values that interfaces are described with. -/

namespace InterfaceReport.Schema

/-! ### Tables of the configuration -/

def portConfig : String := "PORT"
def lagConfig : String := "PORTCHANNEL"
/-- Its keys pair a LAG with a member. -/
def lagMembers : String := "PORTCHANNEL_MEMBER"
/-- Its keys pair a VLAN with a member. -/
def vlanMembers : String := "VLAN_MEMBER"
def subInterfaces : String := "VLAN_SUB_INTERFACE"

/-! ### Tables of the daemons -/

def portStatus : String := "PORT_TABLE"
def lagStatus : String := "LAG_TABLE"
def interfaceStatus : String := "INTF_TABLE"

/-! ### Tables of the hardware -/

def portState : String := "PORT_TABLE"
def transceiver : String := "TRANSCEIVER_INFO"

/-! ### Fields -/

def lanes : String := "lanes"
def aliasName : String := "alias"
def operStatus : String := "oper_status"
def adminStatus : String := "admin_status"
def speed : String := "speed"
def mtu : String := "mtu"
def fec : String := "fec"
def description : String := "description"
def opticsType : String := "type"
def pfcAsym : String := "pfc_asym"
def autoneg : String := "autoneg"
def advSpeeds : String := "adv_speeds"
def rmtAdvSpeeds : String := "rmt_adv_speeds"
def interfaceType : String := "interface_type"
def advInterfaceTypes : String := "adv_interface_types"
def tpid : String := "tpid"
def linkTraining : String := "link_training"
def linkTrainingStatus : String := "link_training_status"
def mode : String := "mode"
def role : String := "role"
def vlan : String := "vlan"

/-! ### Values -/

def up : String := "up"

/-- The role of ports that face a data processing unit. -/
def dpuRole : String := "Dpc"

/-- The roles of ports that never leave the switch: backplane, inband and recirculation. -/
def internalRoles : List String := ["Int", "Inb", "Rec"]

end InterfaceReport.Schema
