import InterfaceReport.Cell.Attribute
import InterfaceReport.Speed
import InterfaceReport.Store.Namespace

/-! Rules for attributes: where a value is looked for, in which order, and how the value found is
shown. -/

namespace InterfaceReport

/-- When a lookup is made. -/
inductive Condition where
  | always
  /-- Only while the link of the port is up. -/
  | linkUp
deriving DecidableEq

/-- One field of the entry that an interface has in a table. -/
structure Lookup where
  database : DatabaseKind
  table : String
  field : String
  condition : Condition
deriving DecidableEq

namespace Lookup

/-! Lookups that are always made, each named for its table. -/

def portStatus (field : String) : Lookup := ⟨.appl, Schema.portStatus, field, .always⟩
def portState (field : String) : Lookup := ⟨.state, Schema.portState, field, .always⟩
def lagStatus (field : String) : Lookup := ⟨.appl, Schema.lagStatus, field, .always⟩
def lagConfig (field : String) : Lookup := ⟨.config, Schema.lagConfig, field, .always⟩
def interfaceStatus (field : String) : Lookup := ⟨.appl, Schema.interfaceStatus, field, .always⟩

def whenUp (l : Lookup) : Lookup := { l with condition := .linkUp }

end Lookup

/-- How a value found is shown. -/
inductive Display where
  /-- As it is stored. -/
  | verbatim
  /-- As a speed, with the optics of the port. -/
  | speed
  /-- As a list of speeds, with the optics of the port. -/
  | speedList
  /-- As `enabled` where the value is `on`, otherwise as `disabled`. -/
  | enabling
deriving DecidableEq

/-- Lookups in order, the display of the first value that says something, and what is shown if
there is none. -/
structure Rule where
  lookups : List Lookup
  display : Display
  absent : String
deriving DecidableEq

namespace Rule

/-- Shows what `lookups` find as it is stored. -/
def of (lookups : List Lookup) : Rule := ⟨lookups, .verbatim, notAvailable⟩

/-- The speed of a port: what the hardware reports while the link is up, or else what is set. -/
def speedLookups : List Lookup :=
  [(Lookup.portState Schema.speed).whenUp, Lookup.portStatus Schema.speed]

/-- The tag protocol of interfaces for which none is set. -/
def standardTpid : String := "0x8100"

/-- The rule of a port's attribute. VLAN mode and type are not looked up in this way. -/
def port? : Attribute → Option Rule
  | .vlan | .type => none
  | .speed => some { of speedLookups with display := .speed }
  | .advSpeeds => some { of [.portStatus Schema.advSpeeds] with display := .speedList }
  | .rmtAdvSpeeds => some { of [.portState Schema.rmtAdvSpeeds] with display := .speedList }
  | .operFec => some (of
      [(Lookup.portState Schema.fec).whenUp, (Lookup.portStatus Schema.fec).whenUp])
  | .tpid => some { of [.portStatus Schema.tpid] with absent := standardTpid }
  | .linkTrainingStatus => some (of [.portState Schema.linkTrainingStatus])
  | .autoneg => some { of [.portStatus Schema.autoneg] with display := .enabling }
  | a => some (of [.portStatus a.stored])

/-- The rule of a LAG's attribute. Speed, VLAN mode and type are not stored for LAGs. -/
def lag? : Attribute → Option Rule
  | .speed | .vlan | .type => none
  | .mtu => some (of [.lagConfig Schema.mtu])
  | .tpid => some { of [.lagConfig Schema.tpid] with absent := standardTpid }
  | a => some (of [.lagStatus a.stored])

/-- The rule of an attribute that a sub-interface has of its own. -/
def subInterface? : Attribute → Option Rule
  | .vlan => some (of [.interfaceStatus Schema.vlan])
  | .adminStatus => some (of [.interfaceStatus Schema.adminStatus])
  | _ => none

end Rule

/-! ### Following the lookups -/

/-- A value that says something. -/
def isInformative (value : String) : Bool := !value.isEmpty && value != notAvailable

namespace Stores

/-- The link of `port` is up. -/
def isUp (stores : Stores) (port : String) : Except StoreError Bool := do
  return (← stores.appl.field Schema.portStatus port Schema.operStatus) == some Schema.up

/-- Whether a lookup under a condition is made, and what is known of the link afterwards. The link
is asked for when a condition first needs it. -/
def meets (stores : Stores) (key : String) (known : Option Bool) :
    Condition → Except StoreError (Bool × Option Bool)
  | .always => return (true, known)
  | .linkUp =>
    match known with
    | some up => return (up, known)
    | none => do
      let up ← stores.isUp key
      return (up, some up)

/-- The value that one lookup finds, if it says something. A report opens no counters, so a lookup
there finds nothing. -/
def valueAt? (stores : Stores) (key : String) (l : Lookup) : Except StoreError (Option String) :=
  match stores.database? l.database with
  | none => .ok none
  | some db => do return (← db.field l.table key l.field).filter isInformative

/-- The first value for `key` along the lookups that says something; those after it are not made. -/
def firstValueFrom (stores : Stores) (key : String) :
    Option Bool → List Lookup → Except StoreError (Option String)
  | _, [] => .ok none
  | known, l :: rest => do
    let (admitted, known) ← stores.meets key known l.condition
    if !admitted then stores.firstValueFrom key known rest
    else
      match ← stores.valueAt? key l with
      | some value => return some value
      | none => stores.firstValueFrom key known rest

/-- The first value for `key` along the lookups that says something. -/
def firstValue (stores : Stores) (key : String) (lookups : List Lookup) :
    Except StoreError (Option String) :=
  stores.firstValueFrom key none lookups

def speedText? (stores : Stores) (port : String) : Except StoreError (Option String) :=
  stores.firstValue port Rule.speedLookups

end Stores
end InterfaceReport
