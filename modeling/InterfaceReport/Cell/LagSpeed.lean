import InterfaceReport.Catalog.Basic
import InterfaceReport.Cell.Optics

/-! The speeds of LAGs, which are made from those of their members. -/

namespace InterfaceReport

/-- What a member contributes to the speed of its LAG. -/
structure Contribution where
  /-- The stored text of the speed, if there is one. -/
  raw : Option String
  optics : String
deriving DecidableEq

/-- The number of a member's speed; one that is missing or malformed counts nothing. -/
def Contribution.amount (m : Contribution) : Nat := (m.raw.bind Speed.ofText?).getD 0

/-- What stops the computation of LAG speeds. -/
inductive LagSpeedFault where
  | store (source : StoreError)
  /-- A sum of speeds leaves the 64 bits of a speed. -/
  | overflow
deriving DecidableEq

namespace LagSpeed

def add? (a b : Nat) : Option Nat := if a + b < Speed.bound then some (a + b) else none

def total? (members : List Contribution) : Option Nat :=
  members.foldlM (fun sum m => add? sum m.amount) 0

/-- The speed shown for a LAG with these members. That of a single member is shown as it is. Several
add up, and the optics of the last one decide on the unit, also where the others differ. -/
def ofMembers : List Contribution → Except LagSpeedFault (Option String)
  | [] => .ok none
  | [m] => .ok (m.raw.bind fun raw => (Speed.formatText raw m.optics).toOption)
  | m :: n :: rest =>
    match total? (m :: n :: rest) with
    | some sum => .ok (some (Speed.format sum ((n :: rest).getLast (by simp)).optics))
    | none => .error .overflow

end LagSpeed

/-- The speed shown for each LAG, in natural order of the LAGs. -/
abbrev LagSpeeds := List (String × Option String)

namespace LagSpeeds

def readMember (stores : Stores) (copperPorts : List String) (port : String) :
    Except LagSpeedFault Contribution :=
  (do return ⟨← stores.speedText? port, ← stores.optics copperPorts port⟩ :
    Except StoreError Contribution).mapError .store

def speedOf (stores : Stores) (catalog : Catalog) (copperPorts : List String) (lag : String) :
    Except LagSpeedFault (Option String) := do
  LagSpeed.ofMembers (← (catalog.members lag).mapM (readMember stores copperPorts))

def compute (stores : Stores) (catalog : Catalog) (copperPorts : List String) :
    Except LagSpeedFault LagSpeeds :=
  catalog.lagNames.mapM fun lag => return (lag, ← speedOf stores catalog copperPorts lag)

def get? (speeds : LagSpeeds) (lag : String) : Option String := (speeds.lookup lag).join

end LagSpeeds
end InterfaceReport
