import Mathlib
import InterfaceReport.Proofs.Catalog.Membership
import InterfaceReport.Proofs.Cell.LagSpeed
import InterfaceReport.Proofs.Cell.Locality
import InterfaceReport.Proofs.Cell.Lookups

/-! The speeds that the databases tell of ports, and what is made of them where the databases refuse
nothing: the cell of a port shows its own speed, that of a LAG what its members come to. -/

namespace InterfaceReport

open Steps

/-! ### What is told of a port -/

namespace Stores

variable (stores : Stores) (copperPorts : List String) (port : String)

/-- The value held for a lookup, if it says something. -/
def said? (key : String) (l : Lookup) : Option String :=
  (stores.held? key l).filter isInformative

/-- The speed told of a port: what the hardware reports while the link is up, or else what is set. -/
def toldSpeed? : Option String :=
  (if stores.holdsUp port then stores.said? port (.portState Schema.speed) else none).or
    (stores.said? port (.portStatus Schema.speed))

/-- The number of the speed told; one that is unknown or malformed counts nothing. -/
def megabits : Nat := ((stores.toldSpeed? port).bind Speed.ofText?).getD 0

/-- The speeds told of `ports` together. -/
def total (ports : List String) : Nat := (ports.map stores.megabits).sum

/-- The optics type told of a port. -/
def toldOptics : String :=
  ((stores.held? port ⟨.state, Schema.transceiver, Schema.opticsType, .always⟩).filter
      (!·.isEmpty)).getD <|
    if copperPorts.contains port then Optics.copper
    else if stores.held? port (.portStatus Schema.role) = some Schema.dpuRole then Optics.dpu
    else notAvailable

/-- What a port contributes to the speed of a LAG. -/
def contribution : Contribution := ⟨stores.toldSpeed? port, stores.toldOptics copperPorts port⟩

theorem sum_contribution (ports : List String) :
    LagSpeed.sum (ports.map (stores.contribution copperPorts)) = stores.total ports := by
  induction ports with
  | nil => rfl
  | cons port rest ih =>
    rw [List.map_cons, LagSpeed.sum, ih, total, total, List.map_cons, List.sum_cons]
    rfl

theorem usable?_of_always {key : String} {l : Lookup} (h : l.condition = .always) :
    stores.usable? key l = stores.said? key l := by
  rw [usable?, if_pos (by simp [Admits, h]), said?]

theorem usable?_whenUp (key : String) (l : Lookup) : stores.usable? key l.whenUp =
    if stores.holdsUp key then stores.said? key l else none := by
  simp [usable?, Admits, Lookup.whenUp, said?, held?]

theorem findSome?_speedLookups :
    Rule.speedLookups.findSome? (stores.usable? port) = stores.toldSpeed? port := by
  rw [Rule.speedLookups, List.findSome?_cons, List.findSome?_cons, List.findSome?_nil,
    usable?_whenUp, usable?_of_always stores rfl, toldSpeed?]
  cases (if stores.holdsUp port then stores.said? port (.portState Schema.speed) else none) with
  | some value => rfl
  | none => cases stores.said? port (.portStatus Schema.speed) <;> rfl

section Available

variable {stores} (available : stores.Available)
include available

theorem speedText?_eq : stores.speedText? port = .ok (stores.toldSpeed? port) := by
  rw [speedText?, firstValue_eq available, findSome?_speedLookups]

theorem optics_eq : stores.optics copperPorts port = .ok (stores.toldOptics copperPorts port) := by
  have hstate := Database.accept_of_available available.state .hget
  have happl := Database.accept_of_available available.appl .hget
  rw [optics, Database.field_eq hstate, ok_bind, Database.field_eq happl, ok_bind, toldOptics]
  have htype : stores.held? port ⟨.state, Schema.transceiver, Schema.opticsType, .always⟩ =
    (stores.state.hash (stores.state.kind.fullKey Schema.transceiver port))[Schema.opticsType]? := rfl
  have hrole : stores.held? port (.portStatus Schema.role) =
    (stores.appl.hash (stores.appl.kind.fullKey Schema.portStatus port))[Schema.role]? := rfl
  rw [htype, hrole]
  split
  · next type htype =>
    rw [htype]
    rfl
  · next hnone =>
    rw [hnone, Option.getD_none]
    split
    · rfl
    · simp only [beq_iff_eq]
      split <;> rfl

theorem readMember_eq : LagSpeeds.readMember stores copperPorts port =
    .ok (stores.contribution copperPorts port) := by
  rw [LagSpeeds.readMember, speedText?_eq port available, optics_eq copperPorts port available]
  rfl

end Available

end Stores

/-! ### LAGs -/

namespace LagSpeed

variable {members : List Contribution}

/-- Several members show what they come to, with the optics of the last one. -/
theorem ofMembers_of_two_le (hlength : 2 ≤ members.length) (hsum : sum members < Speed.bound)
    {last : Contribution} (hlast : members.getLast? = some last) :
    ofMembers members = .ok (some (Speed.format (sum members) last.optics)) := by
  match members with
  | m :: n :: rest =>
    rw [List.getLast?_cons_cons, List.getLast?_eq_some_getLast (by simp)] at hlast
    simp only [ofMembers, total?_eq, if_pos hsum, Option.some.inj hlast]

end LagSpeed

namespace LagSpeeds

variable {stores : Stores} {catalog : Catalog} {copperPorts : List String} {lag : String}
  (available : stores.Available)
include available

theorem mapM_readMember (ports : List String) : ports.mapM (readMember stores copperPorts) =
    .ok (ports.map (stores.contribution copperPorts)) := by
  rw [mapM_eq_ok_iff, List.forall₂_map_right_iff, List.forall₂_same]
  intro port _
  exact Stores.readMember_eq copperPorts port available

theorem speedOf_eq : speedOf stores catalog copperPorts lag =
    LagSpeed.ofMembers ((catalog.members lag).map (stores.contribution copperPorts)) := by
  rw [speedOf, mapM_readMember available, ok_bind]

theorem fit_iff : Fit stores catalog copperPorts ↔
    ∀ lag ∈ catalog.lagNames, stores.total (catalog.members lag) < Speed.bound := by
  simp only [Fit, mapM_readMember available, Except.ok.injEq, forall_eq', Stores.sum_contribution]

theorem exists_compute (hfit : Fit stores catalog copperPorts) :
    ∃ lagSpeeds, compute stores catalog copperPorts = .ok lagSpeeds := by
  have hstores := Stores.restored_of_available available
  have hagrees := agrees_compute stores catalog copperPorts (by rwa [hstores])
  rw [hstores] at hagrees
  exact hagrees.exists_ok

end LagSpeeds

theorem Catalog.ofStores_of_available {stores : Stores} (ns : Namespace)
    (available : stores.config.outage = none) : ofStores ns stores =
      .ok (ofTables (stores.config.answers.tables stores.config.kind)) := by
  rw [ofStores, Database.read_eq available]

theorem Catalog.members_eq_nil {catalog : Catalog} {lag : String} (h : lag ∉ catalog.lagNames) :
    catalog.members lag = [] := by
  rw [List.eq_nil_iff_forall_not_mem]
  intro port hport
  apply h
  rw [(lagNames_listing catalog).mem_iff, isLag, Bool.or_eq_true, List.any_eq_true]
  exact .inr ⟨_, mem_members.1 hport, beq_self_eq_true lag⟩

/-! ### Cells -/

namespace CellSource

variable {r : CellSource} {lag port : String} (available : r.stores.Available)
include available

theorem portCell_speed (port : String) : r.cell .port port .speed =
    .ok (((r.stores.toldSpeed? port).bind fun raw =>
      (Speed.formatText raw (r.stores.toldOptics r.copperPorts port)).toOption).getD
        notAvailable) := by
  have hrule : r.cell .port port .speed =
      r.follow ⟨Rule.speedLookups, .speed, notAvailable⟩ port := rfl
  have hvalue : r.stores.firstValue port Rule.speedLookups = .ok (r.stores.toldSpeed? port) :=
    Stores.speedText?_eq port available
  have hoptics := Stores.optics_eq r.copperPorts port available
  rw [hrule, follow, hvalue, ok_bind]
  cases r.stores.toldSpeed? port with
  | none => rfl
  | some raw => simp only [show?, hoptics, ok_bind, pure_eq_ok, Option.bind_some]

variable (hspeeds : LagSpeeds.compute r.stores r.catalog r.copperPorts = .ok r.lagSpeeds)
include hspeeds

theorem lagCell_speed (lag : String) : r.cell .lag lag .speed = .ok
    ((LagSpeed.ofMembers ((r.catalog.members lag).map
      (r.stores.contribution r.copperPorts))).toOption.join.getD notAvailable) := by
  have hshown : r.cell .lag lag .speed = .ok ((r.lagSpeeds.get? lag).getD notAvailable) := rfl
  rw [hshown, LagSpeeds.get?_of_compute hspeeds, LagSpeeds.speedOf_eq available]
  split
  · rfl
  · next hlag =>
    rw [Catalog.members_eq_nil hlag]
    rfl

theorem lagCell_of_no_members (h : r.catalog.members lag = []) :
    r.cell .lag lag .speed = .ok notAvailable := by
  rw [lagCell_speed available hspeeds, h]
  rfl

/-- A LAG with one member shows the speed of the member, also where that is not known or cannot be
read. -/
theorem lagCell_of_single (h : r.catalog.members lag = [port]) :
    r.cell .lag lag .speed = r.cell .port port .speed := by
  rw [lagCell_speed available hspeeds, h, portCell_speed available]
  rfl

theorem lagCell_of_two_le {ports : List String} (h : r.catalog.members lag = ports)
    (hlength : 2 ≤ ports.length) (hsum : r.stores.total ports < Speed.bound) {last : String}
    (hlast : ports.getLast? = some last) : r.cell .lag lag .speed =
      .ok (Speed.format (r.stores.total ports) (r.stores.toldOptics r.copperPorts last)) := by
  rw [← Stores.sum_contribution r.stores r.copperPorts] at hsum ⊢
  rw [lagCell_speed available hspeeds, h, LagSpeed.ofMembers_of_two_le (by simpa using hlength) hsum
    (by rw [List.getLast?_map, hlast]; rfl)]
  rfl

end CellSource

end InterfaceReport
