import InterfaceReport.Cell.Source
import InterfaceReport.Proofs.Store.Locality

/-! Which cells what is told of a port can reach: those of the port itself, the speeds of the LAGs
that it is a member of, and what sub-interfaces take from these. All other cells are made from
lookups under other keys or in other tables. -/

namespace InterfaceReport

open Steps

/-! ### What the rules look up -/

/-- The lookup, made for `key`, reads nothing that is told of `port`. -/
structure Lookup.Spares (port key : String) (l : Lookup) : Prop where
  name : IsTableName l.table
  apart : key ≠ port ∨ l.table ∉ l.database.portTables

/-- The tables in which LAGs and sub-interfaces have entries. -/
def Schema.aggregateTables : List String :=
  [Schema.lagConfig, Schema.lagStatus, Schema.interfaceStatus]

theorem Lookup.spares_of_aggregate {l : Lookup} (h : l.table ∈ Schema.aggregateTables)
    (port key : String) : l.Spares port key := by
  have hnames : ∀ table ∈ Schema.aggregateTables, IsTableName table := by decide
  have hapart : ∀ kind : DatabaseKind, ∀ table ∈ Schema.aggregateTables,
      table ∉ kind.portTables := by
    intro kind
    cases kind <;> decide
  exact ⟨hnames _ h, .inr (hapart _ _ h)⟩

namespace Rule

/-- The rule shows, as it is stored, what LAGs or sub-interfaces have of their own. -/
structure OfAggregate (rule : Rule) : Prop where
  display : rule.display = .verbatim
  always : ∀ l ∈ rule.lookups, l.condition = .always
  table : ∀ l ∈ rule.lookups, l.table ∈ Schema.aggregateTables

variable {a : Attribute} {rule : Rule}

theorem table_of_port? (h : port? a = some rule) :
    ∀ l ∈ rule.lookups, l.table = Schema.portStatus := by
  cases a <;> cases h <;> decide

theorem ofAggregate_of_lag? (h : lag? a = some rule) : rule.OfAggregate := by
  cases a <;> cases h <;> exact ⟨rfl, by decide, by decide⟩

theorem ofAggregate_of_subInterface? (h : subInterface? a = some rule) : rule.OfAggregate := by
  cases a <;> cases h <;> exact ⟨rfl, by decide, by decide⟩

end Rule

/-! ### Following the lookups -/

namespace Stores

/-- Stores that agree on each lookup, and on the link where a lookup depends on it, agree along the
lookups. -/
theorem firstValueFrom_congr {before after : Stores} {key : String} {lookups : List Lookup}
    (hlink : ∀ l ∈ lookups, l.condition = .always ∨ after.isUp key = before.isUp key)
    (hvalue : ∀ l ∈ lookups, after.valueAt? key l = before.valueAt? key l) (known : Option Bool) :
    after.firstValueFrom key known lookups = before.firstValueFrom key known lookups := by
  induction lookups generalizing known with
  | nil => rfl
  | cons l rest ih =>
    rw [List.forall_mem_cons] at hlink hvalue
    have hmeets : after.meets key known l.condition = before.meets key known l.condition := by
      rcases hlink.1 with halways | hup
      · rw [halways]
        rfl
      · cases l.condition with
        | always => rfl
        | linkUp =>
          cases known with
          | some up => rfl
          | none => simp only [meets, hup]
    simp only [firstValueFrom, hmeets, hvalue.1, ih hlink.2 hvalue.2]

namespace SameBut

variable {port key : String} {before after : Stores} (h : before.SameBut port after)
include h

theorem valueAt? {l : Lookup} (hl : l.Spares port key) :
    after.valueAt? key l = before.valueAt? key l := by
  cases hdb : before.database? l.database with
  | none =>
    have hnone : after.database? l.database = none :=
      database?_eq_none_iff.2 (database?_eq_none_iff.1 hdb)
    rw [Stores.valueAt?, Stores.valueAt?, hdb, hnone]
  | some db =>
    obtain ⟨db', hdb', hframe⟩ := h.frame hdb
    have hfield := hframe.field (Database.not_tellsOf hl.name hl.apart) l.field
    simp only [Stores.valueAt?, hdb, hdb', hfield]

theorem firstValue_of_aggregate {rule : Rule} (hrule : rule.OfAggregate) :
    after.firstValue key rule.lookups = before.firstValue key rule.lookups := by
  apply firstValueFrom_congr
  · intro l hl
    exact .inl (hrule.always l hl)
  · intro l hl
    exact h.valueAt? (Lookup.spares_of_aggregate (hrule.table l hl) port key)

section OtherPort

variable (hkey : key ≠ port)
include hkey

theorem isUp : after.isUp key = before.isUp key := by
  rw [Stores.isUp, Stores.isUp, h.appl.field (Database.not_tellsOf_portStatus hkey)]

theorem firstValue {lookups : List Lookup} (htables : ∀ l ∈ lookups, l.table = Schema.portStatus) :
    after.firstValue key lookups = before.firstValue key lookups := by
  apply firstValueFrom_congr
  · intro l _
    exact .inr (h.isUp hkey)
  · intro l hl
    have hname : IsTableName l.table := by
      rw [htables l hl]
      exact DatabaseKind.isTableName_portStatus
    exact h.valueAt? ⟨hname, .inl hkey⟩

theorem optics (copperPorts : List String) :
    after.optics copperPorts key = before.optics copperPorts key := by
  have htransceiver : IsTableName Schema.transceiver := by decide
  rw [Stores.optics, Stores.optics, h.appl.field (Database.not_tellsOf_portStatus hkey),
    h.state.field (Database.not_tellsOf htransceiver (.inl hkey))]

end OtherPort

end SameBut

end Stores

/-! ### The speeds of LAGs -/

namespace LagSpeeds

variable {stores before after : Stores} {catalog : Catalog} {copperPorts : List String}
  {port lag : String}

/-- A name is given the speed that its LAG has, and none if it is that of no LAG. -/
theorem get?_of_compute {speeds : LagSpeeds}
    (h : compute stores catalog copperPorts = .ok speeds) (lag : String) :
    speeds.get? lag = if lag ∈ catalog.lagNames then
      (speedOf stores catalog copperPorts lag).toOption.join else none := by
  have hall := mapM_eq_ok_iff.1 h
  clear h
  rw [get?]
  generalize catalog.lagNames = names at hall ⊢
  induction hall with
  | nil => rfl
  | @cons name pair names pairs hpair _ ih =>
    obtain ⟨speed, hspeed, hpair⟩ := bind_eq_ok_iff.1 hpair
    cases hpair
    by_cases hname : lag = name
    · subst hname
      simp [hspeed, Except.toOption]
    · have hbeq : (lag == name) = false := beq_eq_false_iff_ne.2 hname
      rw [List.lookup_cons, hbeq, ih]
      simp [hname]

variable (h : before.SameBut port after)
include h

theorem readMember_of_ne {member : String} (hne : member ≠ port) :
    readMember after copperPorts member = readMember before copperPorts member := by
  have hspeed : after.speedText? member = before.speedText? member :=
    h.firstValue hne (by decide)
  rw [readMember, readMember, hspeed, h.optics hne]

theorem speedOf_of_not_mem (hlag : port ∉ catalog.members lag) :
    speedOf after catalog copperPorts lag = speedOf before catalog copperPorts lag := by
  have hmembers : (catalog.members lag).mapM (readMember after copperPorts) =
      (catalog.members lag).mapM (readMember before copperPorts) := by
    apply mapM_congr
    intro member hmember
    exact readMember_of_ne h (ne_of_mem_of_not_mem hmember hlag)
  rw [speedOf, speedOf, hmembers]

/-- The speed of a LAG depends on its members only. -/
theorem get?_of_not_mem {speeds speeds' : LagSpeeds}
    (hspeeds : compute before catalog copperPorts = .ok speeds)
    (hspeeds' : compute after catalog copperPorts = .ok speeds')
    (hlag : port ∉ catalog.members lag) : speeds'.get? lag = speeds.get? lag := by
  rw [get?_of_compute hspeeds, get?_of_compute hspeeds', speedOf_of_not_mem h hlag]

end LagSpeeds

/-! ### Cells -/

/-- What is told of `port` can reach the row of an interface: that of the port, of a LAG with the
port among its members, and of a sub-interface with one of these as its parent. -/
def Catalog.concerns (c : Catalog) (port : String) : InterfaceKind → String → Bool
  | .port, name => name == port
  | .lag, name => (c.members name).contains port
  | .subInterface, name => (Name.parent? name).any fun (parent, _) =>
    if c.isPort parent then parent == port else (c.members parent).contains port

namespace CellSource

/-- `after` has the same catalog, and all else but for what is told of `port`. -/
structure SameBut (port : String) (before after : CellSource) : Prop where
  stores : before.stores.SameBut port after.stores
  catalog : after.catalog = before.catalog
  copperPorts : after.copperPorts = before.copperPorts
  lagSpeeds : ∀ lag, port ∉ before.catalog.members lag →
    after.lagSpeeds.get? lag = before.lagSpeeds.get? lag

namespace SameBut

variable {port name : String} {before after : CellSource} (h : before.SameBut port after)
include h

theorem show? (hname : name ≠ port) (value : String) (display : Display) :
    after.show? name value display = before.show? name value display := by
  have hoptics := h.stores.optics hname before.copperPorts
  cases display with
  | verbatim | enabling => rfl
  | speed | speedList => simp only [CellSource.show?, h.copperPorts, hoptics]

theorem follow_of_aggregate {rule : Rule} (hrule : rule.OfAggregate) :
    after.follow rule name = before.follow rule name := by
  rw [follow, follow, h.stores.firstValue_of_aggregate hrule, hrule.display]
  rfl

theorem portCell (hname : name ≠ port) (a : Attribute) :
    after.portCell name a = before.portCell name a := by
  have hrule : after.followOrAbsent (Rule.port? a) name =
      before.followOrAbsent (Rule.port? a) name := by
    cases hport : Rule.port? a with
    | none => rfl
    | some rule =>
      have hvalue := h.stores.firstValue hname (Rule.table_of_port? hport)
      simp only [followOrAbsent, follow, hvalue, h.show? hname]
  cases a with
  | vlan => simp only [CellSource.portCell, h.catalog]
  | type => simp only [CellSource.portCell, h.copperPorts, h.stores.optics hname]
  | _ => exact hrule

theorem lagCell (hname : port ∉ before.catalog.members name) (a : Attribute) :
    after.lagCell name a = before.lagCell name a := by
  have hrule : after.followOrAbsent (Rule.lag? a) name =
      before.followOrAbsent (Rule.lag? a) name := by
    cases hlag : Rule.lag? a with
    | none => rfl
    | some rule => exact h.follow_of_aggregate (Rule.ofAggregate_of_lag? hlag)
  cases a with
  | speed => simp only [CellSource.lagCell, h.lagSpeeds name hname]
  | vlan => simp only [CellSource.lagCell, h.catalog]
  | type => rfl
  | _ => exact hrule

theorem parentCell {parent : String} (hparent : (if before.catalog.isPort parent then
      parent == port else (before.catalog.members parent).contains port) = false)
    (a : Attribute) : after.parentCell parent a = before.parentCell parent a := by
  rw [CellSource.parentCell, CellSource.parentCell, h.catalog]
  split at hparent
  · next hport =>
    rw [if_pos hport, if_pos hport, h.portCell (beq_eq_false_iff_ne.1 hparent)]
  · next hport =>
    rw [List.contains_eq_mem, decide_eq_false_iff_not] at hparent
    rw [if_neg hport, if_neg hport, h.lagCell hparent]

theorem subInterfaceCell (hname : before.catalog.concerns port .subInterface name = false)
    (a : Attribute) : after.subInterfaceCell name a = before.subInterfaceCell name a := by
  have hrule : after.followOrAbsent (Rule.subInterface? a) name =
      before.followOrAbsent (Rule.subInterface? a) name := by
    cases hsub : Rule.subInterface? a with
    | none => rfl
    | some rule => exact h.follow_of_aggregate (Rule.ofAggregate_of_subInterface? hsub)
  rw [CellSource.subInterfaceCell, CellSource.subInterfaceCell]
  cases hparent : Name.parent? name with
  | none => rfl
  | some parent =>
    rw [Catalog.concerns, hparent, Option.any_some] at hname
    cases a with
    | type => rfl
    | mtu | speed => exact h.parentCell hname _
    | _ => exact hrule

/-- A cell that is not concerned is what it was. -/
theorem cell {kind : InterfaceKind} (hname : before.catalog.concerns port kind name = false)
    (a : Attribute) : after.cell kind name a = before.cell kind name a := by
  cases kind with
  | port => exact h.portCell (beq_eq_false_iff_ne.1 hname) a
  | lag =>
    rw [Catalog.concerns, List.contains_eq_mem, decide_eq_false_iff_not] at hname
    exact h.lagCell hname a
  | subInterface => exact h.subInterfaceCell hname a

end SameBut

end CellSource

end InterfaceReport
