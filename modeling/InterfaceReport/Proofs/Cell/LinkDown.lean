import InterfaceReport.Proofs.Cell.Locality
import InterfaceReport.Proofs.Cell.Origin

/-! While the link of a port is down, no cell shows the speed and the error correction that the
hardware still reports for it. Every lookup of these fields waits for the link, the sums of member
speeds make the same lookups as the cells do, and all else is read from other fields. -/

namespace InterfaceReport

open Steps

/-- What the hardware reports of a link. -/
def Schema.linkFields : List String := [Schema.speed, Schema.fec]

/-! ### Guarded lookups -/

/-- The lookup waits for the link of the port, or it is for no field that is reported of a link. -/
def Lookup.Guarded (l : Lookup) : Prop :=
  IsTableName l.table ∧ (l.condition = .linkUp ∨ l.database ≠ .state ∨
    l.table ≠ Schema.portState ∨ l.field ∉ Schema.linkFields)

instance (l : Lookup) : Decidable l.Guarded :=
  inferInstanceAs (Decidable (_ ∧ _))

theorem Rule.guarded_of_port? {a : Attribute} {rule : Rule} (h : port? a = some rule) :
    ∀ l ∈ rule.lookups, l.Guarded := by
  cases a <;> cases h <;> decide

theorem Rule.OfAggregate.guarded {rule : Rule} (h : rule.OfAggregate) :
    ∀ l ∈ rule.lookups, l.Guarded := by
  have htables : ∀ table ∈ Schema.aggregateTables,
      IsTableName table ∧ table ≠ Schema.portState := by
    decide
  intro l hl
  obtain ⟨hname, hne⟩ := htables _ (h.table l hl)
  exact ⟨hname, .inr (.inr (.inl hne))⟩

theorem Rule.Serves.guarded {a : Attribute} {rule : Rule} (h : rule.Serves a) :
    ∀ l ∈ rule.lookups, l.Guarded := by
  rcases h with hport | hlag | hsub
  · exact Rule.guarded_of_port? hport
  · exact (Rule.ofAggregate_of_lag? hlag).guarded
  · exact (Rule.ofAggregate_of_subInterface? hsub).guarded

namespace Stores

/-- `after` holds what `before` does but for what the hardware reports of the link of `port`. -/
structure SameButLink (port : String) (before after : Stores) : Prop where
  config : after.config = before.config
  appl : after.appl = before.appl
  kind : after.state.kind = before.state.kind
  outage : after.state.outage = before.state.outage
  value : ∀ key field, key ≠ before.state.kind.fullKey Schema.portState port ∨
    field ∉ Schema.linkFields → (after.state.hash key)[field]? = (before.state.hash key)[field]?

/-- Where it is not known that the link is up, it does not come to be known as such, and nothing is
looked up that waits for it. -/
theorem not_admitted {stores : Stores} {port : String} (hdown : stores.isUp port ≠ .ok true)
    {known known' : Option Bool} (hknown : known ≠ some true) {condition : Condition}
    {admitted : Bool} (h : stores.meets port known condition = .ok (admitted, known')) :
    known' ≠ some true ∧ (condition = .linkUp → admitted = false) := by
  cases condition with
  | always =>
    cases h
    exact ⟨hknown, fun hup => by cases hup⟩
  | linkUp =>
    cases known with
    | some up =>
      cases h
      exact ⟨hknown, fun _ => Bool.eq_false_iff.2 fun hup => hknown (congrArg some hup)⟩
    | none =>
      obtain ⟨up, hisUp, hpure⟩ := bind_eq_ok_iff.1 h
      cases hpure
      have hup : admitted = false := Bool.eq_false_iff.2 fun hup => hdown (by rw [hisUp, hup])
      exact ⟨by simp [hup], fun _ => hup⟩

namespace SameButLink

variable {port : String} {before after : Stores} (h : before.SameButLink port after)
include h

theorem stateField {table key field : String} (hname : IsTableName table)
    (hapart : table ≠ Schema.portState ∨ key ≠ port ∨ field ∉ Schema.linkFields) :
    after.state.field table key field = before.state.field table key field := by
  have haccept : after.state.accept .hget = before.state.accept .hget := by
    rw [Database.accept, Database.accept, h.outage, h.kind]
  have hvalue : (after.state.hash (before.state.kind.fullKey table key))[field]? =
      (before.state.hash (before.state.kind.fullKey table key))[field]? := by
    apply h.value
    rw [ne_eq, DatabaseKind.fullKey_inj hname (by decide)]
    tauto
  rw [Database.field, Database.field, Database.hget, Database.hget, haccept, h.kind, hvalue]

theorem optics (copperPorts : List String) (key : String) :
    after.optics copperPorts key = before.optics copperPorts key := by
  rw [Stores.optics, Stores.optics, h.appl, h.stateField (by decide) (.inl (by decide))]

theorem valueAt? {key : String} {l : Lookup} (hname : IsTableName l.table)
    (hapart : l.database ≠ .state ∨ l.table ≠ Schema.portState ∨ key ≠ port ∨
      l.field ∉ Schema.linkFields) : after.valueAt? key l = before.valueAt? key l := by
  cases hdb : l.database with
  | config => simp only [Stores.valueAt?, hdb, database?, h.config]
  | appl => simp only [Stores.valueAt?, hdb, database?, h.appl]
  | state =>
    have hfield := h.stateField hname (hapart.resolve_left (absurd hdb))
    simp only [Stores.valueAt?, hdb, database?, hfield]
  | counters => simp only [Stores.valueAt?, hdb, database?]

variable (hdown : before.isUp port ≠ .ok true)
include hdown

/-- Along guarded lookups the same is found. The induction keeps that the link of the port is not
known to be up. -/
theorem firstValueFrom {lookups : List Lookup} (hguarded : ∀ l ∈ lookups, l.Guarded)
    {key : String} {known : Option Bool} (hknown : key = port → known ≠ some true) :
    after.firstValueFrom key known lookups = before.firstValueFrom key known lookups := by
  induction lookups generalizing known with
  | nil => rfl
  | cons l rest ih =>
    rw [List.forall_mem_cons] at hguarded
    obtain ⟨⟨hname, hguard⟩, hrest⟩ := hguarded
    have hmeets : after.meets key known l.condition = before.meets key known l.condition := by
      simp only [meets, isUp, h.appl]
    rw [Stores.firstValueFrom, Stores.firstValueFrom, hmeets]
    cases hmet : before.meets key known l.condition with
    | error e => rfl
    | ok met =>
      obtain ⟨admitted, known'⟩ := met
      have hwaits : key = port → known' ≠ some true ∧
          (l.condition = .linkUp → admitted = false) := by
        rintro rfl
        exact not_admitted hdown (hknown rfl) hmet
      have hothers := ih hrest fun hkey => (hwaits hkey).1
      simp only [ok_bind, hothers]
      cases admitted with
      | false => rfl
      | true =>
        have hvalue : after.valueAt? key l = before.valueAt? key l := by
          apply h.valueAt? hname
          by_cases hkey : key = port
          · have hcondition : l.condition ≠ .linkUp := fun hup => by
              cases (hwaits hkey).2 hup
            tauto
          · exact .inr (.inr (.inl hkey))
        rw [hvalue]

theorem firstValue {lookups : List Lookup} (hguarded : ∀ l ∈ lookups, l.Guarded) (key : String) :
    after.firstValue key lookups = before.firstValue key lookups :=
  h.firstValueFrom hdown hguarded fun _ => by simp

end SameButLink

end Stores

/-! ### Cells -/

section Cells

variable {port : String} {before after : Stores} (h : before.SameButLink port after)
  {catalog : Catalog} {lagSpeeds : LagSpeeds} {copperPorts : List String}
include h

theorem CellSource.show?_of_sameButLink (key value : String) (display : Display) :
    show? ⟨after, catalog, lagSpeeds, copperPorts⟩ key value display =
      show? ⟨before, catalog, lagSpeeds, copperPorts⟩ key value display := by
  cases display with
  | verbatim | enabling => rfl
  | speed | speedList => simp only [show?, h.optics]

variable (hdown : before.isUp port ≠ .ok true)
include hdown

/-- The speeds of LAGs are made from the lookups of the ports' own speeds. -/
theorem LagSpeeds.compute_of_sameButLink :
    compute after catalog copperPorts = compute before catalog copperPorts := by
  have hmember : readMember after copperPorts = readMember before copperPorts := by
    funext member
    rw [readMember, readMember, Stores.speedText?, Stores.speedText?,
      h.firstValue hdown (by decide), h.optics]
  simp only [compute, speedOf, hmember]

namespace CellSource

theorem read_of_sameButLink {a : Attribute} {o : Origin} (ho : o.Serves a) :
    read ⟨after, catalog, lagSpeeds, copperPorts⟩ o =
      read ⟨before, catalog, lagSpeeds, copperPorts⟩ o := by
  cases ho with
  | text | lagSpeed => rfl
  | rule key hrule =>
    simp only [read, follow, h.firstValue hdown hrule.guarded, show?_of_sameButLink h]
  | optics port => exact h.optics copperPorts port

theorem cell_of_sameButLink : cell ⟨after, catalog, lagSpeeds, copperPorts⟩ =
    cell ⟨before, catalog, lagSpeeds, copperPorts⟩ := by
  funext kind name a
  rw [cell_eq, cell_eq, read_of_sameButLink h hdown (catalog.serves_origin kind name a)]

end CellSource

end Cells

end InterfaceReport
