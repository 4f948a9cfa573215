import InterfaceReport.Cell.Source
import InterfaceReport.Proofs.Store.Answers
import InterfaceReport.Proofs.Store.Outage

/-! What the lookups of a rule find where the databases refuse nothing: the first value held for
them that says something, lookups that wait for a link that is down left out. -/

namespace InterfaceReport

open Steps

namespace Stores

/-- What the databases hold where a lookup looks. -/
def held? (stores : Stores) (key : String) (l : Lookup) : Option String :=
  (stores.database? l.database).bind fun db => (db.hash (db.kind.fullKey l.table key))[l.field]?

/-- The operational status held for the port is `up`. -/
def holdsUp (stores : Stores) (port : String) : Bool :=
  stores.held? port (.portStatus Schema.operStatus) == some Schema.up

/-- The lookup is made: it does not wait for the link, or the link is up. -/
def Admits (stores : Stores) (key : String) (l : Lookup) : Prop :=
  l.condition = .linkUp → stores.holdsUp key = true

instance (stores : Stores) (key : String) (l : Lookup) : Decidable (stores.Admits key l) :=
  inferInstanceAs (Decidable (_ → _))

/-- The value held for a lookup that is made, if it says something. -/
def usable? (stores : Stores) (key : String) (l : Lookup) : Option String :=
  if stores.Admits key l then (stores.held? key l).filter isInformative else none

variable {stores : Stores} {key : String}

theorem usable?_eq_none_iff {l : Lookup} :
    stores.usable? key l = none ↔ (stores.Admits key l →
      ∀ value, stores.held? key l = some value → value = "" ∨ value = notAvailable) := by
  rw [usable?]
  split
  · next hadmits =>
    simp [hadmits, Option.filter_eq_none_iff, isInformative, or_iff_not_imp_left]
  · next hadmits => simp [hadmits]

theorem informative_of_findSome? {lookups : List Lookup} {value : String}
    (h : lookups.findSome? (stores.usable? key) = some value) :
    value ≠ "" ∧ value ≠ notAvailable := by
  obtain ⟨l, -, hl⟩ := List.exists_of_findSome?_eq_some h
  rw [usable?] at hl
  split at hl
  · simpa [isInformative] using (Option.filter_eq_some_iff.1 hl).2
  · cases hl

variable (available : stores.Available)
include available

theorem isUp_eq (port : String) : stores.isUp port = .ok (stores.holdsUp port) := by
  rw [isUp, Database.field_eq (Database.accept_of_available available.appl .hget)]
  rfl

theorem valueAt?_eq (l : Lookup) :
    stores.valueAt? key l = .ok ((stores.held? key l).filter isInformative) := by
  rw [valueAt?, held?]
  cases hdb : stores.database? l.database with
  | none => rfl
  | some db =>
    have haccept := Database.accept_of_available (available.outage_eq_none hdb) .hget
    simp only [Database.field_eq haccept, ok_bind, pure_eq_ok, Option.bind_some]

/-- What is known of the link is what the database holds of it. -/
theorem meets_eq {known : Option Bool} (hknown : ∀ up ∈ known, up = stores.holdsUp key)
    (l : Lookup) : ∃ known', stores.meets key known l.condition =
      .ok (decide (stores.Admits key l), known') ∧ ∀ up ∈ known', up = stores.holdsUp key := by
  cases hcondition : l.condition with
  | always =>
    refine ⟨known, ?_, hknown⟩
    simp [meets, Admits, hcondition]
  | linkUp =>
    cases known with
    | some up =>
      refine ⟨some up, ?_, hknown⟩
      simp [meets, Admits, hcondition, hknown up rfl]
    | none =>
      refine ⟨some (stores.holdsUp key), ?_, by simp⟩
      simp [meets, Admits, hcondition, isUp_eq available]

theorem firstValueFrom_eq {known : Option Bool} (hknown : ∀ up ∈ known, up = stores.holdsUp key)
    (lookups : List Lookup) :
    stores.firstValueFrom key known lookups = .ok (lookups.findSome? (stores.usable? key)) := by
  induction lookups generalizing known with
  | nil => rfl
  | cons l rest ih =>
    obtain ⟨known', hmeets, hknown'⟩ := meets_eq available hknown l
    rw [firstValueFrom, hmeets, ok_bind, List.findSome?_cons, usable?, valueAt?_eq available]
    by_cases hadmits : stores.Admits key l
    · simp only [hadmits, decide_true, Bool.not_true, Bool.false_eq_true, if_false, if_true,
        ok_bind]
      cases (stores.held? key l).filter isInformative with
      | some value => rfl
      | none => exact ih hknown'
    · simpa [hadmits] using ih hknown'

theorem firstValue_eq (lookups : List Lookup) :
    stores.firstValue key lookups = .ok (lookups.findSome? (stores.usable? key)) :=
  firstValueFrom_eq available (by simp) lookups

end Stores

end InterfaceReport
