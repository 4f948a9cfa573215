import InterfaceReport.Proofs.Cell.Origin
import InterfaceReport.Proofs.Store.Outage

/-! Cells read from databases that refuse commands: a cell is the one that the whole databases give,
or it fails. No failure is taken for a value that is missing. -/

namespace InterfaceReport

open Steps

/-! ### Lookups -/

namespace Stores

variable (stores : Stores)

theorem agrees_isUp (port : String) :
    AgreesUnless stores.Blames (stores.isUp port) (stores.restored.isUp port) :=
  (stores.blames_of_database .appl rfl (stores.appl.agrees_field ..)).bind
    fun _ => .agrees _

theorem agrees_meets (key : String) (known : Option Bool) (condition : Condition) :
    AgreesUnless stores.Blames (stores.meets key known condition)
      (stores.restored.meets key known condition) := by
  cases condition with
  | always => exact .agrees _
  | linkUp =>
    cases known with
    | some up => exact .agrees _
    | none => exact (stores.agrees_isUp key).bind fun _ => .agrees _

theorem agrees_valueAt? (key : String) (l : Lookup) :
    AgreesUnless stores.Blames (stores.valueAt? key l) (stores.restored.valueAt? key l) := by
  simp only [valueAt?, database?_restored]
  cases hdb : stores.database? l.database with
  | none => exact .agrees none
  | some db =>
    exact (stores.blames_of_database _ hdb (db.agrees_field ..)).bind fun _ => .agrees _

/-- Along the lookups, what is known of the link is the same in both readings. -/
theorem agrees_firstValueFrom (key : String) (known : Option Bool) (lookups : List Lookup) :
    AgreesUnless stores.Blames (stores.firstValueFrom key known lookups)
      (stores.restored.firstValueFrom key known lookups) := by
  induction lookups generalizing known with
  | nil => exact .agrees none
  | cons l rest ih =>
    simp only [firstValueFrom]
    refine (stores.agrees_meets key known l.condition).bind fun (admitted, known) => ?_
    cases admitted with
    | false => exact ih known
    | true =>
      refine (stores.agrees_valueAt? key l).bind fun value => ?_
      cases value with
      | some value => exact .agrees _
      | none => exact ih known

theorem agrees_firstValue (key : String) (lookups : List Lookup) :
    AgreesUnless stores.Blames (stores.firstValue key lookups)
      (stores.restored.firstValue key lookups) :=
  stores.agrees_firstValueFrom key none lookups

theorem agrees_optics (copperPorts : List String) (port : String) :
    AgreesUnless stores.Blames (stores.optics copperPorts port)
      (stores.restored.optics copperPorts port) := by
  refine (stores.blames_of_database .state rfl (stores.state.agrees_field ..)).bind
    fun type => ?_
  split
  · exact .agrees _
  · split
    · exact .agrees _
    · refine (stores.blames_of_database .appl rfl (stores.appl.agrees_field ..)).bind
        fun role => ?_
      split <;> exact .agrees _

/-! Single fields are all that lookups read. -/

theorem exists_firstValueFrom (happl : stores.appl.accept .hget = .ok ()) {lookups : List Lookup}
    (hlookups : ∀ l ∈ lookups, ∀ db, stores.database? l.database = some db →
      db.accept .hget = .ok ()) (key : String) (known : Option Bool) :
    ∃ value, stores.firstValueFrom key known lookups = .ok value := by
  induction lookups generalizing known with
  | nil => exact ⟨none, rfl⟩
  | cons l rest ih =>
    have hrest := ih fun l' hl' => hlookups l' (by simp [hl'])
    have hmeets : ∃ met, stores.meets key known l.condition = .ok met := by
      cases l.condition with
      | always => exact ⟨_, rfl⟩
      | linkUp =>
        cases known with
        | some up => exact ⟨_, rfl⟩
        | none => exact ⟨_, by simp [meets, isUp, Database.field_eq happl]; rfl⟩
    have hvalue : ∃ value, stores.valueAt? key l = .ok value := by
      cases hdb : stores.database? l.database with
      | none => exact ⟨none, by simp [valueAt?, hdb]⟩
      | some db =>
        have hdb' := hlookups l (by simp) db hdb
        exact ⟨_, by simp [valueAt?, hdb, Database.field_eq hdb']; rfl⟩
    obtain ⟨⟨admitted, known'⟩, hmeets⟩ := hmeets
    obtain ⟨value, hvalue⟩ := hvalue
    rw [firstValueFrom, hmeets, ok_bind]
    cases admitted with
    | false => exact hrest known'
    | true =>
      simp only [Bool.not_true, Bool.false_eq_true, if_false, hvalue, ok_bind]
      cases value with
      | some value => exact ⟨some value, rfl⟩
      | none => exact hrest known'

theorem exists_optics (happl : stores.appl.accept .hget = .ok ())
    (hstate : stores.state.accept .hget = .ok ()) (copperPorts : List String) (port : String) :
    ∃ type, stores.optics copperPorts port = .ok type := by
  rw [optics, Database.field_eq hstate, ok_bind]
  split
  · exact ⟨_, rfl⟩
  · split
    · exact ⟨_, rfl⟩
    · rw [Database.field_eq happl, ok_bind]
      split <;> exact ⟨_, rfl⟩

end Stores

/-! ### Cells -/

namespace CellSource

/-- The cells as the databases give them with nothing refused. -/
def restored (r : CellSource) : CellSource := { r with stores := r.stores.restored }

@[simp] theorem catalog_restored (r : CellSource) : r.restored.catalog = r.catalog := rfl

variable (r : CellSource)

theorem agrees_show? (key value : String) (display : Display) :
    AgreesUnless r.stores.Blames (r.show? key value display) (r.restored.show? key value display) := by
  cases display with
  | verbatim => exact .agrees _
  | enabling => exact .agrees _
  | speed => exact (r.stores.agrees_optics r.copperPorts key).bind fun _ => .agrees _
  | speedList => exact (r.stores.agrees_optics r.copperPorts key).bind fun _ => .agrees _

theorem agrees_follow (rule : Rule) (key : String) :
    AgreesUnless r.stores.Blames (r.follow rule key) (r.restored.follow rule key) := by
  refine (r.stores.agrees_firstValue key rule.lookups).bind fun value => ?_
  cases value with
  | none => exact .agrees _
  | some value => exact (r.agrees_show? key value rule.display).bind fun _ => .agrees _

theorem agrees_read (o : Origin) :
    AgreesUnless r.stores.Blames (r.read o) (r.restored.read o) := by
  cases o with
  | text | lagSpeed => exact .agrees _
  | rule rule key => exact r.agrees_follow rule key
  | optics port => exact r.stores.agrees_optics r.copperPorts port

theorem agrees_cell (kind : InterfaceKind) (name : String) (a : Attribute) :
    AgreesUnless r.stores.Blames (r.cell kind name a) (r.restored.cell kind name a) := by
  rw [cell_eq, cell_eq, catalog_restored]
  exact r.agrees_read _

end CellSource

end InterfaceReport
