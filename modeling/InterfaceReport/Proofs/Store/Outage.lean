import InterfaceReport.Catalog.Basic
import InterfaceReport.Proofs.Steps

/-! Reading databases that refuse commands: what is read is what the databases hold, or the reading
fails and names a database that refuses commands. -/

namespace InterfaceReport

open Steps

/-! ### One database -/

namespace Database

/-- Where single fields may be read, a field is what its hash holds. -/
theorem field_eq {db : Database} (h : db.accept .hget = .ok ()) (table key field : String) :
    db.field table key field = .ok (db.hash (db.kind.fullKey table key))[field]? := by
  rw [Database.field, hget, h]
  rfl

theorem accept_of_field {db : Database} {table key field : String} {value : Option String}
    (h : db.field table key field = .ok value) : db.accept .hget = .ok () := by
  obtain ⟨_, haccept, -⟩ := bind_eq_ok_iff.1 h
  exact haccept

/-- The database with nothing refused. -/
def restored (db : Database) : Database := { db with outage := none }

/-- A failure that is due to the commands that `db` refuses. -/
def Blames (db : Database) (e : StoreError) : Prop :=
  db.outage ≠ none ∧ e.database = db.kind.name

@[simp] theorem accept_restored (db : Database) (command : Command) :
    db.restored.accept command = .ok () := rfl

theorem agrees_accept (db : Database) (command : Command) :
    AgreesUnless db.Blames (db.accept command) (db.restored.accept command) := by
  rw [accept_restored]
  cases houtage : db.outage with
  | none =>
    rw [accept, houtage]
    exact .agrees ()
  | some outage =>
    simp only [accept, houtage]
    split
    · exact .fails () ⟨by simp [houtage], rfl⟩
    · exact .agrees ()

theorem agrees_field (db : Database) (table key field : String) :
    AgreesUnless db.Blames (db.field table key field) (db.restored.field table key field) :=
  (db.agrees_accept .hget).bind fun _ => .agrees _

theorem agrees_entry (db : Database) (table key : String) :
    AgreesUnless db.Blames (db.entry table key) (db.restored.entry table key) :=
  (db.agrees_accept .hgetall).bind fun _ => .agrees _

theorem agrees_entryKeys (db : Database) (table : String) :
    AgreesUnless db.Blames (db.entryKeys table) (db.restored.entryKeys table) :=
  ((db.agrees_accept .keys).bind fun _ => .agrees _).bind fun _ => .agrees _

theorem agrees_entries (db : Database) (table : String) :
    AgreesUnless db.Blames (db.entries table) (db.restored.entries table) :=
  (db.agrees_entryKeys table).bind fun keys =>
    (AgreesUnless.mapM keys fun key _ =>
      (db.agrees_entry table key).bind fun _ => .agrees _).bind fun _ => .agrees _

end Database

theorem Tables.agrees_read (config : Database) :
    AgreesUnless config.Blames (Tables.read config) (Tables.read config.restored) :=
  (config.agrees_entries _).bind fun _ => (config.agrees_entries _).bind fun _ =>
    (config.agrees_entryKeys _).bind fun _ => (config.agrees_entryKeys _).bind fun _ =>
      (config.agrees_entryKeys _).bind fun _ => .agrees _

/-! ### The databases of a namespace -/

namespace Stores

/-- The databases with nothing refused. -/
def restored (stores : Stores) : Stores :=
  ⟨stores.config.restored, stores.appl.restored, stores.state.restored⟩

/-- A failure that is due to the commands that one of the databases refuses. -/
def Blames (stores : Stores) (e : StoreError) : Prop :=
  ∃ kind db, stores.database? kind = some db ∧ db.Blames e

variable (stores : Stores)

@[simp] theorem database?_restored (kind : DatabaseKind) :
    stores.restored.database? kind = (stores.database? kind).map Database.restored := by
  cases kind <;> rfl

theorem restored_of_available {stores : Stores} (available : stores.Available) :
    stores.restored = stores := by
  have hrestored : ∀ {db : Database}, db.outage = none → db.restored = db := by
    intro db hdb
    rw [Database.restored, ← hdb]
  rw [restored, hrestored available.config, hrestored available.appl, hrestored available.state]

theorem blames_of_database {α : Type} (kind : DatabaseKind) {db : Database}
    (hdb : stores.database? kind = some db) {x y : Except StoreError α}
    (h : AgreesUnless db.Blames x y) : AgreesUnless stores.Blames x y := by
  cases h with
  | agrees a => exact .agrees a
  | fails a he => exact .fails a ⟨kind, db, hdb, he⟩

end Stores

end InterfaceReport
