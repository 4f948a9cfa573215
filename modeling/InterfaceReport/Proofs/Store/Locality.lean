import InterfaceReport.Proofs.Store.Tables

/-! What is told of one port: the full keys under which the daemons and the hardware keep it, and
what writes to these keys leave alone. Names of tables hold no separator, so a full key of one port
is none of another port and none of another table. -/

namespace InterfaceReport

/-- A name that holds no separator: in a full key it ends where the key begins. -/
def IsTableName (table : String) : Prop := '|' ∉ table.toList ∧ ':' ∉ table.toList

instance (table : String) : Decidable (IsTableName table) :=
  inferInstanceAs (Decidable ('|' ∉ table.toList ∧ ':' ∉ table.toList))

namespace DatabaseKind

/-- The tables in which the daemons and the hardware tell of ports. -/
def portTables : DatabaseKind → List String
  | .appl => [Schema.portStatus]
  | .state => [Schema.portState, Schema.transceiver]
  | .config | .counters => []

theorem isTableName_of_mem_portTables {kind : DatabaseKind} {table : String}
    (h : table ∈ kind.portTables) : IsTableName table := by
  have hnames : ∀ table ∈ kind.portTables, IsTableName table := by
    cases kind <;> decide
  exact hnames table h

theorem isTableName_portStatus : IsTableName Schema.portStatus := by decide

theorem toList_fullKey (kind : DatabaseKind) (table key : String) :
    (kind.fullKey table key).toList = table.toList ++ kind.separator :: key.toList := by
  rw [fullKey, String.toList_append, String.toList_append, List.append_assoc]
  cases kind <;> rfl

/-- Where no separator is in the name of the table, the first one of a full key ends it. -/
theorem cut?_eq_some_iff {kind : DatabaseKind} {full table key : String}
    (htable : kind.separator ∉ table.toList) :
    Text.cut? kind.separator full = some (table, key) ↔ full = kind.fullKey table key := by
  rw [Text.cut?_eq_some_iff, and_iff_left htable, ← toList_fullKey, String.toList_inj]

theorem cut?_fullKey {kind : DatabaseKind} {table : String} (htable : kind.separator ∉ table.toList)
    (key : String) : Text.cut? kind.separator (kind.fullKey table key) = some (table, key) :=
  (cut?_eq_some_iff htable).2 rfl

theorem separator_not_mem (kind : DatabaseKind) {table : String} (h : IsTableName table) :
    kind.separator ∉ table.toList := by
  cases kind with
  | config | state => exact h.1
  | appl | counters => exact h.2

theorem fullKey_inj {kind : DatabaseKind} {table table' key key' : String}
    (htable : IsTableName table) (htable' : IsTableName table') :
    kind.fullKey table key = kind.fullKey table' key' ↔ table = table' ∧ key = key' := by
  rw [← cut?_eq_some_iff (kind.separator_not_mem htable'),
    cut?_fullKey (kind.separator_not_mem htable), Option.some.injEq, Prod.mk.injEq]

end DatabaseKind

namespace Database

/-- `full` is a full key under which one of `tables` has the entry of `port`. -/
def TellsOf (db : Database) (tables : List String) (port full : String) : Prop :=
  ∃ table ∈ tables, full = db.kind.fullKey table port

/-- A full key of another port, or of another table, tells nothing of the port. -/
theorem not_tellsOf {db : Database} {kind : DatabaseKind} {table key port : String}
    (hname : IsTableName table) (hapart : key ≠ port ∨ table ∉ kind.portTables) :
    ¬ db.TellsOf kind.portTables port (db.kind.fullKey table key) := by
  rintro ⟨table', htable', heq⟩
  have hname' := DatabaseKind.isTableName_of_mem_portTables htable'
  obtain ⟨rfl, rfl⟩ := (DatabaseKind.fullKey_inj hname hname').1 heq
  rcases hapart with hkey | htable
  · exact hkey rfl
  · exact htable htable'

theorem not_tellsOf_portStatus {db : Database} {kind : DatabaseKind} {key port : String}
    (hkey : key ≠ port) :
    ¬ db.TellsOf kind.portTables port (db.kind.fullKey Schema.portStatus key) :=
  not_tellsOf DatabaseKind.isTableName_portStatus (.inl hkey)

end Database

namespace Stores

theorem database?_eq_none_iff {stores : Stores} {kind : DatabaseKind} :
    stores.database? kind = none ↔ kind = .counters := by
  cases kind <;> simp [database?]

/-- `after` holds what `before` does but for what is told of `port`. -/
structure SameBut (port : String) (before after : Stores) : Prop where
  config : after.config = before.config
  appl : Database.Frame (before.appl.TellsOf DatabaseKind.appl.portTables port)
    before.appl after.appl
  state : Database.Frame (before.state.TellsOf DatabaseKind.state.portTables port)
    before.state after.state

variable {port : String} {before after : Stores}

/-- Writes to what is told of a port leave the rest alone. -/
theorem sameBut_write {stores : Stores} {applWrites stateWrites : List Write}
    (happl : ∀ w ∈ applWrites,
      stores.appl.TellsOf DatabaseKind.appl.portTables port (w.fullKey stores.appl.kind))
    (hstate : ∀ w ∈ stateWrites,
      stores.state.TellsOf DatabaseKind.state.portTables port (w.fullKey stores.state.kind)) :
    stores.SameBut port
      ⟨stores.config, stores.appl.write applWrites, stores.state.write stateWrites⟩ :=
  ⟨rfl, Database.frame_write happl, Database.frame_write hstate⟩

namespace SameBut

variable (h : before.SameBut port after)
include h

theorem frame {kind : DatabaseKind} {db : Database} (hdb : before.database? kind = some db) :
    ∃ db', after.database? kind = some db' ∧
      Database.Frame (db.TellsOf kind.portTables port) db db' := by
  cases kind <;> cases hdb
  · refine ⟨after.config, rfl, ?_⟩
    rw [h.config]
    exact Database.Frame.refl _
  · exact ⟨after.appl, rfl, h.appl⟩
  · exact ⟨after.state, rfl, h.state⟩

theorem available (havailable : before.Available) : after.Available where
  config := (congrArg Database.outage h.config).trans havailable.config
  appl := h.appl.outage.trans havailable.appl
  state := h.state.outage.trans havailable.state

theorem mem_entryKeys {name : String} (hname : name ≠ port) :
    name ∈ after.appl.answers.entryKeys after.appl.kind Schema.portStatus ↔
      name ∈ before.appl.answers.entryKeys before.appl.kind Schema.portStatus := by
  rw [Database.mem_entryKeys, Database.mem_entryKeys, h.appl.kind,
    h.appl.stored _ (Database.not_tellsOf_portStatus hname)]

end SameBut

end Stores

end InterfaceReport
