import InterfaceReport.Proofs.Store.Locality
import InterfaceReport.Proofs.Store.Outage
import InterfaceReport.Watermark

/-! The flat keys of a database keep its tables apart. What a database goes through is told by a
history: the writes in order, the messages taken, and whether commands are answered. Each event
keeps a database in step with its history, so a field of an entry reads as the last value written
to it, whatever else was written and whenever the database was gone. -/

namespace InterfaceReport

open Steps

namespace Write

/-- The table and the key that a write goes to. A full key without a separator is of no table. -/
def target? (kind : DatabaseKind) : Write → Option (String × String)
  | .field full _ _ => Text.cut? kind.separator full
  | .entry table key _ => some (table, key)

/-- No separator is in the name of the table. -/
def Named (kind : DatabaseKind) : Write → Prop
  | .field .. => True
  | .entry table _ _ => kind.separator ∉ table.toList

variable {kind : DatabaseKind} {w : Write} {table key : String}

theorem target?_eq_some_iff (hw : w.Named kind) (htable : kind.separator ∉ table.toList) :
    w.target? kind = some (table, key) ↔ kind.fullKey table key = w.fullKey kind := by
  cases w with
  | field full name value =>
    rw [eq_comm (a := kind.fullKey table key)]
    exact DatabaseKind.cut?_eq_some_iff htable
  | entry table' key' fields =>
    rw [Write.fullKey, eq_comm (a := kind.fullKey table key),
      ← DatabaseKind.cut?_eq_some_iff htable, DatabaseKind.cut?_fullKey hw, target?]

end Write

/-! ### Events and histories -/

inductive Read where
  | hget (key field : String)
  | hgetall (key : String)
  | keys (pattern : String)
  | field (table key field : String)
  | entry (table key : String)
  | entryKeys (table : String)
  | entries (table : String)

/-- What happens to a database. -/
inductive Event where
  | write (w : Write)
  | read (r : Read)
  | publish (message : Message)
  | clear (watermark : Watermark)
  | setAvailable (available : Bool)

/-- Only entries of named tables are written. -/
def Event.Named (kind : DatabaseKind) : Event → Prop
  | .write w => w.Named kind
  | _ => True

/-- What has been written to a database, what it has published, and whether it answers. -/
structure History where
  writes : List Write
  published : List Message
  available : Bool

namespace History

/-- An event is added. Writes count also where the database does not answer; messages do not. -/
def add (h : History) : Event → History
  | .write w => { h with writes := h.writes ++ [w] }
  | .read _ => h
  | .publish message => if h.available then { h with published := h.published ++ [message] } else h
  | .clear w => if h.available then { h with published := h.published ++ [w.request] } else h
  | .setAvailable available => { h with available }

def ofEvents (events : List Event) : History := events.foldl add ⟨[], [], true⟩

/-- The value last written to a field of an entry. -/
def lastWritten? (h : History) (kind : DatabaseKind) (table key field : String) : Option String :=
  ((h.writes.filter (·.target? kind = some (table, key))).flatMap Write.fields).reverse.lookup field

theorem lastWritten?_add (h : History) (kind : DatabaseKind) (w : Write)
    (table key field : String) :
    (h.add (.write w)).lastWritten? kind table key field =
      if w.target? kind = some (table, key) then
        (w.fields.reverse.lookup field).or (h.lastWritten? kind table key field)
      else h.lastWritten? kind table key field := by
  rw [add, lastWritten?, lastWritten?, List.filter_append, List.flatMap_append]
  by_cases htarget : w.target? kind = some (table, key)
  · simp [htarget, List.lookup_append]
  · simp [htarget]

end History

namespace Database

inductive Answer where
  | done
  | value (value : Option String)
  | record (fields : Record)
  | keys (keys : List String)
  | entries (entries : List (String × Record))

def answer (db : Database) : Read → Except StoreError Answer
  | .hget key field => (db.hget key field).map .value
  | .hgetall key => (db.hgetall key).map .record
  | .keys pattern => (db.keys pattern).map .keys
  | .field table key field => (db.field table key field).map .value
  | .entry table key => (db.entry table key).map .record
  | .entryKeys table => (db.entryKeys table).map .keys
  | .entries table => (db.entries table).map fun entries => .entries entries.toList

/-- The answer to an event, and the database after it. -/
def perform (db : Database) : Event → Except StoreError (Answer × Database)
  | .write w => .ok (.done, w.apply db)
  | .read r => (db.answer r).map (·, db)
  | .publish message => (db.publish message).map (.done, ·)
  | .clear w => (w.clear db).map (.done, ·)
  | .setAvailable available => .ok (.done, db.setAvailable available)

/-- The database after an event; one that fails leaves it as it is. -/
def after (db : Database) (event : Event) : Database :=
  match db.perform event with
  | .ok (_, db') => db'
  | .error _ => db

def run (db : Database) (events : List Event) : Database := events.foldl after db

/-! ### In step with a history -/

variable {kind : DatabaseKind} {db : Database} {h : History}

/-- The database holds, answers and has published what the history tells. -/
structure Tells (kind : DatabaseKind) (db : Database) (h : History) : Prop where
  kind_eq : db.kind = kind
  outage : db.outage = if h.available then none else some Outage.total
  published : db.published = h.published
  value : ∀ table key field, kind.separator ∉ table.toList →
    (db.hash (kind.fullKey table key))[field]? = h.lastWritten? kind table key field

theorem tells_empty (kind : DatabaseKind) : Tells kind (empty kind) (History.ofEvents []) :=
  ⟨rfl, rfl, rfl, fun _ _ _ _ => rfl⟩

theorem accept_of_total (houtage : db.outage = some Outage.total) (command : Command) :
    ∃ e, db.accept command = .error e := by
  refine ⟨.command db.kind.name command.name Outage.total.reason, ?_⟩
  rw [accept, houtage]
  cases command <;> rfl

namespace Tells

variable (ht : Tells kind db h)
include ht

theorem write {w : Write} (hw : w.Named kind) : Tells kind (w.apply db) (h.add (.write w)) := by
  have hframe : Frame (fun _ => True) db (w.apply db) := frame_apply trivial
  refine ⟨hframe.kind.trans ht.kind_eq, hframe.outage.trans ht.outage,
    hframe.published.trans ht.published, ?_⟩
  intro table key field htable
  simp only [getElem?_hash_apply, History.lastWritten?_add, ht.kind_eq,
    Write.target?_eq_some_iff hw htable, ht.value table key field htable]

theorem read (r : Read) : Tells kind (db.after (.read r)) (h.add (.read r)) := by
  have hafter : db.after (.read r) = db := by
    rw [Database.after, perform]
    cases db.answer r <;> rfl
  rwa [hafter]

/-- A message is taken while the database answers, and is lost while it does not. -/
theorem publish (message : Message) :
    Tells kind (db.after (.publish message)) (h.add (.publish message)) := by
  have houtage := ht.outage
  rw [Database.after, perform, Database.publish, History.add]
  cases havailable : h.available with
  | true =>
    rw [havailable, if_pos rfl] at houtage
    rw [accept_of_available houtage, if_pos rfl]
    exact ⟨ht.kind_eq, houtage, congrArg (· ++ [message]) ht.published, ht.value⟩
  | false =>
    rw [havailable, if_neg Bool.false_ne_true] at houtage
    obtain ⟨e, he⟩ := accept_of_total houtage .publish
    rw [he, if_neg Bool.false_ne_true]
    exact ht

theorem setAvailable (available : Bool) :
    Tells kind (db.setAvailable available) (h.add (.setAvailable available)) :=
  ⟨ht.kind_eq, rfl, ht.published, ht.value⟩

theorem after {event : Event} (hevent : event.Named kind) :
    Tells kind (db.after event) (h.add event) := by
  cases event with
  | write w => exact ht.write hevent
  | read r => exact ht.read r
  | publish message => exact ht.publish message
  | clear w => exact ht.publish w.request
  | setAvailable available => exact ht.setAvailable available

theorem run {events : List Event} (hevents : ∀ event ∈ events, event.Named kind) :
    Tells kind (db.run events) (events.foldl History.add h) := by
  induction events generalizing db h with
  | nil => exact ht
  | cons event rest ih =>
    rw [List.forall_mem_cons] at hevents
    exact ih (ht.after hevents.1) hevents.2

/-! ### What is read -/

theorem outage_eq_none (havailable : h.available = true) : db.outage = none := by
  rw [ht.outage, havailable, if_pos rfl]

theorem field (havailable : h.available = true) {table : String}
    (htable : kind.separator ∉ table.toList) (key field : String) :
    db.field table key field = .ok (h.lastWritten? kind table key field) := by
  have haccept := accept_of_available (ht.outage_eq_none havailable) .hget
  rw [field_eq haccept, ht.kind_eq, ht.value table key field htable]

/-- An entry is read as its fields in order, each with the value last written. -/
theorem entry (havailable : h.available = true) {table : String}
    (htable : kind.separator ∉ table.toList) (key : String) :
    ∃ record, db.entry table key = .ok record ∧
      record.Pairwise (fun a b => compare a.1 b.1 = .lt) ∧
      ∀ field value, (field, value) ∈ record ↔
        h.lastWritten? kind table key field = some value := by
  refine ⟨_, entry_eq (ht.outage_eq_none havailable) table key,
    Std.TreeMap.ordered_keys_toList, ?_⟩
  intro field value
  rw [← ht.value table key field htable, ← ht.kind_eq]
  exact Std.TreeMap.mem_toList_iff_getElem?_eq_some

/-- A write to another entry changes nothing that is read of this one. -/
theorem apart {w : Write} (hw : w.Named kind) {table key : String}
    (htable : kind.separator ∉ table.toList) (hne : w.target? kind ≠ some (table, key)) :
    (∀ field, (w.apply db).field table key field = db.field table key field) ∧
      (w.apply db).entry table key = db.entry table key := by
  have hframe : Frame (· = w.fullKey db.kind) db (w.apply db) := frame_apply rfl
  have hkey : db.kind.fullKey table key ≠ w.fullKey db.kind := by
    rw [ht.kind_eq]
    exact fun heq => hne ((Write.target?_eq_some_iff hw htable).2 heq)
  exact ⟨hframe.field hkey, hframe.entry hkey⟩

end Tells

/-- After any events a database reads as separate tables. While it answers, a field of an entry is
the value last written to it, under whatever table and key the write named its full key, and an
entry is all of its fields, each once and in order. Writes to other entries change none of this.
What has been published is what was asked for while the database answered, and an event that fails
changes neither. -/
theorem run_keeps_tables_apart (kind : DatabaseKind) (events : List Event)
    (named : ∀ event ∈ events, event.Named kind) :
    let db := (empty kind).run events
    let h := History.ofEvents events
    (h.available = true → ∀ table key, kind.separator ∉ table.toList →
      (∀ field, db.field table key field = .ok (h.lastWritten? kind table key field)) ∧
      ∃ record, db.entry table key = .ok record ∧
        record.Pairwise (fun a b => compare a.1 b.1 = .lt) ∧
        ∀ field value, (field, value) ∈ record ↔
          h.lastWritten? kind table key field = some value) ∧
    (∀ w : Write, w.Named kind → ∀ table key, kind.separator ∉ table.toList →
      w.target? kind ≠ some (table, key) →
      (∀ field, (w.apply db).field table key field = db.field table key field) ∧
        (w.apply db).entry table key = db.entry table key) ∧
    db.published = h.published ∧
    ∀ event e, db.perform event = .error e →
      (db.after event).hashes = db.hashes ∧ (db.after event).published = db.published := by
  intro db h
  have ht : Tells kind db h := (tells_empty kind).run named
  refine ⟨?_, ?_, ht.published, ?_⟩
  · intro havailable table key htable
    exact ⟨ht.field havailable htable key, ht.entry havailable htable key⟩
  · intro w hw table key htable hne
    exact ht.apart hw htable hne
  · intro event e he
    rw [Database.after, he]
    exact ⟨rfl, rfl⟩

/-- A port is written twice, the second time under its full key while the configuration is gone,
and then an entry of a table whose name begins in the same way. -/
def interrupted : List Event :=
  [.write (.entry "PORT" "a|b" [("mtu", "1500"), ("mtu", "9000")]), .setAvailable false,
    .write (.field "PORT|a|b" "mtu" "9100"), .publish ⟨"clear", "lost"⟩, .setAvailable true,
    .clear ⟨.bufferPool, false⟩, .write (.entry "PORTCHANNEL" "a|b" [])]

theorem run_keeps_tables_apart_interrupted :
    let db := (empty .config).run interrupted
    (∀ event ∈ interrupted, event.Named .config) ∧
      db.field "PORT" "a|b" "mtu" = .ok (some "9100") ∧
      db.field "PORTCHANNEL" "a|b" "NULL" = .ok (some "NULL") ∧
      db.published = [Watermark.request ⟨.bufferPool, false⟩] := by
  intro db
  have named : ∀ event ∈ interrupted, event.Named .config := by
    simp [interrupted, Event.Named, Write.Named, DatabaseKind.separator]
  obtain ⟨hreads, -, hpublished, -⟩ := run_keeps_tables_apart .config interrupted named
  refine ⟨named, ?_, ?_, ?_⟩
  · rw [(hreads rfl "PORT" "a|b" (by decide)).1]
    decide
  · rw [(hreads rfl "PORTCHANNEL" "a|b" (by decide)).1]
    decide
  · rw [hpublished]
    rfl

end Database
end InterfaceReport
