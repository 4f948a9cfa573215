import InterfaceReport.Store.Database

/-! Writes to a database. A write goes to one full key: it stores that key and leaves alone what is
held under every other one. -/

namespace InterfaceReport

/-- A write to a database. -/
inductive Write where
  /-- Sets one field under a full key. -/
  | field (key field value : String)
  /-- Sets fields of an entry of a table. -/
  | entry (table key : String) (fields : Record)

namespace Write

/-- The full key that a write goes to. -/
def fullKey (kind : DatabaseKind) : Write → String
  | .field key _ _ => key
  | .entry table key _ => kind.fullKey table key

/-- The fields that a write sets, in order. -/
def fields : Write → Record
  | .field _ name value => [(name, value)]
  | .entry _ _ fields => if fields.isEmpty then [("NULL", "NULL")] else fields

def apply (db : Database) : Write → Database
  | .field key name value => db.setField key name value
  | .entry table key fields => db.putEntry table key fields

end Write

namespace Database

def write (db : Database) (writes : List Write) : Database := writes.foldl Write.apply db

theorem mem_hashes_setField {db : Database} {key field value k : String} :
    k ∈ (db.setField key field value).hashes ↔ k = key ∨ k ∈ db.hashes := by
  rw [setField, Std.TreeMap.mem_insert, Std.LawfulEqCmp.compare_eq_iff_eq, eq_comm]

/-! ### What a write leaves alone -/

/-- `after` is `before` but for what is held under the full keys that `touched` admits. -/
structure Frame (touched : String → Prop) (before after : Database) : Prop where
  kind : after.kind = before.kind
  outage : after.outage = before.outage
  published : after.published = before.published
  hash : ∀ key, ¬ touched key → after.hash key = before.hash key
  stored : ∀ key, ¬ touched key → (key ∈ after.hashes ↔ key ∈ before.hashes)

variable {touched : String → Prop} {db : Database}

theorem Frame.refl (db : Database) : Frame touched db db :=
  ⟨rfl, rfl, rfl, fun _ _ => rfl, fun _ _ => Iff.rfl⟩

theorem Frame.trans {db₁ db₂ db₃ : Database} (h₁ : Frame touched db₁ db₂)
    (h₂ : Frame touched db₂ db₃) : Frame touched db₁ db₃ :=
  ⟨h₂.kind.trans h₁.kind, h₂.outage.trans h₁.outage, h₂.published.trans h₁.published,
    fun key hkey => (h₂.hash key hkey).trans (h₁.hash key hkey),
    fun key hkey => (h₂.stored key hkey).trans (h₁.stored key hkey)⟩

theorem Frame.accept {before after : Database} (h : Frame touched before after)
    (command : Command) : after.accept command = before.accept command := by
  rw [Database.accept, Database.accept, h.outage, h.kind]

theorem Frame.field {before after : Database} (h : Frame touched before after)
    {table key : String} (hkey : ¬ touched (before.kind.fullKey table key)) (field : String) :
    after.field table key field = before.field table key field := by
  rw [Database.field, Database.field, hget, hget, h.accept, h.kind, h.hash _ hkey]

theorem Frame.entry {before after : Database} (h : Frame touched before after)
    {table key : String} (hkey : ¬ touched (before.kind.fullKey table key)) :
    after.entry table key = before.entry table key := by
  rw [Database.entry, Database.entry, hgetall, hgetall, h.accept, h.kind, h.hash _ hkey]

theorem frame_setField {key : String} (hkey : touched key) (field value : String) :
    Frame touched db (db.setField key field value) := by
  have hne : ∀ k, ¬ touched k → k ≠ key := by
    rintro k hk rfl
    exact hk hkey
  refine ⟨rfl, rfl, rfl, ?_, ?_⟩
  · intro k hk
    rw [hash_setField, if_neg (hne k hk)]
  · intro k hk
    rw [mem_hashes_setField, or_iff_right (hne k hk)]

/-- The fields of an entry are set one after the other, all under one full key. -/
theorem frame_foldl_setField {key : String} (hkey : touched key) (fields : Record)
    (db : Database) :
    Frame touched db (fields.foldl (fun db (field, value) => db.setField key field value) db) := by
  induction fields generalizing db with
  | nil => exact Frame.refl db
  | cons entry rest ih =>
    rw [List.foldl_cons]
    exact (frame_setField hkey entry.1 entry.2).trans (ih _)

theorem frame_apply {w : Write} (hw : touched (w.fullKey db.kind)) :
    Frame touched db (w.apply db) := by
  cases w with
  | field key field value => exact frame_setField hw field value
  | entry table key fields => exact frame_foldl_setField hw _ db

theorem frame_write {writes : List Write} (h : ∀ w ∈ writes, touched (w.fullKey db.kind)) :
    Frame touched db (db.write writes) := by
  induction writes generalizing db with
  | nil => exact Frame.refl db
  | cons w rest ih =>
    rw [List.forall_mem_cons] at h
    have hfirst : Frame touched db (w.apply db) := frame_apply h.1
    refine hfirst.trans (ih ?_)
    rw [hfirst.kind]
    exact h.2

theorem kind_apply (db : Database) (w : Write) : (w.apply db).kind = db.kind := by
  have hframe : Frame (fun _ => True) db (w.apply db) := frame_apply trivial
  exact hframe.kind

theorem outage_write (db : Database) (writes : List Write) :
    (db.write writes).outage = db.outage := by
  have hframe : Frame (fun _ => True) db (db.write writes) := frame_write fun _ _ => trivial
  exact hframe.outage

theorem kind_write (db : Database) (writes : List Write) : (db.write writes).kind = db.kind := by
  have hframe : Frame (fun _ => True) db (db.write writes) := frame_write fun _ _ => trivial
  exact hframe.kind

/-! ### What a write stores -/

/-- Of the values set for a field the last one stays. -/
theorem getElem?_hash_foldl_setField (full : String) (fields : Record) (db : Database)
    (k field : String) :
    ((fields.foldl (fun db (field, value) => db.setField full field value) db).hash k)[field]? =
      if k = full then (fields.reverse.lookup field).or (db.hash k)[field]?
      else (db.hash k)[field]? := by
  induction fields generalizing db with
  | nil => simp
  | cons entry rest ih =>
    obtain ⟨name, value⟩ := entry
    rw [List.foldl_cons, ih, hash_setField]
    by_cases hk : k = full
    · rw [if_pos hk, if_pos hk, if_pos hk, List.reverse_cons, List.lookup_append, Option.or_assoc,
        Std.TreeMap.getElem?_insert, ← hk]
      congr 1
      by_cases hname : field = name
      · simp [hname]
      · simp [hname, Ne.symm hname]
    · rw [if_neg hk, if_neg hk, if_neg hk]

theorem getElem?_hash_apply (w : Write) (k field : String) :
    ((w.apply db).hash k)[field]? =
      if k = w.fullKey db.kind then (w.fields.reverse.lookup field).or (db.hash k)[field]?
      else (db.hash k)[field]? := by
  cases w with
  | field full name value => exact getElem?_hash_foldl_setField full [(name, value)] db k field
  | entry table key fields => exact getElem?_hash_foldl_setField _ _ db k field

theorem mem_hashes_foldl_setField {key k : String} {fields : Record} (hfields : fields ≠ []) :
    k ∈ (fields.foldl (fun db (field, value) => db.setField key field value) db).hashes ↔
      k = key ∨ k ∈ db.hashes := by
  induction fields generalizing db with
  | nil => exact absurd rfl hfields
  | cons entry rest ih =>
    rw [List.foldl_cons]
    cases rest with
    | nil => exact mem_hashes_setField
    | cons next rest =>
      rw [ih (List.cons_ne_nil _ _), mem_hashes_setField]
      exact ⟨fun h => h.elim .inl id, .inr⟩

/-- An entry is stored also where it has no fields. -/
theorem mem_hashes_apply {w : Write} {k : String} :
    k ∈ (w.apply db).hashes ↔ k = w.fullKey db.kind ∨ k ∈ db.hashes := by
  cases w with
  | field key field value => exact mem_hashes_setField
  | entry table key fields =>
    apply mem_hashes_foldl_setField
    cases fields with
    | nil => exact List.cons_ne_nil _ _
    | cons entry rest => exact List.cons_ne_nil _ _

theorem mem_hashes_write {writes : List Write} {k : String} :
    k ∈ (db.write writes).hashes ↔ k ∈ db.hashes ∨ ∃ w ∈ writes, k = w.fullKey db.kind := by
  induction writes generalizing db with
  | nil => simp [write]
  | cons w rest ih =>
    rw [write, List.foldl_cons, ← write, ih, mem_hashes_apply, kind_apply]
    simp only [List.mem_cons, exists_eq_or_imp, or_assoc, or_left_comm]

end Database
end InterfaceReport
