import InterfaceReport.Proofs.Store.Answers
import InterfaceReport.Proofs.Store.Writes
import InterfaceReport.Proofs.Text.Glob

/-! What a table lists after any writes: each entry under its key, once and in order, except that an
entry whose key begins with a star and goes on after it is stored without being listed. -/

namespace InterfaceReport

open Text

theorem DatabaseKind.fullKey_append (kind : DatabaseKind) (table key : String) :
    kind.fullKey table "" ++ key = kind.fullKey table key := by
  rw [fullKey, fullKey, String.append_empty]

namespace Database

variable {db : Database} {table key : String}

/-- Keys are listed in the order of their full keys. -/
theorem pairwise_entryKeys (db : Database) (table : String) :
    (db.answers.entryKeys db.kind table).Pairwise fun k k' =>
      compare (db.kind.fullKey table k) (db.kind.fullKey table k') = .lt := by
  apply List.Pairwise.filterMap _ _ (db.hashes.ordered_keys.filter _)
  intro full full' hlt k hk k' hk'
  rw [after?_eq_some_iff, db.kind.fullKey_append] at hk hk'
  rw [← hk, ← hk']
  exact hlt

/-- A key is listed where its full key is stored and fits the pattern of the table. -/
theorem mem_entryKeys :
    key ∈ db.answers.entryKeys db.kind table ↔
      db.kind.fullKey table key ∈ db.hashes ∧ ¬ Glob.Starred key.toList := by
  rw [Answers.entryKeys, List.mem_filterMap]
  constructor
  · rintro ⟨full, hfull, hkey⟩
    rw [after?_eq_some_iff] at hkey
    subst hkey
    obtain ⟨hstored, hfits⟩ := List.mem_filter.1 hfull
    rw [db.kind.fullKey_append, Std.TreeMap.mem_keys] at hstored
    exact ⟨hstored, Glob.fits_stem_star.1 hfits⟩
  · rintro ⟨hstored, hkey⟩
    refine ⟨db.kind.fullKey table "" ++ key, ?_, after?_eq_some_iff.2 rfl⟩
    apply List.mem_filter.2
    refine ⟨?_, Glob.fits_stem_star.2 hkey⟩
    rw [db.kind.fullKey_append, Std.TreeMap.mem_keys]
    exact hstored

/-- After any writes to a database, a table lists the keys of its entries once each and in the order
of the full keys, and holds under each the fields of its entry. A key that begins with a star and
goes on after it is the exception: its entry is stored and not listed. -/
theorem table_lists_unstarred (kind : DatabaseKind) (writes : List Write) (table : String) :
    let db := (empty kind).write writes
    ∃ keys entries, db.entryKeys table = .ok keys ∧ db.entries table = .ok entries ∧
      keys.Pairwise (fun k k' =>
        compare (kind.fullKey table k) (kind.fullKey table k') = .lt) ∧
      (∀ key, kind.fullKey table key ∈ db.hashes ↔
        ∃ w ∈ writes, kind.fullKey table key = w.fullKey kind) ∧
      (∀ key, key ∈ keys ↔
        kind.fullKey table key ∈ db.hashes ∧ ¬ Glob.Starred key.toList) ∧
      (∀ key, key ∈ entries ↔ key ∈ keys) ∧
      (∀ key ∈ keys, ∃ record, db.entry table key = .ok record ∧ entries[key]? = some record) ∧
      ∀ key fields, ∃ keys', (db.putEntry table key fields).entryKeys table = .ok keys' ∧
        (key ∈ keys' ↔ ¬ Glob.Starred key.toList) := by
  intro db
  have available : db.outage = none := outage_write _ writes
  have hkind : db.kind = kind := kind_write _ writes
  have hwritten : ∀ key, key ∈ db.hashes ↔ ∃ w ∈ writes, key = w.fullKey kind := by
    intro key
    rw [mem_hashes_write]
    exact or_iff_right Std.TreeMap.not_mem_emptyc
  clear_value db
  subst hkind
  refine ⟨_, _, entryKeys_eq available table, entries_eq available table, ?_, ?_, ?_, ?_, ?_, ?_⟩
  · exact pairwise_entryKeys db table
  · intro key
    exact hwritten _
  · intro key
    exact mem_entryKeys
  · intro key
    exact Answers.mem_entries
  · intro key hkey
    have hnodup := nodup_answers available table
    exact ⟨_, entry_eq available table key, Answers.getElem?_entries hnodup hkey⟩
  · intro key fields
    have hframe : Frame (fun _ => True) db (db.putEntry table key fields) :=
      frame_apply (w := .entry table key fields) trivial
    have hstored : db.kind.fullKey table key ∈ (db.putEntry table key fields).hashes :=
      (mem_hashes_apply (w := .entry table key fields)).2 (.inl rfl)
    refine ⟨_, entryKeys_eq (hframe.outage.trans available) table, ?_⟩
    rw [mem_entryKeys, hframe.kind]
    exact and_iff_right hstored

theorem table_lists_unstarred_of_wildcards :
    let db := (empty .config).write
      [.field "PORT*|*?" "mtu" "9100", .entry "PORT*" "?*" [("mtu", "1500")]]
    ∃ entries, db.entries "PORT*" = .ok entries ∧
      entries["?*"]? = some [("mtu", "1500")] ∧ "*?" ∉ entries := by
  intro db
  obtain ⟨keys, entries, -, hentries, -, hstored, hkeys, hmem, hrecords, -⟩ :=
    table_lists_unstarred .config
      [.field "PORT*|*?" "mtu" "9100", .entry "PORT*" "?*" [("mtu", "1500")]] "PORT*"
  refine ⟨entries, hentries, ?_, ?_⟩
  · have hlisted : "?*" ∈ keys := by
      rw [hkeys, hstored]
      refine ⟨⟨.entry "PORT*" "?*" [("mtu", "1500")], by simp, rfl⟩, ?_⟩
      rintro ⟨c, rest, h⟩
      simp at h
    obtain ⟨record, hrecord, hat⟩ := hrecords "?*" hlisted
    have hfields : db.entry "PORT*" "?*" = .ok [("mtu", "1500")] := by cbv
    rw [hfields] at hrecord
    cases hrecord
    exact hat
  · rw [hmem, hkeys]
    rintro ⟨-, hunstarred⟩
    exact hunstarred ⟨'?', [], by simp⟩

/-- A port named with a star is stored, and the table of ports does not list it. -/
theorem entryKeys_omits_starred :
    "PORT|*a" ∈ ((empty .config).putEntry "PORT" "*a" []).hashes ∧
      ((empty .config).putEntry "PORT" "*a" []).entryKeys "PORT" = .ok [] := by
  have hkeys : ((empty .config).putEntry "PORT" "*a" []).hashes.keys = ["PORT|*a"] := by decide
  constructor
  · decide
  · rw [entryKeys, keys, hkeys]
    cbv

end Database
end InterfaceReport
