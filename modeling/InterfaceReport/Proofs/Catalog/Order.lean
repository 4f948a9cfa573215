import InterfaceReport.Proofs.Store.Answers

/-! The catalog does not depend on the order in which its tables were enumerated: all that it tells of
interfaces comes from names put in natural order, from whether something is listed, or from fields
looked up by their names. -/

namespace InterfaceReport

open Std

/-- There is one listing of the names for which something holds. -/
theorem NaturalListing.unique {holds : String → Prop} {names names' : List String}
    (h : NaturalListing holds names) (h' : NaturalListing holds names') : names = names' := by
  have hperm : names.Perm names' := by
    apply (List.perm_ext_iff_of_nodup h.nodup h'.nodup).2
    intro name
    rw [h.mem_iff, h'.mem_iff]
  apply List.Perm.eq_of_pairwise _ h.increasing h'.increasing hperm
  intro a b _ _ hab hba
  have hswap : naturalCompare a b = (naturalCompare b a).swap := OrientedCmp.eq_swap
  rw [hswap, hba] at hab
  cases hab

/-! ### Tables in another order -/

theorem lookup_eq_some_iff_mem {fields : Record} (nodup : (fields.map Prod.fst).Nodup)
    {name value : String} : fields.lookup name = some value ↔ (name, value) ∈ fields := by
  induction fields with
  | nil => simp
  | cons entry rest ih =>
    obtain ⟨n, v⟩ := entry
    rw [List.map_cons, List.nodup_cons] at nodup
    by_cases hn : name = n
    · subst hn
      have hnot : (name, value) ∉ rest := fun hmem => nodup.1 (List.mem_map.2 ⟨_, hmem, rfl⟩)
      simp [hnot, eq_comm]
    · have hbeq : (name == n) = false := beq_eq_false_iff_ne.2 hn
      rw [List.lookup_cons, hbeq, List.mem_cons, Prod.mk.injEq]
      simpa [hn] using ih nodup.2

/-- Fields that are named once each are found in any order. -/
theorem lookup_eq_of_perm {fields fields' : Record} (h : fields.Perm fields')
    (nodup : (fields.map Prod.fst).Nodup) (name : String) :
    fields.lookup name = fields'.lookup name := by
  have nodup' : (fields'.map Prod.fst).Nodup := (h.map _).nodup_iff.1 nodup
  ext value
  rw [lookup_eq_some_iff_mem nodup, lookup_eq_some_iff_mem nodup']
  exact h.mem_iff

/-- The same names with the same fields, which may stand in another order and are named once
each. -/
structure EntriesReordered (es es' : TreeMap String Record) : Prop where
  names : ∀ name, name ∈ es ↔ name ∈ es'
  fields : ∀ (name : String) (r r' : Record), es[name]? = some r → es'[name]? = some r' →
    r.Perm r' ∧ (r.map Prod.fst).Nodup

namespace EntriesReordered

variable {es es' : TreeMap String Record} (h : EntriesReordered es es')
include h

theorem contains_eq (name : String) : es.contains name = es'.contains name := by
  rw [Bool.eq_iff_iff, TreeMap.contains_iff_mem, TreeMap.contains_iff_mem]
  exact h.names name

theorem isSome_eq (name : String) : es[name]?.isSome = es'[name]?.isSome := by
  rw [Bool.eq_iff_iff, ← TreeMap.mem_iff_isSome_getElem?, ← TreeMap.mem_iff_isSome_getElem?]
  exact h.names name

theorem lookup_eq (name field : String) :
    (es[name]?).bind (·.lookup field) = (es'[name]?).bind (·.lookup field) := by
  have hsome := h.isSome_eq name
  cases hr : es[name]? with
  | none =>
    cases hr' : es'[name]? with
    | none => rfl
    | some r' => simp [hr, hr'] at hsome
  | some r =>
    cases hr' : es'[name]? with
    | none => simp [hr, hr'] at hsome
    | some r' =>
      obtain ⟨hperm, hnodup⟩ := h.fields name r r' hr hr'
      exact lookup_eq_of_perm hperm hnodup field

end EntriesReordered

/-- The same tables, enumerated in another order. -/
structure Tables.Reordered (t t' : Tables) : Prop where
  ports : EntriesReordered t.ports t'.ports
  lags : EntriesReordered t.lags t'.lags
  lagMemberKeys : t.lagMemberKeys.Perm t'.lagMemberKeys
  vlanMemberKeys : t.vlanMemberKeys.Perm t'.vlanMemberKeys
  subInterfaceKeys : t.subInterfaceKeys.Perm t'.subInterfaceKeys

/-! ### Catalogs that tell the same -/

namespace Catalog

/-- The two catalogs give the same answers to all that can be asked of them. -/
structure Agrees (c c' : Catalog) : Prop where
  isPort : ∀ name, c.isPort name = c'.isPort name
  portNames : c.portNames = c'.portNames
  isLag : ∀ name, c.isLag name = c'.isLag name
  lagNames : c.lagNames = c'.lagNames
  members : ∀ lag, c.members lag = c'.members lag
  lagOf? : ∀ port, c.lagOf? port = c'.lagOf? port
  conflicts : c.conflicts = c'.conflicts
  switchMode : ∀ name, c.switchMode name = c'.switchMode name
  isInternalPort : ∀ port, c.isInternalPort port = c'.isInternalPort port
  isInternalLag : ∀ lag, c.isInternalLag lag = c'.isInternalLag lag
  subInterfaces : c.subInterfaces = c'.subInterfaces

variable {t t' : Tables} (h : t.Reordered t')
include h

theorem memberships_of_reordered : (ofTables t).memberships = (ofTables t').memberships := by
  have hsort : naturalSort t.lagMemberKeys = naturalSort t'.lagMemberKeys :=
    naturalSort_congr h.lagMemberKeys
  show (naturalSort t.lagMemberKeys).filterMap _ = (naturalSort t'.lagMemberKeys).filterMap _
  rw [hsort]

theorem isLag_of_reordered (name : String) : (ofTables t).isLag name = (ofTables t').isLag name := by
  rw [isLag, isLag, memberships_of_reordered h]
  exact congrArg (· || _) (h.lags.contains_eq name)

/-- A LAG has a record in the one catalog where it has one in the other. -/
theorem statedMode?_of_reordered (name : String) :
    (ofTables t).statedMode? name = (ofTables t').statedMode? name := by
  have hfield : ((ofTables t).record? name).bind (·.lookup Schema.mode) =
      ((ofTables t').record? name).bind (·.lookup Schema.mode) := by
    have hlag := h.lags.lookup_eq name Schema.mode
    have hsome := h.lags.isSome_eq name
    show (t.lags[name]? <|> t.ports[name]?).bind _ = (t'.lags[name]? <|> t'.ports[name]?).bind _
    cases hr : t.lags[name]? with
    | none =>
      cases hr' : t'.lags[name]? with
      | none => exact h.ports.lookup_eq name Schema.mode
      | some r' => simp [hr, hr'] at hsome
    | some r =>
      cases hr' : t'.lags[name]? with
      | none => simp [hr, hr'] at hsome
      | some r' =>
        rw [hr, hr'] at hlag
        exact hlag
  have hbind : ∀ c : Catalog, c.statedMode? name =
      ((c.record? name).bind (·.lookup Schema.mode)).bind SwitchMode.ofName? := by
    intro c
    cases hr : c.record? name <;> simp [statedMode?, hr]
  rw [hbind, hbind, hfield]

theorem switchMode_of_reordered (name : String) :
    (ofTables t).switchMode name = (ofTables t').switchMode name := by
  have hport : (ofTables t).isPort name = (ofTables t').isPort name := h.ports.contains_eq name
  have hvlan : (ofTables t).vlanMembers.contains name = (ofTables t').vlanMembers.contains name :=
    (h.vlanMemberKeys.filterMap _).contains_eq
  rw [switchMode, switchMode, hport, isLag_of_reordered h, statedMode?_of_reordered h, hvlan]

/-- Tables enumerated in another order make a catalog that tells the same. -/
theorem agrees_of_reordered : (ofTables t).Agrees (ofTables t') := by
  have hmemberships := memberships_of_reordered h
  have hmembers : ∀ lag, (ofTables t).members lag = (ofTables t').members lag := by
    intro lag
    rw [members, members, hmemberships]
  have hinternal : ∀ port, (ofTables t).isInternalPort port = (ofTables t').isInternalPort port :=
    fun port => congrArg (Option.any Schema.internalRoles.contains)
      (h.ports.lookup_eq port Schema.role)
  refine ⟨h.ports.contains_eq, ?_, isLag_of_reordered h, ?_, hmembers, ?_, ?_,
    switchMode_of_reordered h, hinternal, ?_, ?_⟩
  · have hlisting := NaturalListing.of_nodup t.ports.nodup_keys
    refine (hlisting.congr fun name => ?_).unique (NaturalListing.of_nodup t'.ports.nodup_keys)
    rw [TreeMap.mem_keys, TreeMap.mem_keys]
    exact h.ports.names name
  · refine ((lagNames_listing _).congr fun name => ?_).unique (lagNames_listing _)
    rw [isLag_of_reordered h]
  · intro port
    rw [lagOf?, lagOf?, hmemberships]
  · rw [conflicts, conflicts, hmemberships]
  · intro lag
    rw [isInternalLag, isInternalLag, hmembers, funext hinternal]
  · exact naturalSort_congr (h.subInterfaceKeys.filter _)

end Catalog

/-! ### Answers in another order -/

namespace Answers

/-- The same answers with the keys and the fields in another order. -/
structure Reorders (a b : Answers) : Prop where
  keys : ∀ pattern, (a.keys pattern).Perm (b.keys pattern)
  hgetall : ∀ key, (a.hgetall key).Perm (b.hgetall key)

/-- The answers from the last one to the first. -/
def reversed (a : Answers) : Answers where
  keys pattern := (a.keys pattern).reverse
  hgetall key := (a.hgetall key).reverse

theorem reversed_reorders (a : Answers) : a.reversed.Reorders a :=
  ⟨fun _ => List.reverse_perm _, fun _ => List.reverse_perm _⟩

variable {a b : Answers} (h : a.Reorders b) (kind : DatabaseKind)
include h

theorem Reorders.entryKeys (table : String) :
    (a.entryKeys kind table).Perm (b.entryKeys kind table) := (h.keys _).filterMap _

theorem Reorders.entries (table : String) (nodup : (b.entryKeys kind table).Nodup)
    (distinct : ∀ key, ((b.hgetall key).map Prod.fst).Nodup) :
    EntriesReordered (a.entries kind table) (b.entries kind table) := by
  have hkeys := h.entryKeys kind table
  have nodup' : (a.entryKeys kind table).Nodup := hkeys.nodup_iff.2 nodup
  constructor
  · intro name
    rw [mem_entries, mem_entries]
    exact hkeys.mem_iff
  · intro name r r' hr hr'
    have hname : name ∈ a.entryKeys kind table := by
      rw [← mem_entries, TreeMap.mem_iff_isSome_getElem?, hr]
      rfl
    rw [getElem?_entries nodup' hname] at hr
    rw [getElem?_entries nodup (hkeys.mem_iff.1 hname)] at hr'
    cases hr
    cases hr'
    exact ⟨h.hgetall _, ((h.hgetall _).map _).nodup_iff.2 (distinct _)⟩

theorem Reorders.tables (nodup : ∀ table, (b.entryKeys kind table).Nodup)
    (distinct : ∀ key, ((b.hgetall key).map Prod.fst).Nodup) :
    (a.tables kind).Reordered (b.tables kind) :=
  ⟨h.entries kind _ (nodup _) distinct, h.entries kind _ (nodup _) distinct, h.entryKeys kind _,
    h.entryKeys kind _, h.entryKeys kind _⟩

end Answers

/-- The tables of a configuration that is answered in another order. -/
theorem Database.tables_reordered {db : Database} (available : db.outage = none) {a : Answers}
    (h : a.Reorders db.answers) : (a.tables db.kind).Reordered (db.answers.tables db.kind) := by
  apply h.tables
  · exact nodup_answers available
  · intro key
    have hkeys : (db.answers.hgetall key).map Prod.fst = (db.hash key).keys :=
      TreeMap.map_fst_toList_eq_keys
    rw [hkeys]
    exact TreeMap.nodup_keys

end InterfaceReport
