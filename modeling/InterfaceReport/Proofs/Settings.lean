import InterfaceReport.Proofs.Steps
import InterfaceReport.Settings.Basic
import Mathlib.Data.List.Induction
import Mathlib.Data.List.Nodup

/-! Valid settings. The check accepts the settings whose ports are not 0 and whose namespaces have
different names, and otherwise names the first thing wrong. Where it accepts, looking a namespace up
by its name finds the settings that are listed for it. -/

namespace InterfaceReport.Settings

open Steps

/-! ### Validity -/

/-- No port is 0, and each name occurs once. -/
structure Sound (nss : List NamespaceSettings) : Prop where
  ports : ∀ ns ∈ nss, ns.port ≠ some 0
  names : (nss.map (·.name)).Nodup

structure Valid (s : Settings) : Prop where
  port : s.database.port ≠ 0
  namespaces : Sound s.namespaces

/-- What is wrong with a namespace behind others. Its port is looked at before its name. -/
inductive Fault (before : List NamespaceSettings) (ns : NamespaceSettings) : Error → Prop
  | port : ns.port = some 0 →
    Fault before ns (.config s!"redis_port of namespace '{ns.name}' must be > 0")
  | name : ns.port ≠ some 0 → ns.name ∈ before.map (·.name) →
    Fault before ns (.config s!"duplicate namespace '{ns.name}'")

/-- The first thing wrong with the settings. -/
inductive Violates (s : Settings) : Error → Prop
  | port : s.database.port = 0 → Violates s (.config "redis_port must be > 0")
  | namespaces {before after : List NamespaceSettings} {ns : NamespaceSettings} {e : Error} :
    s.database.port ≠ 0 → s.namespaces = before ++ ns :: after → Sound before →
      Fault before ns e → Violates s e

section

variable {nss before rest : List NamespaceSettings} {ns : NamespaceSettings} {e : Error}

theorem sound_concat_iff : Sound (before ++ [ns]) ↔
    Sound before ∧ ns.port ≠ some 0 ∧ ns.name ∉ before.map (·.name) := by
  have hports : (∀ x ∈ before ++ [ns], x.port ≠ some 0) ↔
      (∀ x ∈ before, x.port ≠ some 0) ∧ ns.port ≠ some 0 := by
    rw [List.forall_mem_append, List.forall_mem_singleton]
  have hnames : ((before ++ [ns]).map (·.name)).Nodup ↔
      ns.name ∉ before.map (·.name) ∧ (before.map (·.name)).Nodup := by
    rw [List.map_append, List.map_singleton, ← List.concat_eq_append, List.nodup_concat]
  constructor
  · intro h
    obtain ⟨hname, hbefore⟩ := hnames.1 h.names
    exact ⟨⟨(hports.1 h.ports).1, hbefore⟩, (hports.1 h.ports).2, hname⟩
  · rintro ⟨h, hport, hname⟩
    exact ⟨hports.2 ⟨h.ports, hport⟩, hnames.2 ⟨hname, h.names⟩⟩

theorem sound_or_fault (h : Sound before) (ns : NamespaceSettings) :
    Sound (before ++ [ns]) ∨ ∃ e, Fault before ns e := by
  by_cases hport : ns.port = some 0
  · exact .inr ⟨_, .port hport⟩
  · by_cases hname : ns.name ∈ before.map (·.name)
    · exact .inr ⟨_, .name hport hname⟩
    · exact .inl (sound_concat_iff.2 ⟨h, hport, hname⟩)

/-- Namespaces are checked with the names before them at hand, the last one first. -/
theorem validateNamespaces_of_sound (h : Sound (before ++ [ns])) :
    validateNamespaces (before.map (·.name)).reverse (ns :: rest) =
      validateNamespaces ((before ++ [ns]).map (·.name)).reverse rest := by
  obtain ⟨-, hport, hname⟩ := sound_concat_iff.1 h
  rw [validateNamespaces, if_neg hport, if_neg (by simpa using hname)]
  simp

theorem validateNamespaces_of_fault (h : Fault before ns e) :
    validateNamespaces (before.map (·.name)).reverse (ns :: rest) = .error e := by
  cases h with
  | port hport => rw [validateNamespaces, if_pos hport]
  | name hport hname => rw [validateNamespaces, if_neg hport, if_pos (by simpa using hname)]

theorem validateNamespaces_append (h : Sound nss) :
    validateNamespaces [] (nss ++ rest) = validateNamespaces (nss.map (·.name)).reverse rest := by
  induction nss using List.reverseRecOn generalizing rest with
  | nil => rfl
  | append_singleton before ns ih =>
    rw [List.append_assoc, List.singleton_append, ih (sound_concat_iff.1 h).1,
      validateNamespaces_of_sound h]

/-- Going through the namespaces in order, something is wrong with one of them or with none. -/
theorem sound_or_exists_fault (nss : List NamespaceSettings) : Sound nss ∨
    ∃ before ns after e, nss = before ++ ns :: after ∧ Sound before ∧ Fault before ns e := by
  induction nss using List.reverseRecOn with
  | nil => exact .inl ⟨by simp, by simp⟩
  | append_singleton nss ns ih =>
    rcases ih with hsound | ⟨before, fault, after, e, rfl, hbefore, hfault⟩
    · rcases sound_or_fault hsound ns with hsound' | ⟨e, hfault⟩
      · exact .inl hsound'
      · exact .inr ⟨nss, ns, [], e, rfl, hsound, hfault⟩
    · exact .inr ⟨before, fault, after ++ [ns], e, by simp, hbefore, hfault⟩

theorem validateNamespaces_eq_ok (h : Sound nss) : validateNamespaces [] nss = .ok () := by
  rw [← List.append_nil nss, validateNamespaces_append h, validateNamespaces]

end

variable {s : Settings} {e : Error}

theorem validate_of_valid (h : s.Valid) : s.validate = .ok () := by
  rw [validate, if_neg h.port, validateNamespaces_eq_ok h.namespaces]

theorem validate_of_violates (h : s.Violates e) : s.validate = .error e := by
  cases h with
  | port hport => rw [validate, if_pos hport]
  | namespaces hport hnss hbefore hfault =>
    rw [validate, if_neg hport, hnss, validateNamespaces_append hbefore,
      validateNamespaces_of_fault hfault]

theorem valid_or_violates (s : Settings) : s.Valid ∨ ∃ e, s.Violates e := by
  by_cases hport : s.database.port = 0
  · exact .inr ⟨_, .port hport⟩
  · rcases sound_or_exists_fault s.namespaces with hsound | ⟨before, ns, after, e, hnss, h, hfault⟩
    · exact .inl ⟨hport, hsound⟩
    · exact .inr ⟨e, .namespaces hport hnss h hfault⟩

theorem validate_eq_ok_iff : s.validate = .ok () ↔ s.Valid := by
  refine ⟨fun h => ?_, validate_of_valid⟩
  rcases valid_or_violates s with hvalid | ⟨e, hviolates⟩
  · exact hvalid
  · rw [validate_of_violates hviolates] at h
    cases h

theorem find?_name {nss : List NamespaceSettings} (hnames : (nss.map (·.name)).Nodup)
    {ns : NamespaceSettings} (hns : ns ∈ nss) : nss.find? (·.name == ns.name) = some ns :=
  find?_key hns fun _ hother => List.inj_on_of_nodup_map hnames hother hns

theorem select_some (known : List Namespace) (name : String) : select known (some name) =
    if ⟨name⟩ ∈ known then .ok [⟨name⟩] else .error (.unknownNamespace name) := by
  cases h : known.find? (·.name == name) with
  | some ns =>
    have hname : ns.name = name := by simpa using List.find?_some h
    subst hname
    rw [if_pos (List.mem_of_find?_eq_some h)]
    simp only [select, h]
  | none =>
    have hmem : ⟨name⟩ ∉ known := fun hmem => by simpa using List.find?_eq_none.1 h _ hmem
    rw [if_neg hmem]
    simp only [select, h]

/-! ### Entries -/

/-- The entries of the settings. Without any, the host has one that settles nothing. -/
def entries (s : Settings) : List NamespaceSettings :=
  if s.namespaces = [] then [⟨"", none, none⟩] else s.namespaces

/-- The entry that has the name asked for, or all in the order of the settings without one. -/
inductive Selects (s : Settings) : Option String → List NamespaceSettings → Prop
  | all : Selects s none s.entries
  | one {entry : NamespaceSettings} : entry ∈ s.entries → Selects s (some entry.name) [entry]

theorem allNamespaces_eq (s : Settings) :
    s.allNamespaces = s.entries.map fun entry => ⟨entry.name⟩ := by
  unfold allNamespaces entries
  by_cases hempty : s.namespaces = []
  · rw [if_pos (List.isEmpty_iff.2 hempty), if_pos hempty]
    rfl
  · rw [if_neg (mt List.isEmpty_iff.1 hempty), if_neg hempty]

theorem select_eq_ok_iff {name : Option String} {nss : List Namespace} :
    select s.allNamespaces name = .ok nss ↔
      ∃ entries, s.Selects name entries ∧ nss = entries.map fun entry => ⟨entry.name⟩ := by
  cases name with
  | none =>
    rw [select, Except.ok.injEq, allNamespaces_eq]
    constructor
    · rintro rfl
      exact ⟨s.entries, .all, rfl⟩
    · rintro ⟨_, ⟨⟩, rfl⟩
      rfl
  | some name =>
    rw [select_some, allNamespaces_eq]
    constructor
    · intro h
      split at h
      · next hmem =>
        cases h
        obtain ⟨entry, hentry, hname⟩ := List.mem_map.1 hmem
        cases hname
        exact ⟨[entry], .one hentry, rfl⟩
      · cases h
    · rintro ⟨_, hselects, rfl⟩
      cases hselects with
      | @one entry hentry =>
        have hmem : (⟨entry.name⟩ : Namespace) ∈ s.entries.map fun entry => ⟨entry.name⟩ :=
          List.mem_map.2 ⟨entry, hentry, rfl⟩
        exact if_pos hmem

theorem visited_eq_ok_iff {name : Option String} {nss : List Namespace} :
    s.visited name = .ok nss ↔ s.Valid ∧
      ∃ entries, s.Selects name entries ∧ nss = entries.map fun entry => ⟨entry.name⟩ := by
  rw [visited, bind_eq_ok_iff, ← select_eq_ok_iff, ← validate_eq_ok_iff]
  constructor
  · rintro ⟨_, hvalid, hselect⟩
    exact ⟨hvalid, hselect⟩
  · rintro ⟨hvalid, hselect⟩
    exact ⟨(), hvalid, hselect⟩

theorem Selects.subset {name : Option String} {entries : List NamespaceSettings}
    (h : s.Selects name entries) : entries ⊆ s.entries := by
  cases h with
  | all => exact List.Subset.refl _
  | one hentry => exact List.cons_subset.2 ⟨hentry, List.nil_subset _⟩

theorem Selects.nodup_names {name : Option String} {entries : List NamespaceSettings}
    (h : s.Selects name entries) (hvalid : s.Valid) : (entries.map (·.name)).Nodup := by
  cases h with
  | all =>
    unfold Settings.entries
    split
    · exact List.nodup_singleton _
    · exact hvalid.namespaces.names
  | one => exact List.nodup_singleton _

/-- Where the counters of an entry are: at its own host and port, as far as it settles them, and
else at those of all entries. -/
def countersUri (s : Settings) (entry : NamespaceSettings) : String :=
  "redis://" ++ entry.host.getD s.database.host ++ ":" ++
    toString (entry.port.getD s.database.port) ++ "/" ++ toString s.database.countersNumber

theorem uri_address_counters (hvalid : s.Valid) {entry : NamespaceSettings}
    (h : entry ∈ s.entries) :
    (s.address ⟨entry.name⟩ .counters).uri = s.countersUri entry := by
  unfold entries at h
  split at h
  · next hempty =>
    obtain rfl := List.mem_singleton.1 h
    simp only [address, hempty, List.find?_nil]
    rfl
  · simp only [address, find?_name hvalid.namespaces.names h]
    rfl

/-! ### Accepted settings -/

end InterfaceReport.Settings
