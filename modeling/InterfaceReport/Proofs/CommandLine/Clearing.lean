import InterfaceReport.CommandLine.Outcome
import InterfaceReport.Proofs.Settings
import InterfaceReport.Proofs.Watermark

/-! Clearing a watermark under settings. Unless the settings are valid and have the namespace asked
for, no server is asked. Otherwise each namespace before the first that fails gets one request, that
one is asked in vain, and the tool succeeds if none fails. -/

namespace InterfaceReport

open Steps

variable {ε : Type} {s : Settings} {client : Namespace → Client ε} {name : Option String}
  {entry : NamespaceSettings} {entries : List NamespaceSettings} {w : Watermark} {j : Nat}

/-! ### Counters -/

theorem Address.connect_eq_ok_iff {client : Client ε} {a : Address} {connection : Connection ε} :
    a.connect client = .ok connection ↔
      ∃ link, client a.uri = .ok link ∧ .ofLink a.kind link = connection := by
  simp only [connect, bind_eq_ok_iff, mapError_eq_ok_iff, pure_eq_ok, Except.ok.injEq]

theorem Database.accept_eq_ok_iff {db : Database} {command : Command} :
    db.accept command = .ok () ↔ ∀ outage ∈ db.outage, command ∉ outage.commands := by
  rw [accept]
  cases db.outage with
  | none => simp
  | some outage => simp

namespace Settings

/-- What comes of looking for the counters of an entry. -/
def countersOf (s : Settings) (client : Namespace → Client ε) (entry : NamespaceSettings) :
    Except String (Link ε) :=
  client ⟨entry.name⟩ (s.countersUri entry)

/-- The counters of the entry are found and do not refuse messages. -/
def CountersTake (s : Settings) (client : Namespace → Client ε) (entry : NamespaceSettings) :
    Prop :=
  ∃ link, s.countersOf client entry = .ok link ∧ ∀ outage ∈ link.outage, .publish ∉ outage.commands

theorem connectCounters_eq_ok_iff (hvalid : s.Valid) (hentry : entry ∈ s.entries)
    {connection : Connection ε} : s.connectCounters client ⟨entry.name⟩ = .ok connection ↔
      ∃ link, s.countersOf client entry = .ok link ∧ .ofLink .counters link = connection := by
  rw [connectCounters, Address.connect_eq_ok_iff, uri_address_counters hvalid hentry]
  rfl

theorem takes_iff (hvalid : s.Valid) (hentry : entry ∈ s.entries) :
    Takes (s.connectCounters client) ⟨entry.name⟩ ↔ s.CountersTake client entry := by
  simp only [Takes, connectCounters_eq_ok_iff hvalid hentry, Database.accept_eq_ok_iff]
  constructor
  · rintro ⟨_, ⟨link, hlink, rfl⟩, haccept⟩
    exact ⟨link, hlink, haccept⟩
  · rintro ⟨link, hlink, haccept⟩
    exact ⟨_, ⟨link, hlink, rfl⟩, haccept⟩

theorem reaches_namespaces (hvalid : s.Valid) (hentries : entries ⊆ s.entries)
    (h : Reaches (s.CountersTake client) entries j) :
    Reaches (Takes (s.connectCounters client)) (entries.map fun entry => ⟨entry.name⟩) j := by
  apply Reaches.map
  apply h.congr
  intro entry hentry
  exact takes_iff hvalid (hentries (List.mem_of_mem_take hentry))

end Settings

namespace CommandLine

/-! ### Publications -/

/-- The publication is the message on the counters of the entry. -/
def SentTo (s : Settings) (client : Namespace → Client ε) (message : Message)
    (entry : NamespaceSettings) (p : Publication ε) : Prop :=
  ∃ link, s.countersOf client entry = .ok link ∧ p = ⟨link.endpoint, message⟩

theorem exists_publications_contact (hvalid : s.Valid) (hentry : entry ∈ s.entries)
    (htakes : s.CountersTake client entry) : ∃ p, SentTo s client w.request entry p ∧
      publications (w.contact (s.connectCounters client) ⟨entry.name⟩) = [p] := by
  obtain ⟨link, hlink, haccept⟩ := htakes
  have hopen := (Settings.connectCounters_eq_ok_iff hvalid hentry).2 ⟨link, hlink, rfl⟩
  have hresult := Watermark.result_contact_eq_ok_iff (w := w).2
    ⟨_, hopen, Database.accept_eq_ok_iff.2 haccept, rfl⟩
  refine ⟨_, ⟨link, hlink, rfl⟩, ?_⟩
  rw [publications, hresult]
  rfl

theorem publications_of_not_takes {open? : Namespace → Except StoreError (Connection ε)}
    {ns : Namespace} (h : ¬ Takes open? ns) : publications (w.contact open? ns) = [] := by
  rw [publications]
  split
  · next after hresult =>
    obtain ⟨before, hopen, haccept, -⟩ := Watermark.result_contact_eq_ok_iff.1 hresult
    exact absurd ⟨before, hopen, haccept⟩ h
  · rfl

/-- The first entry either takes the request, which is one publication, or ends both lists. -/
theorem forall₂_publications (hvalid : s.Valid) (hentries : entries ⊆ s.entries)
    (h : Reaches (s.CountersTake client) entries j) :
    List.Forall₂ (SentTo s client w.request) (entries.take j)
      ((w.clearAll (s.connectCounters client)
        (entries.map fun entry => ⟨entry.name⟩)).flatMap publications) := by
  induction entries generalizing j with
  | nil => simp [Watermark.clearAll]
  | cons entry entries ih =>
    obtain ⟨hentry, hentries⟩ := List.cons_subset.1 hentries
    rw [List.map_cons]
    cases j with
    | zero =>
      have hns := mt (Settings.takes_iff hvalid hentry).1 (reaches_cons_zero_iff.1 h)
      rw [Watermark.clearAll_cons_of_not_takes hns, List.flatMap_singleton,
        publications_of_not_takes hns]
      exact .nil
    | succ j =>
      obtain ⟨htakes, hj⟩ := reaches_cons_succ_iff.1 h
      have hns := (Settings.takes_iff hvalid hentry).2 htakes
      obtain ⟨p, hp, hpublications⟩ :=
        exists_publications_contact (w := w) hvalid hentry htakes
      rw [Watermark.clearAll_cons_of_takes hns, List.flatMap_cons, hpublications]
      exact .cons hp (ih hentries hj)

/-- Of the databases that clients tell apart, each has as many messages as entries have their
counters there. -/
theorem countP_endpoint_eq {ps : List (Publication ε)} {message : Message}
    (h : List.Forall₂ (SentTo s client message) entries ps) (isThere : ε → Bool) :
    ps.countP (isThere ·.endpoint) = entries.countP fun entry =>
      (s.countersOf client entry).toOption.any (isThere ·.endpoint) := by
  induction h with
  | nil => rfl
  | cons hp _ ih =>
    obtain ⟨link, hlink, rfl⟩ := hp
    simp only [List.countP_cons, ih, hlink, Except.toOption, Option.any_some]

/-! ### The end -/

theorem clearWatermark_of_selects (hvalid : s.Valid) (h : s.Selects name entries)
    (open? : Namespace → Except StoreError (Connection ε)) : s.clearWatermark open? name w =
      .ok (w.clearAll open? (entries.map fun entry => ⟨entry.name⟩)) := by
  have hvisited := Settings.visited_eq_ok_iff.2 ⟨hvalid, entries, h, rfl⟩
  rw [Settings.clearWatermark, hvisited]
  rfl

theorem clearing_of_selects (hvalid : s.Valid) (h : s.Selects name entries) :
    clearing s client name w = .ofContacts
      (w.clearAll (s.connectCounters client) (entries.map fun entry => ⟨entry.name⟩)) := by
  rw [clearing, clearWatermark_of_selects hvalid h]

/-- The client is not asked before the namespaces to visit are known. -/
theorem clearing_of_not_selects (h : ¬ (s.Valid ∧ ∃ entries, s.Selects name entries)) :
    ∃ e : Error, ∀ client : Namespace → Client ε,
      clearing s client name w = .failed e.messages := by
  cases hvisited : s.visited name with
  | error e =>
    refine ⟨e, fun client => ?_⟩
    rw [clearing, Settings.clearWatermark, hvisited]
    rfl
  | ok nss =>
    obtain ⟨hvalid, entries, hselects, -⟩ := Settings.visited_eq_ok_iff.1 hvisited
    exact absurd ⟨hvalid, entries, hselects⟩ h

theorem published_ofContacts (contacts : List (Contact ε)) :
    (Outcome.ofContacts contacts).published = contacts.flatMap publications := by
  unfold Outcome.ofContacts
  dsimp only
  split <;> rfl

theorem status_ofContacts (contacts : List (Contact ε)) : (Outcome.ofContacts contacts).status =
    if contacts.findSome? Contact.failure? = none then 0 else 1 := by
  unfold Outcome.ofContacts
  dsimp only
  split
  · next hnone => rw [if_pos hnone]
  · next failure hsome => rw [if_neg (by simp [hsome])]; rfl

/-- Unless everything is in order nothing is published and no server is asked. Otherwise the entries
before the first that fails, and no others, get one request each on their counters. The first that
fails is the last that is asked, and the tool succeeds if there is none. -/
theorem clearing_reaches_prefix (s : Settings) (name : Option String) (w : Watermark)
    (client : Namespace → Client ε) :
    let outcome := clearing s client name w
    (¬ (s.Valid ∧ ∃ entries, s.Selects name entries) →
      outcome.published = [] ∧ outcome.status = 1 ∧
      ∀ client', clearing s client' name w = outcome) ∧
    ∀ entries, s.Valid → s.Selects name entries → (entries.map (·.name)).Nodup ∧
      ∃ j word, Reaches (s.CountersTake client) entries j ∧ w.group.Spells word ∧
        List.Forall₂ (SentTo s client ⟨"WATERMARK_CLEAR_REQUEST",
            "[\"" ++ (if w.persistent then "PERSISTENT" else "USER") ++ "\",\"" ++ word ++ "\"]"⟩)
          (entries.take j) outcome.published ∧
        (∀ isThere : ε → Bool, outcome.published.countP (isThere ·.endpoint) =
          (entries.take j).countP fun entry =>
            (s.countersOf client entry).toOption.any (isThere ·.endpoint)) ∧
        (∃ contacts, s.clearWatermark (s.connectCounters client) name w = .ok contacts ∧
          contacts.map (·.ns.name) = (entries.take (j + 1)).map (·.name)) ∧
        outcome.status = (if j = entries.length then 0 else 1) ∧
        ∀ client', (∀ entry ∈ entries.take (j + 1),
            client' ⟨entry.name⟩ = client ⟨entry.name⟩) →
          clearing s client' name w = outcome := by
  intro outcome
  constructor
  · intro h
    obtain ⟨e, he⟩ := clearing_of_not_selects (ε := ε) (w := w) h
    have houtcome : outcome = .failed e.messages := he client
    rw [houtcome]
    exact ⟨rfl, rfl, he⟩
  · intro entries hvalid hselects
    obtain ⟨j, hj⟩ := exists_reaches (s.CountersTake client) entries
    obtain ⟨word, hword, hrequest⟩ := w.request_eq
    have hnss := Settings.reaches_namespaces hvalid hselects.subset hj
    have houtcome : outcome = _ := clearing_of_selects hvalid hselects
    have hsent := forall₂_publications (w := w) hvalid hselects.subset hj
    rw [← published_ofContacts, ← houtcome] at hsent
    refine ⟨hselects.nodup_names hvalid, j, word, hj, hword, hrequest ▸ hsent,
      countP_endpoint_eq hsent, ?_, ?_, fun client' hclient => ?_⟩
    · refine ⟨_, clearWatermark_of_selects hvalid hselects _, ?_⟩
      rw [Watermark.clearAll_eq hnss, ← List.map_take, List.map_map, List.map_map]
      rfl
    · simp only [houtcome, status_ofContacts, Watermark.findSome?_failure?_clearAll hnss,
        List.length_map]
    · rw [houtcome, clearing_of_selects hvalid hselects]
      refine congrArg _ (Watermark.clearAll_congr hnss ?_)
      rw [← List.map_take, List.forall_mem_map]
      intro entry hentry
      rw [Settings.connectCounters, Settings.connectCounters, hclient entry hentry]

/-- Two namespaces share a server, and the third has its own. -/
def sharedSettings : Settings where
  database := .standard
  namespaces := [⟨"asic0", none, some 6380⟩, ⟨"asic1", none, some 6380⟩, ⟨"asic2", none, some 6381⟩,
    ⟨"asic3", none, none⟩]
  copperPorts := []
  display := none

/-- The counters of the second server take no messages. -/
def partlyRefusing (_ : Namespace) : Client (Nat × Nat)
  | "redis://127.0.0.1:6380/2" => .ok ⟨(6380, 2), ∅, none⟩
  | "redis://127.0.0.1:6381/2" => .ok ⟨(6381, 2), ∅, some ⟨[.publish], "NOPERM"⟩⟩
  | _ => .error "Connection refused (os error 111)"

theorem clearing_reaches_prefix_shared :
    sharedSettings.Valid ∧ sharedSettings.Selects none sharedSettings.namespaces ∧
    Reaches (sharedSettings.CountersTake partlyRefusing) sharedSettings.namespaces 2 ∧
    let outcome := clearing sharedSettings partlyRefusing none ⟨.pgShared, false⟩
    outcome.published = List.replicate 2
      ⟨(6380, 2), ⟨"WATERMARK_CLEAR_REQUEST", "[\"USER\",\"PG_SHARED\"]"⟩⟩ ∧
    outcome.status = 1 ∧
    ∀ client, (∀ ns, ns ≠ ⟨"asic3"⟩ → client ns = partlyRefusing ns) →
      clearing sharedSettings client none ⟨.pgShared, false⟩ = outcome := by
  have hvalid : sharedSettings.Valid := ⟨by decide, ⟨by decide, by decide⟩⟩
  have hselects : sharedSettings.Selects none sharedSettings.namespaces := .all
  have hshared : ∀ entry ∈ sharedSettings.namespaces.take 2,
      sharedSettings.countersOf partlyRefusing entry = .ok ⟨(6380, 2), ∅, none⟩ := by
    rintro _ (_ | ⟨_, _ | ⟨_, ⟨⟩⟩⟩) <;> rfl
  have hreaches : Reaches (sharedSettings.CountersTake partlyRefusing)
      sharedSettings.namespaces 2 := by
    refine ⟨by decide, fun entry hentry => ⟨_, hshared entry hentry, by simp⟩, ?_⟩
    rintro _ ⟨⟩ ⟨_, ⟨⟩, haccept⟩
    exact haccept _ rfl (by decide)
  obtain ⟨-, hcleared⟩ :=
    clearing_reaches_prefix sharedSettings none ⟨.pgShared, false⟩ partlyRefusing
  obtain ⟨-, j, word, hj, ⟨⟩, hsent, -, -, hstatus, hclient⟩ :=
    hcleared sharedSettings.namespaces hvalid hselects
  obtain rfl : j = 2 := hj.unique hreaches
  refine ⟨hvalid, hselects, hreaches, ?_, hstatus, fun client h => hclient client ?_⟩
  · obtain ⟨_, _, ⟨link, hlink, rfl⟩, hrest, hfirst⟩ := List.forall₂_cons_left_iff.1 hsent
    obtain ⟨_, _, ⟨link', hlink', rfl⟩, hnone, rfl⟩ := List.forall₂_cons_left_iff.1 hrest
    rw [hshared _ (by decide), Except.ok.injEq] at hlink hlink'
    obtain rfl := List.forall₂_nil_left_iff.1 hnone
    rw [hfirst, ← hlink, ← hlink']
    rfl
  · intro entry hentry
    apply h
    revert entry
    decide

end CommandLine
end InterfaceReport
