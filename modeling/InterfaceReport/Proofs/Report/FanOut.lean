import InterfaceReport.Proofs.Report.Rows
import InterfaceReport.Report.Basic

/-! Runs over several namespaces: a run is put together from what each namespace comes to alone, and
only databases that cannot be opened and sums out of bounds end it. -/

namespace InterfaceReport

open Steps

namespace Report

/-- The part of some namespaces followed by that of others. -/
def append (first second : Report) : Report where
  header := first.header
  rows := first.rows ++ second.rows
  failures := first.failures ++ second.failures
  asked := first.asked ++ second.asked

theorem empty_append {query : Query} {report : Report} (h : report.header = query.header) :
    (Report.empty query).append report = report := by
  simp [Report.empty, append, ← h]

theorem prepend_append (ns : Namespace) (part : Listing Error) (first second : Report) :
    (first.append second).prepend ns part = (first.prepend ns part).append second := by
  cases hrows : part.rows with
  | ok rows => simp [prepend, append, hrows]
  | error e => simp [prepend, append, hrows]

end Report

namespace Switch

/-- The second switch is the first one with other databases in `m`, changed in place or put there
anew. -/
inductive ChangedIn (m : Namespace) (s : Switch) : Switch → Prop
  | modify (change : Stores → Stores) : ChangedIn m s (s.modify m change)
  | add (stores : Stores) : ChangedIn m s (s.add m stores)

variable (s : Switch) {ns m : Namespace}

theorem lookup_modify_of_ne (h : ns ≠ m) (change : Stores → Stores) :
    (s.modify m change).stores.lookup ns = s.stores.lookup ns := by
  simp only [modify]
  induction s.stores with
  | nil => rfl
  | cons entry rest ih =>
    obtain ⟨n, stores⟩ := entry
    by_cases hn : ns = n
    · subst hn
      simp [h]
    · have hbeq : (ns == n) = false := beq_eq_false_iff_ne.2 hn
      simp [List.lookup_cons, hbeq, ih]

theorem lookup_add_of_ne (h : ns ≠ m) (stores : Stores) :
    (s.add m stores).stores.lookup ns = s.stores.lookup ns := by
  have hm : (ns == m) = false := beq_eq_false_iff_ne.2 h
  simp only [add]
  induction s.stores with
  | nil => simp [List.lookup_cons, hm]
  | cons entry rest ih =>
    obtain ⟨n, other⟩ := entry
    by_cases hn : n = m
    · subst hn
      simp [List.lookup_cons, hm, ih]
    · simp [List.lookup_cons, hn, ih]

theorem connect_of_changedIn {s' : Switch} (hs : ChangedIn m s s') (h : ns ≠ m) :
    s'.connect ns = s.connect ns := by
  cases hs with
  | modify change => rw [connect, connect, s.lookup_modify_of_ne h]; rfl
  | add stores => rw [connect, connect, s.lookup_add_of_ne h]; rfl

end Switch

namespace Platform

variable (p : Platform) (query : Query) (hides : Hides)

/-! ### One namespace -/

/-- The rows of one namespace by itself, or why it has none. -/
def alone (ns : Namespace) : Except Error (List Row) :=
  match p.connect ns with
  | .error source => .error (.storeUnavailable ns.label source)
  | .ok stores => (stores.report ns p.copperPorts query hides).rows

/-- The rows with which a namespace takes part in a run. -/
def rowsOf (ns : Namespace) : List Row :=
  match p.alone query hides ns with
  | .ok rows => rows
  | .error _ => []

/-- The failure with which a namespace takes part in a run. -/
def failureOf? (ns : Namespace) : Option Failure :=
  match p.alone query hides ns with
  | .ok _ => none
  | .error e => some ⟨ns, e⟩

variable {p query hides} {ns : Namespace} {nss : List Namespace} {stores : Stores}

theorem visit_of_error {source : StoreError} (h : p.connect ns = .error source) :
    p.visit query hides ns = .error (.storeUnavailable ns.label source) := by
  rw [visit, h]

theorem visit_of_fit (h : p.connect ns = .ok stores) (hfit : stores.SumsFit p.copperPorts) :
    p.visit query hides ns = .ok (stores.report ns p.copperPorts query hides) := by
  simp only [visit, h]
  split
  · next e hrows => rw [Stores.endsRun_of_report_eq_error hfit hrows, if_neg Bool.false_ne_true]
  · rfl

theorem visit_of_not_fit (h : p.connect ns = .ok stores) (hfit : ¬ stores.SumsFit p.copperPorts) :
    p.visit query hides ns = .error .speedOverflow := by
  simp only [visit, h, Stores.report_eq_overflow_iff.2 hfit]
  rfl

/-- A run gets past a namespace whose databases can be opened and whose sums fit. -/
theorem visit_eq_ok_iff {part : Listing Error} :
    p.visit query hides ns = .ok part ↔ ∃ stores, p.connect ns = .ok stores ∧
      stores.SumsFit p.copperPorts ∧ stores.report ns p.copperPorts query hides = part := by
  cases hconnect : p.connect ns with
  | error source => simp [visit_of_error hconnect]
  | ok stores =>
    by_cases hfit : stores.SumsFit p.copperPorts
    · simp [visit_of_fit hconnect hfit, hfit]
    · simp [visit_of_not_fit hconnect hfit, hfit]

theorem visit_eq_error_iff {e : Error} :
    p.visit query hides ns = .error e ↔
      (∃ source, p.connect ns = .error source ∧ e = .storeUnavailable ns.label source) ∨
      ∃ stores, p.connect ns = .ok stores ∧ ¬ stores.SumsFit p.copperPorts ∧
        e = .speedOverflow := by
  cases hconnect : p.connect ns with
  | error source => simp [visit_of_error hconnect, eq_comm]
  | ok stores =>
    by_cases hfit : stores.SumsFit p.copperPorts
    · simp [visit_of_fit hconnect hfit, hfit]
    · simp [visit_of_not_fit hconnect hfit, hfit, eq_comm]

theorem rows_of_visit {part : Listing Error} (h : p.visit query hides ns = .ok part) :
    part.rows = p.alone query hides ns := by
  obtain ⟨stores, hconnect, -, rfl⟩ := visit_eq_ok_iff.1 h
  rw [alone, hconnect]

/-- A namespace shows its rows or reports its failure, and never both. -/
theorem prepend_of_visit {part : Listing Error} (h : p.visit query hides ns = .ok part)
    (rest : Report) :
    rest.prepend ns part = ⟨rest.header, p.rowsOf query hides ns ++ rest.rows,
      (p.failureOf? query hides ns).toList ++ rest.failures, part.asked ++ rest.asked⟩ := by
  have halone := rows_of_visit h
  cases hrows : part.rows with
  | ok rows =>
    rw [hrows] at halone
    simp [Report.prepend, hrows, rowsOf, failureOf?, ← halone]
  | error e =>
    rw [hrows] at halone
    simp [Report.prepend, hrows, rowsOf, failureOf?, ← halone]

/-! ### All namespaces -/

theorem run_cons (ns : Namespace) (rest : List Namespace) :
    p.run query hides (ns :: rest) = (do
      let part ← p.visit query hides ns
      let report ← p.run query hides rest
      return report.prepend ns part) := rfl

theorem run_congr {p p' : Platform}
    (h : ∀ ns ∈ nss, p'.visit query hides ns = p.visit query hides ns) :
    p'.run query hides nss = p.run query hides nss := by
  induction nss with
  | nil => rfl
  | cons ns rest ih =>
    rw [List.forall_mem_cons] at h
    rw [run_cons, run_cons, h.1, ih h.2]

theorem exists_run_iff :
    (∃ report, p.run query hides nss = .ok report) ↔
      ∀ ns ∈ nss, ∃ part, p.visit query hides ns = .ok part := by
  induction nss with
  | nil => exact ⟨fun _ _ h => (List.not_mem_nil h).elim, fun _ => ⟨_, rfl⟩⟩
  | cons ns rest ih =>
    rw [List.forall_mem_cons, ← ih]
    constructor
    · rintro ⟨report, h⟩
      obtain ⟨part, hpart, h⟩ := bind_eq_ok_iff.1 h
      obtain ⟨others, hothers, -⟩ := bind_eq_ok_iff.1 h
      exact ⟨⟨part, hpart⟩, others, hothers⟩
    · rintro ⟨⟨part, hpart⟩, others, hothers⟩
      exact ⟨others.prepend ns part, by rw [run_cons, hpart, ok_bind, hothers, ok_bind]; rfl⟩

/-- A run ends with the failure of the first namespace that it does not get past. -/
theorem run_eq_error_iff {e : Error} :
    p.run query hides nss = .error e ↔ ∃ before ns after, nss = before ++ ns :: after ∧
      (∀ n ∈ before, ∃ part, p.visit query hides n = .ok part) ∧
      p.visit query hides ns = .error e := by
  rw [← mapM_eq_error_iff]
  induction nss with
  | nil => simp [run]
  | cons ns rest ih =>
    simp only [run_cons, List.mapM_cons, bind_eq_error_iff, ih, pure_eq_ok, reduceCtorEq, and_false,
      exists_false, or_false]

/-- A report is made of what its namespaces come to alone, in their order. -/
theorem report_of_run {report : Report} (h : p.run query hides nss = .ok report) :
    report.header = query.header ∧ report.rows = nss.flatMap (p.rowsOf query hides) ∧
      report.failures = nss.filterMap (p.failureOf? query hides) := by
  induction nss generalizing report with
  | nil =>
    cases h
    exact ⟨rfl, rfl, rfl⟩
  | cons ns rest ih =>
    obtain ⟨part, hpart, h⟩ := bind_eq_ok_iff.1 h
    obtain ⟨others, hothers, h⟩ := bind_eq_ok_iff.1 h
    cases h
    obtain ⟨hheader, hrows, hfailures⟩ := ih hothers
    rw [prepend_of_visit hpart]
    refine ⟨hheader, ?_, ?_⟩
    · rw [List.flatMap_cons, hrows]
    · rw [hfailures, List.filterMap_cons]
      cases p.failureOf? query hides ns <;> rfl

theorem run_append {xs ys : List Namespace} {rx ry : Report}
    (hx : p.run query hides xs = .ok rx) (hy : p.run query hides ys = .ok ry) :
    p.run query hides (xs ++ ys) = .ok (rx.append ry) := by
  induction xs generalizing rx with
  | nil =>
    cases hx
    rw [List.nil_append, hy, Report.empty_append (report_of_run hy).1]
  | cons ns rest ih =>
    obtain ⟨part, hpart, hx⟩ := bind_eq_ok_iff.1 hx
    obtain ⟨others, hothers, hx⟩ := bind_eq_ok_iff.1 hx
    cases hx
    rw [List.cons_append, run_cons, hpart, ok_bind, ih hothers, ok_bind, Report.prepend_append]
    rfl

theorem run_alone {part : Listing Error} (h : p.visit query hides ns = .ok part) :
    p.run query hides [ns] = .ok ⟨query.header, p.rowsOf query hides ns,
      (p.failureOf? query hides ns).toList, part.asked⟩ := by
  rw [run_cons, h, ok_bind, run, ok_bind, prepend_of_visit h]
  simp [Report.empty]

/-! ### Sums that fit -/

theorem exists_visit_iff_of_fit
    (hfit : ∀ stores, p.connect ns = .ok stores → stores.SumsFit p.copperPorts) :
    (∃ part, p.visit query hides ns = .ok part) ↔ ∃ stores, p.connect ns = .ok stores := by
  simp only [visit_eq_ok_iff]
  constructor
  · rintro ⟨_, stores, hconnect, -⟩
    exact ⟨stores, hconnect⟩
  · rintro ⟨stores, hconnect⟩
    exact ⟨_, stores, hconnect, hfit stores hconnect, rfl⟩

theorem exists_run_of_fit
    (hfit : ∀ ns ∈ nss, ∀ stores, p.connect ns = .ok stores → stores.SumsFit p.copperPorts)
    (hconnect : ∀ ns ∈ nss, ∃ stores, p.connect ns = .ok stores) :
    ∃ report, p.run query hides nss = .ok report :=
  exists_run_iff.2 fun ns hns => (exists_visit_iff_of_fit (hfit ns hns)).2 (hconnect ns hns)

/-- Only databases that cannot be opened are left to end a run. -/
theorem run_eq_error_iff_of_fit {e : Error}
    (hfit : ∀ ns ∈ nss, ∀ stores, p.connect ns = .ok stores → stores.SumsFit p.copperPorts) :
    p.run query hides nss = .error e ↔
      ∃ before ns after source, nss = before ++ ns :: after ∧
        (∀ n ∈ before, ∃ stores, p.connect n = .ok stores) ∧
        p.connect ns = .error source ∧ e = .storeUnavailable ns.label source := by
  rw [run_eq_error_iff]
  constructor
  · rintro ⟨before, ns, after, rfl, hbefore, hns⟩
    rcases visit_eq_error_iff.1 hns with ⟨source, hsource, he⟩ | ⟨stores, hok, hnot, -⟩
    · exact ⟨before, ns, after, source, rfl,
        fun n hn => (exists_visit_iff_of_fit (hfit n (by simp [hn]))).1 (hbefore n hn), hsource, he⟩
    · exact absurd (hfit ns (by simp) stores hok) hnot
  · rintro ⟨before, ns, after, source, rfl, hbefore, hsource, rfl⟩
    exact ⟨before, ns, after, rfl,
      fun n hn => (exists_visit_iff_of_fit (hfit n (by simp [hn]))).2 (hbefore n hn),
      visit_of_error hsource⟩

/-- Where all databases can be opened, only sums out of bounds end a run. -/
theorem eq_speedOverflow_of_run (hconnect : ∀ ns ∈ nss, ∃ stores, p.connect ns = .ok stores)
    {e : Error} (h : p.run query hides nss = .error e) : e = .speedOverflow := by
  obtain ⟨before, ns, after, rfl, -, hvisit⟩ := run_eq_error_iff.1 h
  obtain ⟨stores, hstores⟩ := hconnect ns (by simp)
  rcases visit_eq_error_iff.1 hvisit with ⟨source, hsource, -⟩ | ⟨_, -, -, he⟩
  · rw [hstores] at hsource
    cases hsource
  · exact he

/-- Where all databases can be opened, a run succeeds exactly when the speeds of the members of each
LAG add up to less than `2 ^ 64`; otherwise the run ends with the overflow. -/
theorem run_succeeds_iff_sums_fit (p : Platform) (query : Query) (hides : Hides)
    (nss : List Namespace) (hconnect : ∀ ns ∈ nss, ∃ stores, p.connect ns = .ok stores) :
    ((∃ report, p.run query hides nss = .ok report) ↔
      ∀ ns ∈ nss, ∀ stores, p.connect ns = .ok stores → stores.SumsFit p.copperPorts) ∧
    (∀ e, p.run query hides nss = .error e → e = .speedOverflow) ∧
    ∀ members, (∃ shown, LagSpeed.ofMembers members = .ok shown) ↔
      LagSpeed.sum members < Speed.bound := by
  refine ⟨?_, ?_, ?_⟩
  · rw [exists_run_iff]
    refine forall₂_congr fun ns hns => ?_
    obtain ⟨stores, hstores⟩ := hconnect ns hns
    simp [visit_eq_ok_iff, hstores]
  · intro e h
    exact eq_speedOverflow_of_run hconnect h
  · intro members
    constructor
    · rintro ⟨shown, hshown⟩
      by_contra hsum
      rw [LagSpeed.ofMembers_eq_error_iff.2 ⟨rfl, Nat.not_lt.1 hsum⟩] at hshown
      cases hshown
    · intro hsum
      cases h : LagSpeed.ofMembers members with
      | ok shown => exact ⟨shown, rfl⟩
      | error fault => exact absurd (LagSpeed.ofMembers_eq_error_iff.1 h).2 (Nat.not_le.2 hsum)

/-- Two ports of 400 and 100 can be reported. -/
theorem run_succeeds_of_lagOfTwo : ∃ report, (⟨fun _ => .ok (.lagOfTwo "400" "100"), []⟩ :
    Platform).run ⟨.description, .all⟩ (fun _ _ => false) [.host] = .ok report := by
  have hconnect : ∀ ns ∈ [Namespace.host], ∃ stores,
      (⟨fun _ => .ok (.lagOfTwo "400" "100"), []⟩ : Platform).connect ns = .ok stores :=
    fun _ _ => ⟨_, rfl⟩
  refine (run_succeeds_iff_sums_fit _ _ _ _ hconnect).1.2 fun _ _ stores hstores => ?_
  cases hstores
  exact Stores.sumsFit_lagOfTwo

/-- The speeds of two ports that are both readable can end a run. -/
theorem run_ends_with_speedOverflow :
    Speed.ofText? "18446744073709551615" = some 18446744073709551615 ∧ Speed.ofText? "1" = some 1 ∧
    (⟨fun _ => .ok (.lagOfTwo "18446744073709551615" "1"), []⟩ : Platform).run
      ⟨.description, .all⟩ (fun _ _ => false) [.host] = .error .speedOverflow := by
  refine ⟨by cbv, by cbv, ?_⟩
  cbv

end Platform

namespace Switch

theorem alone_of_changedIn {s s' : Switch} {ns m : Namespace} (hs : ChangedIn m s s') (h : ns ≠ m)
    (copperPorts : List String) (query : Query) (hides : Hides) :
    Platform.alone ⟨s'.connect, copperPorts⟩ query hides ns =
      Platform.alone ⟨s.connect, copperPorts⟩ query hides ns := by
  simp only [Platform.alone, s.connect_of_changedIn hs h]

/-- Where no sum of speeds overflows, a run over a switch ends early exactly at the first namespace
that cannot be opened. Otherwise its report puts together what the namespaces come to alone, so that
the report on two lists of namespaces is made of the reports on each, and a change to one namespace
changes only its own part. -/
theorem run_compositional (s : Switch) (copperPorts : List String) (query : Query) (hides : Hides)
    (nss : List Namespace)
    (hfit : ∀ ns ∈ nss, ∀ stores, s.connect ns = .ok stores → stores.SumsFit copperPorts) :
    let p : Platform := ⟨s.connect, copperPorts⟩
    (∀ e, p.run query hides nss = .error e ↔
      ∃ before ns after source, nss = before ++ ns :: after ∧
        (∀ n ∈ before, ∃ stores, s.connect n = .ok stores) ∧
        s.connect ns = .error source ∧ e = .storeUnavailable ns.label source) ∧
    ((∀ ns ∈ nss, ∃ stores, s.connect ns = .ok stores) →
      ∃ report, p.run query hides nss = .ok report ∧ report.header = query.header ∧
        report.rows = nss.flatMap (p.rowsOf query hides) ∧
        report.failures = nss.filterMap (p.failureOf? query hides)) ∧
    (∀ ns ∈ nss, (∃ stores, s.connect ns = .ok stores) →
      ∃ asked, p.run query hides [ns] = .ok ⟨query.header, p.rowsOf query hides ns,
        (p.failureOf? query hides ns).toList, asked⟩) ∧
    (∀ xs ys rx ry, p.run query hides xs = .ok rx → p.run query hides ys = .ok ry →
      p.run query hides (xs ++ ys) = .ok (rx.append ry)) ∧
    ∀ m s' report', ChangedIn m s s' →
      let p' : Platform := ⟨s'.connect, copperPorts⟩
      p'.run query hides nss = .ok report' →
        report'.rows = nss.flatMap (fun ns =>
          if ns = m then p'.rowsOf query hides m else p.rowsOf query hides ns) ∧
        report'.failures = nss.filterMap fun ns =>
          if ns = m then p'.failureOf? query hides m else p.failureOf? query hides ns := by
  intro p
  have hfit' : ∀ ns ∈ nss, ∀ stores, p.connect ns = .ok stores → stores.SumsFit p.copperPorts :=
    hfit
  refine ⟨?_, ?_, ?_, ?_, ?_⟩
  · intro e
    exact Platform.run_eq_error_iff_of_fit hfit'
  · intro hconnect
    obtain ⟨report, hrun⟩ := Platform.exists_run_of_fit hfit' hconnect
    exact ⟨report, hrun, Platform.report_of_run hrun⟩
  · intro ns hns hconnect
    obtain ⟨part, hpart⟩ := (Platform.exists_visit_iff_of_fit (hfit' ns hns)).2 hconnect
    exact ⟨part.asked, Platform.run_alone hpart⟩
  · intro xs ys rx ry hx hy
    exact Platform.run_append hx hy
  · intro m s' report' hchanged p' hrun
    have halone : ∀ ns, ns ≠ m → p'.alone query hides ns = p.alone query hides ns :=
      fun ns hns => alone_of_changedIn hchanged hns copperPorts query hides
    obtain ⟨-, hrows, hfailures⟩ := Platform.report_of_run hrun
    rw [hrows, hfailures]
    constructor
    · congr 1
      funext ns
      by_cases h : ns = m
      · rw [if_pos h, h]
      · rw [if_neg h, Platform.rowsOf, Platform.rowsOf, halone ns h]
    · congr 1
      funext ns
      by_cases h : ns = m
      · rw [if_pos h, h]
      · rw [if_neg h, Platform.failureOf?, Platform.failureOf?, halone ns h]

/-- A switch with a namespace in order and one whose hardware data cannot be read. -/
def halfReadable : Switch where
  stores := [(.host, .lagOfTwo "400" "100"),
    (⟨"asic0"⟩, (Stores.lagOfTwo "400" "100").modify .state (·.setAvailable false))]
  unreachable := []

theorem run_compositional_halfReadable :
    ∃ report, (⟨halfReadable.connect, []⟩ : Platform).run ⟨.fec, .all⟩ (fun _ _ => false)
        [.host, ⟨"asic0"⟩, .host] = .ok report ∧
      report.rows = [["Ethernet0", "N/A", "N/A"], ["Ethernet4", "N/A", "N/A"],
        ["Ethernet0", "N/A", "N/A"], ["Ethernet4", "N/A", "N/A"]] ∧
      report.failures =
        [⟨⟨"asic0"⟩, .query "asic0" (.command "STATE_DB" "hget" "Connection refused")⟩] := by
  have hhost : halfReadable.connect .host = .ok (.lagOfTwo "400" "100") := rfl
  have hasic : halfReadable.connect ⟨"asic0"⟩ =
      .ok ((Stores.lagOfTwo "400" "100").modify .state (·.setAvailable false)) := rfl
  have hfails : (((Stores.lagOfTwo "400" "100").modify .state (·.setAvailable false)).report
      ⟨"asic0"⟩ [] ⟨.fec, .all⟩ fun _ _ => false).rows =
        .error (.query "asic0" (.command "STATE_DB" "hget" "Connection refused")) := by
    cbv
  have hfit : ∀ ns ∈ [Namespace.host, ⟨"asic0"⟩, .host], ∀ stores,
      halfReadable.connect ns = .ok stores → stores.SumsFit [] := by
    simp only [List.forall_mem_cons, hhost, hasic, Except.ok.injEq, forall_eq', List.not_mem_nil,
      false_imp_iff, implies_true, and_true]
    exact ⟨Stores.sumsFit_lagOfTwo, Stores.sumsFit_of_report (by rw [hfails]; simp),
      Stores.sumsFit_lagOfTwo⟩
  obtain ⟨-, hok, -⟩ :=
    run_compositional halfReadable [] ⟨.fec, .all⟩ (fun _ _ => false) _ hfit
  obtain ⟨report, hrun, -, hrows, hfailures⟩ := hok (by simp [hhost, hasic])
  refine ⟨report, hrun, ?_, ?_⟩
  · rw [hrows]
    cbv
  · rw [hfailures]
    cbv

end Switch

end InterfaceReport
