import InterfaceReport.Proofs.Report.FanOut

/-! Reports on databases that refuse commands: they show what the whole databases give, or the
namespace is left out with a failure that names a database which refuses commands. -/

namespace InterfaceReport

open Steps

namespace CellSource

variable (r : CellSource) (query : Query)

theorem agrees_knownPorts :
    AgreesUnless r.stores.Blames r.knownPorts r.restored.knownPorts :=
  (r.stores.blames_of_database .appl rfl (r.stores.appl.agrees_entryKeys _)).bind
    fun _ => .agrees _

theorem agrees_candidates (ns : Namespace) :
    AgreesUnless r.stores.Blames (r.candidates ns query) (r.restored.candidates ns query) := by
  simp only [candidates, catalog_restored]
  split
  · exact .agrees _
  · exact r.agrees_knownPorts.bind fun _ => .agrees _

theorem agrees_row (interface : Interface) :
    AgreesUnless r.stores.Blames (r.row query interface) (r.restored.row query interface) := by
  refine AgreesUnless.bind (AgreesUnless.mapM _ fun column _ => ?_) fun _ => .agrees _
  exact r.agrees_cell interface.kind interface.name column.content

/-- Hiding looks at the catalog only, so the same interfaces are shown. -/
theorem agrees_rows (ns : Namespace) (hides : Hides) :
    AgreesUnless r.stores.Blames (r.rows ns query hides).rows
      (r.restored.rows ns query hides).rows := by
  rw [rows_rows, rows_rows]
  refine (r.agrees_candidates query ns).bind fun interfaces => ?_
  exact AgreesUnless.mapM _ fun interface _ => r.agrees_row query interface

end CellSource

namespace Stores

/-- A failure of a report that is due to the commands that the databases refuse. -/
def BlamesFor (stores : Stores) (ns : Namespace) : Error → Prop
  | .catalogBuild label source => label = ns.label ∧ stores.config.Blames source
  | .query label source => label = ns.label ∧ stores.Blames source
  | _ => False

variable (stores : Stores) (ns : Namespace) (copperPorts : List String) (query : Query)
  (hides : Hides)

theorem agrees_ofStores :
    AgreesUnless (stores.BlamesFor ns) (Catalog.ofStores ns stores)
      (Catalog.ofStores ns stores.restored) := by
  have h := Tables.agrees_read stores.config
  cases htables : Tables.read stores.config with
  | ok tables =>
    have hrestored : Tables.read stores.restored.config = .ok tables := h.eq_of_ok htables
    rw [Catalog.ofStores_eq_ok_iff.2 ⟨tables, htables, rfl⟩,
      Catalog.ofStores_eq_ok_iff.2 ⟨tables, hrestored, rfl⟩]
    exact .agrees _
  | error source =>
    obtain ⟨tables, hrestored⟩ := h.exists_ok
    have hrestored' : Tables.read stores.restored.config = .ok tables := hrestored
    rw [Catalog.ofStores_eq_error_iff.2 ⟨source, htables, rfl⟩,
      Catalog.ofStores_eq_ok_iff.2 ⟨tables, hrestored', rfl⟩]
    exact .fails _ ⟨rfl, h.blame_of_error htables⟩

theorem agrees_report (hfit : stores.restored.SumsFit copperPorts) :
    AgreesUnless (stores.BlamesFor ns) (stores.report ns copperPorts query hides).rows
      (stores.restored.report ns copperPorts query hides).rows := by
  rw [rows_report, rows_report]
  refine (stores.agrees_ofStores ns).bind_of_ok fun catalog hcatalog => ?_
  obtain ⟨tables, htables, rfl⟩ := Catalog.ofStores_eq_ok_iff.1 hcatalog
  have hspeeds := LagSpeeds.agrees_compute stores _ copperPorts (hfit tables htables)
  refine (hspeeds.mapError fun fault hfault => ?_).bind fun lagSpeeds => ?_
  · cases fault with
    | store source => exact ⟨rfl, hfault⟩
    | overflow => exact hfault.elim
  · refine AgreesUnless.mapError ?_ fun source hsource => ⟨rfl, hsource⟩
    exact CellSource.agrees_rows ⟨stores, _, lagSpeeds, copperPorts⟩ query ns hides

/-! ### Databases that are gone -/

/-- Databases with the given hashes, of which some are gone. -/
def holding (contents : DatabaseKind → Std.TreeMap String Hash) (available : DatabaseKind → Bool) :
    Stores :=
  let database (kind : DatabaseKind) : Database :=
    Database.setAvailable ⟨kind, contents kind, [], none⟩ (available kind)
  ⟨database .config, database .appl, database .state⟩

variable {contents : DatabaseKind → Std.TreeMap String Hash} (available : DatabaseKind → Bool)

theorem restored_holding :
    (holding contents available).restored = holding contents fun _ => true := rfl

/-- A database with a failure is one of those that are gone. -/
theorem unavailable_of_blames {source : StoreError}
    (h : (holding contents available).Blames source) :
    ∃ kind ∈ [DatabaseKind.config, .appl, .state], source.database = kind.name ∧
      available kind = false := by
  obtain ⟨kind, db, hdb, hout, hname⟩ := h
  have hgone : ∀ kind, (if available kind then none else some Outage.total) ≠ none →
      available kind = false := by
    intro kind hkind
    by_contra h
    simp [h] at hkind
  cases kind <;> cases hdb
  · exact ⟨.config, by simp, hname, hgone _ hout⟩
  · exact ⟨.appl, by simp, hname, hgone _ hout⟩
  · exact ⟨.state, by simp, hname, hgone _ hout⟩

/-- No table is read from a configuration that is gone. -/
theorem read_config_of_unavailable (h : available .config = false) :
    ∃ source, Tables.read (holding contents available).config = .error source := by
  refine ⟨.command "CONFIG_DB" "keys" "Connection refused", ?_⟩
  simp only [Tables.read, Database.entries, Database.entryKeys, Database.keys, Database.accept,
    holding, Database.setAvailable, h]
  rfl

/-- The rows are those of the whole databases, or a database is to blame that is gone. -/
theorem report_holding (hfit : (holding contents fun _ => true).SumsFit copperPorts) :
    ∃ rows, ((holding contents fun _ => true).report ns copperPorts query hides).rows = .ok rows ∧
      (((holding contents available).report ns copperPorts query hides).rows = .ok rows ∨
        ∃ source, ((holding contents available).report ns copperPorts query hides).rows =
            .error (if available .config then .query ns.label source
              else .catalogBuild ns.label source) ∧
          ∃ kind ∈ [DatabaseKind.config, .appl, .state], source.database = kind.name ∧
            available kind = false) := by
  have hrestored : (holding contents available).restored = holding contents fun _ => true :=
    restored_holding available
  rw [← hrestored] at hfit ⊢
  have h := (holding contents available).agrees_report ns copperPorts query hides hfit
  obtain ⟨rows, hrows⟩ := h.exists_ok
  refine ⟨rows, hrows, ?_⟩
  cases hreport : ((holding contents available).report ns copperPorts query hides).rows with
  | ok rows' =>
    rw [h.eq_of_ok hreport] at hrows
    exact .inl hrows
  | error e =>
    have hblame := h.blame_of_error hreport
    cases hconfig : available .config with
    | false =>
      obtain ⟨source, hsource⟩ : ∃ source, Tables.read (holding contents available).config =
          .error source := read_config_of_unavailable available hconfig
      have hcatalog : ((holding contents available).report ns copperPorts query hides).rows =
          .error (.catalogBuild ns.label source) := by
        rw [rows_report, Catalog.ofStores_eq_error_iff.2 ⟨source, hsource, rfl⟩, error_bind]
      rw [hreport] at hcatalog
      cases hcatalog
      exact .inr ⟨source, rfl, .config, by simp, hblame.2.2, hconfig⟩
    | true =>
      cases e with
      | query label source =>
        obtain ⟨rfl, hsource⟩ := hblame
        exact .inr ⟨source, rfl, unavailable_of_blames available hsource⟩
      | catalogBuild label source =>
        obtain ⟨-, hout, -⟩ := hblame
        exact absurd (if_pos hconfig) hout
      | _ => exact hblame.elim

end Stores

namespace Platform

/-- A run over a namespace some of whose databases are gone shows exactly what it shows while all of
them are there, or it shows nothing and reports one failure, which names a database that is gone. -/
theorem run_whole_or_blamed (copperPorts : List String) (query : Query) (hides : Hides)
    (ns : Namespace) (contents : DatabaseKind → Std.TreeMap String Hash)
    (available : DatabaseKind → Bool)
    (hfit : (Stores.holding contents fun _ => true).SumsFit copperPorts) :
    ∃ rows,
      (∀ connect : Connect, connect ns = .ok (.holding contents fun _ => true) →
        ∃ report, (⟨connect, copperPorts⟩ : Platform).run query hides [ns] = .ok report ∧
          report.rows = rows ∧ report.failures = []) ∧
      ∀ connect : Connect, connect ns = .ok (.holding contents available) →
        ∃ report, (⟨connect, copperPorts⟩ : Platform).run query hides [ns] = .ok report ∧
          (report.rows = rows ∧ report.failures = [] ∨
            ∃ source, report.rows = [] ∧
              report.failures = [⟨ns, if available .config then .query ns.label source
                else .catalogBuild ns.label source⟩] ∧
              ∃ kind ∈ [DatabaseKind.config, .appl, .state], source.database = kind.name ∧
                available kind = false) := by
  obtain ⟨rows, hwhole, hpart⟩ :=
    Stores.report_holding ns copperPorts query hides available hfit
  refine ⟨rows, ?_, ?_⟩
  · intro connect hconnect
    have hvisit : (⟨connect, copperPorts⟩ : Platform).visit query hides ns = .ok _ :=
      visit_of_fit hconnect hfit
    refine ⟨_, run_alone hvisit, ?_, ?_⟩
    · simp [rowsOf, alone, hconnect, hwhole]
    · simp [failureOf?, alone, hconnect, hwhole]
  · intro connect hconnect
    have hne : ((Stores.holding contents available).report ns copperPorts query hides).rows ≠
        .error .speedOverflow := by
      rcases hpart with hrows | ⟨source, hrows, -⟩
      · rw [hrows]
        simp
      · rw [hrows]
        cases available .config <;> simp
    have hvisit : (⟨connect, copperPorts⟩ : Platform).visit query hides ns = .ok _ :=
      visit_of_fit hconnect (Stores.sumsFit_of_report hne)
    refine ⟨_, run_alone hvisit, ?_⟩
    rcases hpart with hrows | ⟨source, hrows, hgone⟩
    · left
      simp [rowsOf, failureOf?, alone, hconnect, hrows]
    · right
      exact ⟨source, by simp [rowsOf, alone, hconnect, hrows],
        by simp [failureOf?, alone, hconnect, hrows], hgone⟩

/-- What the databases of two ports in one LAG hold. -/
def contentsOfTwo (kind : DatabaseKind) : Std.TreeMap String Hash :=
  (((Stores.lagOfTwo "400" "100").database? kind).map (·.hashes)).getD ∅

theorem run_whole_or_blamed_of_state_gone :
    ∃ report, (⟨fun _ => .ok (.holding contentsOfTwo (· != .state)), []⟩ : Platform).run
        ⟨.fec, .all⟩ (fun _ _ => false) [.host] = .ok report ∧
      (report.failures = [] ∨ report.rows = [] ∧ ∃ source,
        report.failures = [⟨.host, .query "default" source⟩] ∧ source.database = "STATE_DB") := by
  have hrows : ((Stores.holding contentsOfTwo fun _ => true).report .host [] ⟨.fec, .all⟩
      fun _ _ => false).rows = .ok [["Ethernet0", "N/A", "N/A"], ["Ethernet4", "N/A", "N/A"]] := by
    cbv
  have hfit : (Stores.holding contentsOfTwo fun _ => true).SumsFit [] :=
    Stores.sumsFit_of_report (by rw [hrows]; simp)
  obtain ⟨rows, -, hpart⟩ := run_whole_or_blamed [] ⟨.fec, .all⟩ (fun _ _ => false) .host
    contentsOfTwo (· != .state) hfit
  obtain ⟨report, hrun, ⟨-, hfailures⟩ | ⟨source, hnone, hfailures, kind, -, hname, hgone⟩⟩ :=
    hpart (fun _ => .ok (.holding contentsOfTwo (· != .state))) rfl
  · exact ⟨report, hrun, .inl hfailures⟩
  · have hkind : kind = .state := by simpa using hgone
    subst hkind
    exact ⟨report, hrun, .inr ⟨hnone, source, hfailures, hname⟩⟩

end Platform

end InterfaceReport
