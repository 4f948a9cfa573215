import InterfaceReport.Proofs.Report.Outage
import InterfaceReport.Proofs.Store.Listing

/-! The interfaces that a report lists: it goes through those that the databases list, once each and
in order, asks the display about those that pass the filter, and has a row for each of these that is
not hidden. -/

namespace InterfaceReport

open Steps

/-- The interfaces that a query goes through. -/
inductive Stores.Candidates (stores : Stores) (catalog : Catalog) (ns : Namespace)
    (query : Query) : List Interface → Prop
  | subInterfaces {names : List String} (hmode : query.filter.showsSubInterfaces = true) :
      NaturalListing
        (fun name => stores.config.Lists Schema.subInterfaces name ∧ '|' ∉ name.toList) names →
      Candidates stores catalog ns query (names.map (⟨ns, .subInterface, ·⟩))
  | portsAndLags {ports lags : List String} (hmode : query.filter.showsSubInterfaces = false) :
      NaturalListing (fun name => stores.config.Lists Schema.portConfig name ∧
        stores.appl.Lists Schema.portStatus name) ports →
      NaturalListing (fun name => (query.kind = .status ∨ query.kind = .tpid) ∧
        catalog.isLag name) lags →
      Candidates stores catalog ns query
        (ports.map (⟨ns, .port, ·⟩) ++ lags.map (⟨ns, .lag, ·⟩))

theorem Stores.Candidates.nodup {stores : Stores} {catalog : Catalog} {ns : Namespace}
    {query : Query} {candidates : List Interface}
    (h : stores.Candidates catalog ns query candidates) : candidates.Nodup := by
  have hmap : ∀ (kind : InterfaceKind) {names : List String}, names.Nodup →
      (names.map (⟨ns, kind, ·⟩ : String → Interface)).Nodup := by
    intro kind names hnames
    exact hnames.map fun a b hab => (Interface.mk.inj hab).2.2
  cases h with
  | subInterfaces _ hnames => exact hmap _ hnames.nodup
  | portsAndLags _ hports hlags =>
    refine List.nodup_append.2 ⟨hmap _ hports.nodup, hmap _ hlags.nodup, ?_⟩
    intro port hport lag hlag heq
    obtain ⟨_, -, rfl⟩ := List.mem_map.1 hport
    obtain ⟨_, -, rfl⟩ := List.mem_map.1 hlag
    cases heq

theorem ReportKind.showsLags_iff (kind : ReportKind) :
    kind.showsLags = true ↔ kind = .status ∨ kind = .tpid := by
  cases kind <;> decide

namespace CellSource

variable {r : CellSource} {query : Query}

theorem knownPorts_listing {tables : Tables} {ports : List String}
    (htables : Tables.read r.stores.config = .ok tables)
    (hcatalog : Catalog.ofTables tables = r.catalog) (h : r.knownPorts = .ok ports) :
    NaturalListing (fun name => r.stores.config.Lists Schema.portConfig name ∧
      r.stores.appl.Lists Schema.portStatus name) ports := by
  obtain ⟨known, hknown, h⟩ := bind_eq_ok_iff.1 h
  cases h
  rw [← hcatalog]
  refine ((Catalog.portNames_listing htables).filter _).congr fun name => ?_
  rw [Database.lists_iff hknown, List.contains_iff_mem]

theorem candidates_spec {ns : Namespace} {tables : Tables} {interfaces : List Interface}
    (htables : Tables.read r.stores.config = .ok tables)
    (hcatalog : Catalog.ofTables tables = r.catalog)
    (h : r.candidates ns query = .ok interfaces) :
    r.stores.Candidates r.catalog ns query interfaces := by
  cases hmode : query.filter.showsSubInterfaces with
  | true =>
    rw [candidates, if_pos hmode] at h
    cases h
    refine .subInterfaces hmode ?_
    rw [← hcatalog]
    exact Catalog.subInterfaces_listing htables
  | false =>
    rw [candidates, if_neg (by simp [hmode])] at h
    obtain ⟨ports, hports, h⟩ := bind_eq_ok_iff.1 h
    cases h
    refine .portsAndLags hmode (knownPorts_listing htables hcatalog hports) ?_
    by_cases hlags : query.kind.showsLags
    · rw [if_pos hlags]
      refine (Catalog.lagNames_listing r.catalog).congr fun name => ?_
      simp [(ReportKind.showsLags_iff _).1 hlags]
    · rw [if_neg hlags]
      refine ⟨fun name => ?_, List.Pairwise.nil⟩
      simp [← ReportKind.showsLags_iff, hlags]

/-- A row has the name and one cell for each column. -/
theorem row_eq_ok_iff {interface : Interface} {row : Row} :
    r.row query interface = .ok row ↔ ∃ cells, row = interface.name :: cells ∧
      List.Forall₂ (fun column cell =>
        r.cell interface.kind interface.name column.content = .ok cell) query.columns cells := by
  simp only [CellSource.row, bind_eq_ok_iff, mapM_eq_ok_iff, pure_eq_ok, Except.ok.injEq]
  constructor
  · rintro ⟨cells, hcells, rfl⟩
    exact ⟨cells, rfl, hcells⟩
  · rintro ⟨cells, rfl, hcells⟩
    exact ⟨cells, hcells, rfl⟩

theorem length_row {interface : Interface} {row : Row} (h : r.row query interface = .ok row) :
    row.length = query.header.length := by
  obtain ⟨cells, rfl, hcells⟩ := row_eq_ok_iff.1 h
  simp [Query.header, hcells.length_eq]

end CellSource

/-! ### Without a filter -/

namespace Query

/-- The query for the same report on every interface. -/
def unfiltered (query : Query) : Query :=
  { query with filter := if query.filter.showsSubInterfaces then .subInterfaces else .all }

variable (query : Query)

@[simp] theorem showsSubInterfaces_unfiltered :
    query.unfiltered.filter.showsSubInterfaces = query.filter.showsSubInterfaces := by
  unfold unfiltered
  cases query.filter.showsSubInterfaces <;> rfl

@[simp] theorem admits_unfiltered (name : String) : query.unfiltered.filter.admits name = true := by
  unfold unfiltered
  cases query.filter.showsSubInterfaces <;> rfl

@[simp] theorem columns_unfiltered : query.unfiltered.columns = query.columns := by
  simp only [columns, showsSubInterfaces_unfiltered]
  rfl

end Query

namespace CellSource

variable (r : CellSource) (query : Query)

theorem candidates_unfiltered (ns : Namespace) :
    r.candidates ns query.unfiltered = r.candidates ns query := by
  simp only [candidates, Query.showsSubInterfaces_unfiltered]
  rfl

theorem row_unfiltered (interface : Interface) :
    r.row query.unfiltered interface = r.row query interface := by
  simp only [row, Query.columns_unfiltered]

variable {r query}

/-- The rows of a query are among those of the query on every interface. -/
theorem rows_of_unfiltered {hides : Hides} {candidates : List Interface} {rows all : List Row}
    (hrows : (candidates.filter (r.shows query hides)).mapM (r.row query) = .ok rows)
    (hall : (candidates.filter (r.shows query.unfiltered fun _ _ => false)).mapM
      (r.row query.unfiltered) = .ok all) :
    rows = ((candidates.zip all).filter fun (interface, _) =>
      r.shows query hides interface).map (·.2) := by
  have hshown : candidates.filter (r.shows query.unfiltered fun _ _ => false) = candidates :=
    List.filter_eq_self.2 fun interface _ => by simp [shows]
  rw [hshown, funext (r.row_unfiltered query)] at hall
  have hpart := mapM_filter_of_mapM hall (r.shows query hides)
  rw [hrows] at hpart
  exact Except.ok.inj hpart

end CellSource

namespace Stores

variable {stores : Stores} {ns : Namespace} {copperPorts : List String} {query : Query}
  {hides : Hides}

/-- What a report that succeeds has read, and what it was asked. -/
theorem report_eq_ok {rows : List Row}
    (h : (stores.report ns copperPorts query hides).rows = .ok rows) :
    ∃ tables lagSpeeds interfaces, Tables.read stores.config = .ok tables ∧
      LagSpeeds.compute stores (Catalog.ofTables tables) copperPorts = .ok lagSpeeds ∧
      let r : CellSource := ⟨stores, Catalog.ofTables tables, lagSpeeds, copperPorts⟩
      r.candidates ns query = .ok interfaces ∧
      (stores.report ns copperPorts query hides).asked =
        interfaces.filter (query.filter.admits ·.name) ∧
      (interfaces.filter (r.shows query hides)).mapM (r.row query) = .ok rows := by
  have hrows := h
  rw [rows_report] at hrows
  obtain ⟨catalog, hcatalog, hrows⟩ := bind_eq_ok_iff.1 hrows
  obtain ⟨lagSpeeds, hspeeds, hrows⟩ := bind_eq_ok_iff.1 hrows
  obtain ⟨tables, htables, rfl⟩ := Catalog.ofStores_eq_ok_iff.1 hcatalog
  have hlisting := mapError_eq_ok_iff.1 hrows
  have hlisted := hlisting
  rw [CellSource.rows_rows] at hlisted
  obtain ⟨interfaces, hinterfaces, hlisted⟩ := bind_eq_ok_iff.1 hlisted
  refine ⟨tables, lagSpeeds, interfaces, htables, mapError_eq_ok_iff.1 hspeeds, hinterfaces, ?_,
    hlisted⟩
  rw [← CellSource.rows_list] at hlisted
  have hasked := CellSource.asked_list _ query hides hlisted
  rw [← hasked, report, hcatalog]
  simp only [ok_bind, hspeeds, pure_eq_ok, CellSource.rows, hinterfaces]

/-- Nothing is refused, so every read succeeds. -/
theorem exists_report_of_available (havailable : stores.Available)
    (hfit : stores.SumsFit copperPorts) :
    ∃ rows, (stores.report ns copperPorts query hides).rows = .ok rows := by
  have hstores := restored_of_available havailable
  have h := stores.agrees_report ns copperPorts query hides (by rwa [hstores])
  rw [hstores] at h
  exact h.exists_ok

/-- A report goes through the interfaces that the databases list, asks the display about each that
passes the filter, and has one row for each of these that is not hidden. Its rows are those of the
report on every interface, without the rows that the filter or the display leaves out. -/
theorem report_lists_exactly (stores : Stores) (ns : Namespace) (copperPorts : List String)
    (query : Query) (hides : Hides) :
    (stores.Available → stores.SumsFit copperPorts →
      ∃ rows, (stores.report ns copperPorts query hides).rows = .ok rows) ∧
    ∀ rows, (stores.report ns copperPorts query hides).rows = .ok rows →
      ∃ catalog lagSpeeds candidates asked,
        Catalog.ofStores ns stores = .ok catalog ∧
        LagSpeeds.compute stores catalog copperPorts = .ok lagSpeeds ∧
        stores.Candidates catalog ns query candidates ∧
        asked = candidates.filter (query.filter.admits ·.name) ∧ asked.Nodup ∧
        (stores.report ns copperPorts query hides).asked = asked ∧
        List.Forall₂ (fun interface row => row.length = query.header.length ∧
          ∃ cells, row = interface.name :: cells ∧
            List.Forall₂ (fun column cell =>
              CellSource.cell ⟨stores, catalog, lagSpeeds, copperPorts⟩ interface.kind
                interface.name column.content = .ok cell) query.columns cells)
          (asked.filter (!hides catalog ·)) rows ∧
        ∀ all, (stores.report ns copperPorts query.unfiltered fun _ _ => false).rows = .ok all →
          (stores.report ns copperPorts query.unfiltered fun _ _ => false).asked = candidates ∧
          rows = ((candidates.zip all).filter fun (interface, _) =>
            query.filter.admits interface.name && !hides catalog interface).map (·.2) := by
  refine ⟨exists_report_of_available, ?_⟩
  intro rows h
  obtain ⟨tables, lagSpeeds, candidates, htables, hspeeds, hcandidates, hasked, hrows⟩ :=
    report_eq_ok h
  have hspec : stores.Candidates (Catalog.ofTables tables) ns query candidates :=
    CellSource.candidates_spec htables rfl hcandidates
  refine ⟨Catalog.ofTables tables, lagSpeeds, candidates, _,
    Catalog.ofStores_eq_ok_iff.2 ⟨tables, htables, rfl⟩, hspeeds, hspec, rfl,
    hspec.nodup.filter _, hasked, ?_, ?_⟩
  · have hshown : (candidates.filter (query.filter.admits ·.name)).filter
        (!hides (Catalog.ofTables tables) ·) = candidates.filter
          (CellSource.shows ⟨stores, Catalog.ofTables tables, lagSpeeds, copperPorts⟩ query hides) := by
      rw [List.filter_filter]
      exact List.filter_congr fun interface _ => Bool.and_comm ..
    rw [hshown]
    refine (mapM_eq_ok_iff.1 hrows).imp fun interface row hrow => ?_
    exact ⟨CellSource.length_row hrow, CellSource.row_eq_ok_iff.1 hrow⟩
  · intro all hall
    obtain ⟨tables', lagSpeeds', interfaces, htables', hspeeds', hinterfaces, haskedAll, hrowsAll⟩ :=
      report_eq_ok hall
    obtain rfl : tables = tables' := Except.ok.inj (htables.symm.trans htables')
    obtain rfl : lagSpeeds = lagSpeeds' := Except.ok.inj (hspeeds.symm.trans hspeeds')
    rw [CellSource.candidates_unfiltered] at hinterfaces
    obtain rfl : candidates = interfaces := Except.ok.inj (hcandidates.symm.trans hinterfaces)
    constructor
    · simpa using haskedAll
    · exact CellSource.rows_of_unfiltered hrows hrowsAll

theorem report_lists_exactly_lagOfTwo :
    let report := (lagOfTwo "400" "100").report .host [] ⟨.tpid, .all⟩ fun _ _ => false
    ∃ rows, report.rows = .ok rows ∧ report.asked.Nodup ∧ rows.length = report.asked.length := by
  intro report
  obtain ⟨hexists, hlists⟩ :=
    report_lists_exactly (lagOfTwo "400" "100") .host [] ⟨.tpid, .all⟩ fun _ _ => false
  obtain ⟨rows, hrows⟩ := hexists (available_lagOfTwo "400" "100") sumsFit_lagOfTwo
  obtain ⟨catalog, lagSpeeds, candidates, asked, -, -, -, -, hnodup, hasked, hall, -⟩ :=
    hlists rows hrows
  refine ⟨rows, hrows, ?_, ?_⟩
  · rw [hasked]
    exact hnodup
  · rw [hasked, ← hall.length_eq]
    simp

end Stores

end InterfaceReport
