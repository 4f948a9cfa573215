import Mathlib
import InterfaceReport.Proofs.Cell.LagSpeed
import InterfaceReport.Report.Rows

/-! The rows of one namespace: they are the rows of the interfaces shown, read one after the other,
and the ways in which their reading ends. -/

namespace InterfaceReport

open Steps

namespace CellSource

variable (r : CellSource) (query : Query) (hides : Hides)

/-- An interface that passes the filter and is not hidden. -/
def shows (interface : Interface) : Bool :=
  query.filter.admits interface.name && !hides r.catalog interface

theorem rows_list (interfaces : List Interface) :
    (r.list query hides interfaces).rows =
      (interfaces.filter (r.shows query hides)).mapM (r.row query) := by
  induction interfaces with
  | nil => rfl
  | cons interface rest ih =>
    unfold list
    by_cases hadmits : query.filter.admits interface.name
    · by_cases hhides : hides r.catalog interface
      · simpa [shows, hadmits, hhides] using ih
      · have hshows : r.shows query hides interface := by simp [shows, hadmits, hhides]
        rw [List.filter_cons_of_pos hshows, List.mapM_cons, ← ih]
        cases hrow : r.row query interface with
        | error e => simp [hadmits, hhides]
        | ok row =>
          cases hrest : (r.list query hides rest).rows with
          | error e => simp [hadmits, hhides, hrest, Except.map]
          | ok rows => simp [hadmits, hhides, hrest, Except.map]
    · simpa [shows, hadmits] using ih

/-- The display is asked about every interface that passes the filter, if no row fails. -/
theorem asked_list {interfaces : List Interface} {rows : List Row}
    (h : (r.list query hides interfaces).rows = .ok rows) :
    (r.list query hides interfaces).asked =
      interfaces.filter fun interface => query.filter.admits interface.name := by
  induction interfaces generalizing rows with
  | nil => rfl
  | cons interface rest ih =>
    unfold list at h ⊢
    by_cases hadmits : query.filter.admits interface.name
    · by_cases hhides : hides r.catalog interface
      · simp only [hadmits, hhides, Bool.not_true, Bool.false_eq_true, if_false, if_true] at h ⊢
        simp [hadmits, ih h]
      · simp only [hadmits, hhides, Bool.not_true, Bool.false_eq_true, if_false] at h ⊢
        cases hrow : r.row query interface with
        | error e =>
          rw [hrow] at h
          cases h
        | ok row =>
          rw [hrow] at h
          cases hrest : (r.list query hides rest).rows with
          | error e =>
            simp only [hrest] at h
            cases h
          | ok rows' => simp [hadmits, ih hrest]
    · simp only [hadmits, Bool.not_false, if_true] at h ⊢
      simp [hadmits, ih h]

/-- A listing looks at the catalog to hide interfaces, and at the cells of the others. -/
theorem list_congr {r r' : CellSource} (hcell : r'.cell = r.cell) {hides : Hides}
    (hhides : hides r'.catalog = hides r.catalog) (query : Query) (interfaces : List Interface) :
    r'.list query hides interfaces = r.list query hides interfaces := by
  induction interfaces with
  | nil => rfl
  | cons interface rest ih => simp only [list, row, ih, hhides, hcell]

theorem rows_rows (ns : Namespace) :
    (r.rows ns query hides).rows = (do
      let interfaces ← r.candidates ns query
      (interfaces.filter (r.shows query hides)).mapM (r.row query)) := by
  unfold rows
  cases r.candidates ns query with
  | error e => rfl
  | ok interfaces => exact r.rows_list query hides interfaces

end CellSource

theorem Catalog.ofStores_eq_ok_iff {ns : Namespace} {stores : Stores} {catalog : Catalog} :
    Catalog.ofStores ns stores = .ok catalog ↔
      ∃ tables, Tables.read stores.config = .ok tables ∧ Catalog.ofTables tables = catalog := by
  unfold ofStores
  cases Tables.read stores.config <;> simp

theorem Catalog.ofStores_eq_error_iff {ns : Namespace} {stores : Stores} {e : Error} :
    Catalog.ofStores ns stores = .error e ↔
      ∃ source, Tables.read stores.config = .error source ∧ .catalogBuild ns.label source = e := by
  unfold ofStores
  cases Tables.read stores.config <;> simp

namespace Stores

variable {stores : Stores} {ns : Namespace} {copperPorts : List String} {query : Query}
  {hides : Hides}

/-- The speeds of each LAG's members, where they can be read, add up to a speed. -/
def SumsFit (stores : Stores) (copperPorts : List String) : Prop :=
  ∀ tables, Tables.read stores.config = .ok tables →
    LagSpeeds.Fit stores (Catalog.ofTables tables) copperPorts

theorem rows_report : (stores.report ns copperPorts query hides).rows = (do
    let catalog ← Catalog.ofStores ns stores
    let lagSpeeds ← (LagSpeeds.compute stores catalog copperPorts).mapError (·.toError ns)
    let r : CellSource := { stores, catalog, lagSpeeds, copperPorts }
    (r.rows ns query hides).rows.mapError (.query ns.label)) := by
  simp only [report]
  cases Catalog.ofStores ns stores with
  | error e => rfl
  | ok catalog =>
    simp only [ok_bind]
    cases (LagSpeeds.compute stores catalog copperPorts).mapError (·.toError ns) with
    | error e => rfl
    | ok lagSpeeds => rfl

/-- Sums that are out of bounds are found before any row is read. -/
theorem report_eq_overflow_iff :
    (stores.report ns copperPorts query hides).rows = .error .speedOverflow ↔
      ¬ stores.SumsFit copperPorts := by
  rw [rows_report]
  constructor
  · intro h hfit
    rcases bind_eq_error_iff.1 h with h | ⟨catalog, hcatalog, h⟩
    · obtain ⟨_, -, he⟩ := Catalog.ofStores_eq_error_iff.1 h
      cases he
    rcases bind_eq_error_iff.1 h with h | ⟨lagSpeeds, -, h⟩
    · obtain ⟨fault, hfault, he⟩ := mapError_eq_error_iff.1 h
      cases fault with
      | store source => cases he
      | overflow =>
        obtain ⟨tables, htables, rfl⟩ := Catalog.ofStores_eq_ok_iff.1 hcatalog
        exact LagSpeeds.compute_eq_overflow_iff.1 hfault (hfit tables htables)
    · obtain ⟨_, -, he⟩ := mapError_eq_error_iff.1 h
      cases he
  · intro h
    simp only [SumsFit, not_forall] at h
    obtain ⟨tables, htables, hfit⟩ := h
    rw [Catalog.ofStores_eq_ok_iff.2 ⟨tables, htables, rfl⟩, ok_bind,
      LagSpeeds.compute_eq_overflow_iff.2 hfit]
    rfl

theorem sumsFit_of_report
    (h : (stores.report ns copperPorts query hides).rows ≠ .error .speedOverflow) :
    stores.SumsFit copperPorts := by
  by_contra hfit
  exact h (report_eq_overflow_iff.2 hfit)

/-- A namespace that fails otherwise is left out of a run and does not end it. -/
theorem endsRun_of_report_eq_error (hfit : stores.SumsFit copperPorts) {e : Error}
    (h : (stores.report ns copperPorts query hides).rows = .error e) : e.endsRun = false := by
  have hrows := h
  rw [rows_report] at hrows
  rcases bind_eq_error_iff.1 hrows with hrows | ⟨catalog, -, hrows⟩
  · obtain ⟨_, -, rfl⟩ := Catalog.ofStores_eq_error_iff.1 hrows
    rfl
  rcases bind_eq_error_iff.1 hrows with hrows | ⟨lagSpeeds, -, hrows⟩
  · obtain ⟨fault, -, rfl⟩ := mapError_eq_error_iff.1 hrows
    cases fault with
    | store source => rfl
    | overflow => exact absurd hfit (report_eq_overflow_iff.1 h)
  · obtain ⟨_, -, rfl⟩ := mapError_eq_error_iff.1 hrows
    rfl

/-! ### An example -/

/-- Two ports in one LAG, with the speeds that the daemons publish for them. -/
def lagOfTwo (first second : String) : Stores where
  config := [("PORT", "Ethernet0"), ("PORT", "Ethernet4"),
    ("PORTCHANNEL_MEMBER", "PortChannel1|Ethernet0"),
    ("PORTCHANNEL_MEMBER", "PortChannel1|Ethernet4")].foldl
      (fun db (table, key) => db.putEntry table key []) (.empty .config)
  appl := [("Ethernet0", first), ("Ethernet4", second)].foldl
    (fun db (port, speed) => db.putEntry "PORT_TABLE" port [("speed", speed)]) (.empty .appl)
  state := .empty .state

theorem available_lagOfTwo (first second : String) : (lagOfTwo first second).Available :=
  ⟨rfl, rfl, rfl⟩

theorem sumsFit_lagOfTwo : (lagOfTwo "400" "100").SumsFit [] := by
  have h : ((lagOfTwo "400" "100").report .host [] ⟨.fec, .all⟩ fun _ _ => false).rows =
      .ok [["Ethernet0", "N/A", "N/A"], ["Ethernet4", "N/A", "N/A"]] := by
    cbv
  exact sumsFit_of_report (by rw [h]; simp)

end Stores

end InterfaceReport
