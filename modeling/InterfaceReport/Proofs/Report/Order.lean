import InterfaceReport.Proofs.Catalog.Order
import InterfaceReport.Proofs.Report.Rows

/-! Reports do not depend on the order in which servers answer: the catalog tells the same for every
order of the configured tables, and all that a report takes from a listing of the daemons is whether
a port is in it. -/

namespace InterfaceReport

open Steps

/-! ### Reports from given answers -/

namespace CellSource

/-- The interfaces that a report goes through where the daemons list `known`. -/
def candidatesAmong (r : CellSource) (known : List String) (ns : Namespace) (query : Query) :
    List Interface :=
  if query.filter.showsSubInterfaces then r.catalog.subInterfaces.map (⟨ns, .subInterface, ·⟩)
  else (r.catalog.portNames.filter known.contains).map (⟨ns, .port, ·⟩) ++
    (if query.kind.showsLags then r.catalog.lagNames else []).map (⟨ns, .lag, ·⟩)

theorem candidates_eq (r : CellSource) (available : r.stores.appl.outage = none) (ns : Namespace)
    (query : Query) : r.candidates ns query = .ok (r.candidatesAmong
      (r.stores.appl.answers.entryKeys r.stores.appl.kind Schema.portStatus) ns query) := by
  rw [candidates, candidatesAmong, knownPorts, Database.entryKeys_eq available]
  split <;> rfl

end CellSource

namespace Stores

variable (stores : Stores) (config appl : Answers) (ns : Namespace) (copperPorts : List String)
  (query : Query) (hides : Hides)

/-- The report where servers list keys and whole entries as `config` and `appl` say. Single fields
are read from `stores`. -/
def reportFrom : Listing Error :=
  let catalog := Catalog.ofTables (config.tables stores.config.kind)
  match LagSpeeds.compute stores catalog copperPorts with
  | .error fault => ⟨[], .error (fault.toError ns)⟩
  | .ok lagSpeeds =>
    let r : CellSource := { stores, catalog, lagSpeeds, copperPorts }
    let known := appl.entryKeys stores.appl.kind Schema.portStatus
    let listing := r.list query hides (r.candidatesAmong known ns query)
    ⟨listing.asked, listing.rows.mapError (.query ns.label)⟩

variable {stores}

/-- A report is made from what its own databases answer. -/
theorem report_eq_reportFrom (hconfig : stores.config.outage = none)
    (happl : stores.appl.outage = none) : stores.report ns copperPorts query hides =
      stores.reportFrom stores.config.answers stores.appl.answers ns copperPorts query hides := by
  have hcatalog : Catalog.ofStores ns stores =
      .ok (Catalog.ofTables (stores.config.answers.tables stores.config.kind)) :=
    Catalog.ofStores_eq_ok_iff.2 ⟨_, Database.read_eq hconfig, rfl⟩
  rw [report, hcatalog, reportFrom]
  simp only [ok_bind]
  cases LagSpeeds.compute stores _ copperPorts with
  | error fault => rfl
  | ok lagSpeeds =>
    simp only [mapError_ok, ok_bind, pure_eq_ok]
    rw [CellSource.rows, CellSource.candidates_eq _ happl]

end Stores

/-! ### Catalogs that tell the same -/

namespace CellSource

variable {stores : Stores} {lagSpeeds : LagSpeeds} {copperPorts : List String} {c c' : Catalog}
  (h : c.Agrees c')
include h

/-- The catalog decides on the origin of a cell, and plays no part in reading it. -/
theorem cell_of_agrees : cell ⟨stores, c, lagSpeeds, copperPorts⟩ =
    cell ⟨stores, c', lagSpeeds, copperPorts⟩ := by
  have horigin : c.origin = c'.origin :=
    Catalog.origin_congr (funext h.isPort) (funext h.isLag) (funext h.lagOf?) (funext h.switchMode)
  have hread : read ⟨stores, c, lagSpeeds, copperPorts⟩ =
      read ⟨stores, c', lagSpeeds, copperPorts⟩ := by
    funext o
    cases o <;> rfl
  funext kind name a
  rw [cell_eq, cell_eq, hread, horigin]

theorem list_of_agrees (query : Query) {hides : Hides} (hhides : hides c = hides c')
    (interfaces : List Interface) :
    list ⟨stores, c, lagSpeeds, copperPorts⟩ query hides interfaces =
      list ⟨stores, c', lagSpeeds, copperPorts⟩ query hides interfaces :=
  list_congr (cell_of_agrees h) hhides query interfaces

/-- Only whether a port is known counts, and not where it stands among the known ones. -/
theorem candidatesAmong_of_agrees {known known' : List String} (hknown : known.Perm known')
    (ns : Namespace) (query : Query) :
    candidatesAmong ⟨stores, c, lagSpeeds, copperPorts⟩ known ns query =
      candidatesAmong ⟨stores, c', lagSpeeds, copperPorts⟩ known' ns query := by
  have hcontains : known.contains = known'.contains := funext fun _ => hknown.contains_eq
  rw [candidatesAmong, candidatesAmong, hcontains]
  simp only [h.subInterfaces, h.portNames, h.lagNames]

end CellSource

theorem LagSpeeds.compute_of_agrees (stores : Stores) {c c' : Catalog} (h : c.Agrees c')
    (copperPorts : List String) :
    compute stores c copperPorts = compute stores c' copperPorts := by
  have hspeed : ∀ lag, speedOf stores c copperPorts lag = speedOf stores c' copperPorts lag := by
    intro lag
    rw [speedOf, speedOf, h.members]
  rw [compute, compute, h.lagNames, funext hspeed]

/-! ### Any order of answers -/

namespace Catalog

/-- The display decides by what the catalog tells and not by how it is laid out. -/
def Respects (hides : Hides) : Prop := ∀ c c' : Catalog, c.Agrees c' → hides c = hides c'

theorem respects_hides (mode : DisplayMode) : Respects mode.hides := by
  intro c c' h
  funext interface
  cases mode with
  | all => rfl
  | frontend =>
    simp only [DisplayMode.hides, h.isInternalPort, h.isInternalLag]

end Catalog

namespace Stores

/-- Catalogs made from tables that were enumerated in different orders give the same answers to all
that can be asked of them, and a report is the same in whatever order the servers list keys and the
fields of entries. -/
theorem report_independent_of_order :
    (∀ t t' : Tables, t.Reordered t' → (Catalog.ofTables t).Agrees (Catalog.ofTables t')) ∧
    ∀ (stores : Stores) (config appl : Answers) (ns : Namespace) (copperPorts : List String)
      (query : Query) (hides : Hides),
      stores.config.outage = none → stores.appl.outage = none →
      config.Reorders stores.config.answers → appl.Reorders stores.appl.answers →
      Catalog.Respects hides →
      stores.reportFrom config appl ns copperPorts query hides =
        stores.report ns copperPorts query hides := by
  refine ⟨fun _ _ => Catalog.agrees_of_reordered, ?_⟩
  intro stores config appl ns copperPorts query hides hconfig happl hconfigOrder happlOrder hhides
  have hagrees := Catalog.agrees_of_reordered (Database.tables_reordered hconfig hconfigOrder)
  have hknown := happlOrder.entryKeys stores.appl.kind Schema.portStatus
  rw [report_eq_reportFrom ns copperPorts query hides hconfig happl, reportFrom, reportFrom,
    LagSpeeds.compute_of_agrees stores hagrees]
  cases LagSpeeds.compute stores _ copperPorts with
  | error fault => rfl
  | ok lagSpeeds =>
    simp only [CellSource.candidatesAmong_of_agrees hagrees hknown,
      CellSource.list_of_agrees hagrees query (hhides _ _ hagrees)]

theorem report_independent_of_order_reversed :
    let stores := lagOfTwo "400" "100"
    let config := stores.config.answers.reversed
    let appl := stores.appl.answers.reversed
    (Catalog.ofTables (config.tables .config)).Agrees
      (Catalog.ofTables (stores.config.answers.tables .config)) ∧
    stores.reportFrom config appl .host [] ⟨.status, .all⟩ DisplayMode.frontend.hides =
      stores.report .host [] ⟨.status, .all⟩ DisplayMode.frontend.hides := by
  intro stores config appl
  obtain ⟨hcatalogs, hreports⟩ := report_independent_of_order
  have hconfig : config.Reorders stores.config.answers := stores.config.answers.reversed_reorders
  have happl : appl.Reorders stores.appl.answers := stores.appl.answers.reversed_reorders
  have hread : stores.config.outage = none := rfl
  refine ⟨hcatalogs _ _ (Database.tables_reordered hread hconfig), ?_⟩
  exact hreports stores config appl .host [] ⟨.status, .all⟩ _ rfl rfl hconfig happl
    (Catalog.respects_hides .frontend)

end Stores

end InterfaceReport
