import InterfaceReport.Proofs.Cell.Locality
import InterfaceReport.Proofs.Report.Listing
import InterfaceReport.Proofs.Report.Order

/-! A row depends on what is told of its own interface: what the daemons and the hardware tell of a
port reaches the rows that it concerns, and all others stay as they are and in their order. -/

namespace InterfaceReport

open Steps

namespace CellSource

/-- Which interfaces a report goes through depends on a port in that the port itself may be one. -/
theorem filter_candidatesAmong {r r' : CellSource} (hcatalog : r'.catalog = r.catalog)
    {known known' : List String} {port : String}
    (hknown : ∀ name ≠ port, (name ∈ known' ↔ name ∈ known)) (ns : Namespace) (query : Query)
    {p : Interface → Bool} (hp : p ⟨ns, .port, port⟩ = false) :
    (r'.candidatesAmong known' ns query).filter p = (r.candidatesAmong known ns query).filter p := by
  rw [candidatesAmong, candidatesAmong, hcatalog]
  split
  · rfl
  · simp only [List.filter_append, List.filter_map, List.filter_filter]
    congr 2
    apply List.filter_congr
    intro name _
    by_cases hname : name = port
    · rw [Function.comp_apply, hname, hp, Bool.false_and, Bool.false_and]
    · rw [Bool.eq_iff_iff, Bool.and_eq_true, Bool.and_eq_true, List.contains_iff_mem,
        List.contains_iff_mem, hknown name hname]

theorem head?_row {r : CellSource} {query : Query} {interface : Interface} {row : Row}
    (h : r.row query interface = .ok row) : row.head? = some interface.name := by
  obtain ⟨cells, rfl, -⟩ := row_eq_ok_iff.1 h
  rfl

/-- A row that is not concerned is what it was. -/
theorem SameBut.row {port : String} {before after : CellSource} (h : before.SameBut port after)
    (query : Query) {interface : Interface}
    (hinterface : before.catalog.concerns port interface.kind interface.name = false) :
    after.row query interface = before.row query interface := by
  simp only [CellSource.row, h.cell hinterface]

end CellSource

/-- The interfaces that a listing has rows for. -/
def Listing.shown {ε : Type} (listing : Listing ε) (catalog : Catalog) (hides : Hides) :
    List Interface :=
  listing.asked.filter (!hides catalog ·)

/-- The reports have the rows `rows` and `rows'`, one for each interface shown. The rows that `port`
does not concern are the same in both and in the same order, and no row but that of the port is in
one report only. -/
structure Listing.AgreesBut (ns : Namespace) (port : String) (catalog : Catalog) (hides : Hides)
    (before after : Listing Error) (rows rows' : List Row) : Prop where
  rows_before : before.rows = .ok rows
  rows_after : after.rows = .ok rows'
  names_before : List.Forall₂ (fun interface row => row.head? = some interface.name)
    (before.shown catalog hides) rows
  names_after : List.Forall₂ (fun interface row => row.head? = some interface.name)
    (after.shown catalog hides) rows'
  interfaces : (after.shown catalog hides).filter (· != ⟨ns, .port, port⟩) =
    (before.shown catalog hides).filter (· != ⟨ns, .port, port⟩)
  rows : ((after.shown catalog hides).zip rows').filter
      (fun (interface, _) => !catalog.concerns port interface.kind interface.name) =
    ((before.shown catalog hides).zip rows).filter
      (fun (interface, _) => !catalog.concerns port interface.kind interface.name)

namespace Stores

variable {stores : Stores} {ns : Namespace} {copperPorts : List String} {query : Query}
  {hides : Hides}

/-- What a report that succeeds has read from databases that refuse nothing: it has a row for each
interface shown. -/
theorem report_eq_ok_of_available (happl : stores.appl.outage = none) {rows : List Row}
    (h : (stores.report ns copperPorts query hides).rows = .ok rows) :
    ∃ tables lagSpeeds, Tables.read stores.config = .ok tables ∧
      LagSpeeds.compute stores (Catalog.ofTables tables) copperPorts = .ok lagSpeeds ∧
      let r : CellSource := ⟨stores, Catalog.ofTables tables, lagSpeeds, copperPorts⟩
      let interfaces := r.candidatesAmong
        (stores.appl.answers.entryKeys stores.appl.kind Schema.portStatus) ns query
      (stores.report ns copperPorts query hides).shown r.catalog hides =
        interfaces.filter (r.shows query hides) ∧
      (interfaces.filter (r.shows query hides)).mapM (r.row query) = .ok rows := by
  obtain ⟨tables, lagSpeeds, interfaces, htables, hspeeds, hinterfaces, hasked, hrows⟩ :=
    report_eq_ok h
  rw [CellSource.candidates_eq _ happl] at hinterfaces
  cases hinterfaces
  refine ⟨tables, lagSpeeds, htables, hspeeds, ?_, hrows⟩
  rw [Listing.shown, hasked, List.filter_filter]
  apply List.filter_congr
  intro interface _
  exact Bool.and_comm ..

/-- Where only what is told of a port differs, and no sum of speeds overflows, reports differ at
most in the rows that the port concerns. -/
theorem report_of_sameBut {before after : Stores} {port : String}
    (hsame : before.SameBut port after) (havailable : before.Available)
    (hfit : before.SumsFit copperPorts) (hfit' : after.SumsFit copperPorts) :
    ∃ catalog rows rows', Catalog.ofStores ns before = .ok catalog ∧
      Catalog.ofStores ns after = .ok catalog ∧
      Listing.AgreesBut ns port catalog hides (before.report ns copperPorts query hides)
        (after.report ns copperPorts query hides) rows rows' := by
  have havailable' := hsame.available havailable
  obtain ⟨rows, hreport⟩ : ∃ rows, (before.report ns copperPorts query hides).rows = .ok rows :=
    exists_report_of_available havailable hfit
  obtain ⟨rows', hreport'⟩ : ∃ rows, (after.report ns copperPorts query hides).rows = .ok rows :=
    exists_report_of_available havailable' hfit'
  obtain ⟨tables, lagSpeeds, htables, hspeeds, hshown, hrows⟩ :=
    report_eq_ok_of_available havailable.appl hreport
  obtain ⟨tables', lagSpeeds', htables', hspeeds', hshown', hrows'⟩ :=
    report_eq_ok_of_available havailable'.appl hreport'
  obtain rfl : tables = tables' :=
    Except.ok.inj (htables.symm.trans (hsame.config ▸ htables'))
  have hcells : CellSource.SameBut port ⟨before, Catalog.ofTables tables, lagSpeeds, copperPorts⟩
      ⟨after, Catalog.ofTables tables, lagSpeeds', copperPorts⟩ :=
    ⟨hsame, rfl, rfl, fun _ hlag => LagSpeeds.get?_of_not_mem hsame hspeeds hspeeds' hlag⟩
  refine ⟨Catalog.ofTables tables, rows, rows',
    Catalog.ofStores_eq_ok_iff.2 ⟨tables, htables, rfl⟩,
    Catalog.ofStores_eq_ok_iff.2 ⟨tables, htables', rfl⟩, ?_⟩
  have hothers : ∀ p : Interface → Bool, p ⟨ns, .port, port⟩ = false →
      ((after.report ns copperPorts query hides).shown (Catalog.ofTables tables) hides).filter p =
        ((before.report ns copperPorts query hides).shown (Catalog.ofTables tables) hides).filter
          p := by
    intro p hp
    rw [hshown, hshown', List.filter_comm, List.filter_comm p,
      CellSource.filter_candidatesAmong hcells.catalog (fun _ => hsame.mem_entryKeys) ns query hp]
    rfl
  rw [← hshown] at hrows
  rw [← hshown'] at hrows'
  constructor
  case rows_before => exact hreport
  case rows_after => exact hreport'
  case names_before => exact (mapM_eq_ok_iff.1 hrows).imp fun _ _ => CellSource.head?_row
  case names_after => exact (mapM_eq_ok_iff.1 hrows').imp fun _ _ => CellSource.head?_row
  case interfaces => exact hothers _ (bne_self_eq_false _)
  case rows =>
    let free (interface : Interface) : Bool :=
      !(Catalog.ofTables tables).concerns port interface.kind interface.name
    have hpairs := mapM_pairs_of_mapM hrows free
    have hpairs' := mapM_pairs_of_mapM hrows' free
    rw [hothers free (by simp [free, Catalog.concerns])] at hpairs'
    apply Except.ok.inj (hpairs'.symm.trans (Eq.trans (mapM_congr ?_) hpairs))
    intro interface hinterface
    have hfree := (List.mem_filter.1 hinterface).2
    rw [Bool.not_eq_true'] at hfree
    rw [hcells.row query hfree]

/-- Writes to what is told of a port change a report, if no sum of speeds overflows, at most in the
rows that the port concerns: its own, those of the LAGs that it is a member of, and those of the
sub-interfaces of these. -/
theorem report_unchanged_elsewhere (stores : Stores) (ns : Namespace) (copperPorts : List String)
    (query : Query) (hides : Hides) (port : String) (applWrites stateWrites : List Write)
    (available : stores.Available)
    (happl : ∀ w ∈ applWrites,
      w.fullKey stores.appl.kind = stores.appl.kind.fullKey Schema.portStatus port)
    (hstate : ∀ w ∈ stateWrites,
      w.fullKey stores.state.kind = stores.state.kind.fullKey Schema.portState port ∨
      w.fullKey stores.state.kind = stores.state.kind.fullKey Schema.transceiver port) :
    let stores' : Stores :=
      ⟨stores.config, stores.appl.write applWrites, stores.state.write stateWrites⟩
    let report := stores.report ns copperPorts query hides
    let report' := stores'.report ns copperPorts query hides
    report.rows ≠ .error .speedOverflow → report'.rows ≠ .error .speedOverflow →
      ∃ catalog rows rows', Catalog.ofStores ns stores = .ok catalog ∧
        Catalog.ofStores ns stores' = .ok catalog ∧
        report.AgreesBut ns port catalog hides report' rows rows' := by
  intro stores' report report' hfit hfit'
  have hsame : stores.SameBut port stores' := by
    apply sameBut_write
    · intro w hw
      exact ⟨Schema.portStatus, by decide, happl w hw⟩
    · intro w hw
      rcases hstate w hw with hkey | hkey
      · exact ⟨Schema.portState, by decide, hkey⟩
      · exact ⟨Schema.transceiver, by decide, hkey⟩
  exact report_of_sameBut hsame available (sumsFit_of_report hfit) (sumsFit_of_report hfit')

/-- The first port of two in a LAG gets another speed and a transceiver. -/
def lagOfTwoChanged : Stores :=
  ⟨(lagOfTwo "400" "100").config,
    (lagOfTwo "400" "100").appl.write [.field "PORT_TABLE:Ethernet0" "speed" "200"],
    (lagOfTwo "400" "100").state.write
      [.entry "TRANSCEIVER_INFO" "Ethernet0" [("type", "QSFP28")]]⟩

theorem sumsFit_lagOfTwoChanged : lagOfTwoChanged.SumsFit [] := by
  have h : (lagOfTwoChanged.report .host [] ⟨.fec, .all⟩ fun _ _ => false).rows =
      .ok [["Ethernet0", "N/A", "N/A"], ["Ethernet4", "N/A", "N/A"]] := by
    cbv
  exact sumsFit_of_report (by rw [h]; simp)

theorem report_unchanged_elsewhere_lagOfTwo :
    let report := (lagOfTwo "400" "100").report .host [] ⟨.status, .all⟩ fun _ _ => false
    let report' := lagOfTwoChanged.report .host [] ⟨.status, .all⟩ fun _ _ => false
    ∃ rows rows', report.rows = .ok rows ∧ report'.rows = .ok rows' ∧
      ∀ row, (⟨.host, .port, "Ethernet4"⟩, row) ∈ report'.asked.zip rows' ↔
        (⟨.host, .port, "Ethernet4"⟩, row) ∈ report.asked.zip rows := by
  intro report report'
  obtain ⟨catalog, rows, rows', -, -, h⟩ :=
    report_unchanged_elsewhere (lagOfTwo "400" "100") .host [] ⟨.status, .all⟩
      (fun _ _ => false) "Ethernet0" [.field "PORT_TABLE:Ethernet0" "speed" "200"]
      [.entry "TRANSCEIVER_INFO" "Ethernet0" [("type", "QSFP28")]]
      (available_lagOfTwo "400" "100") (by simpa using (by decide)) (by simpa using (by decide))
      (fun h => report_eq_overflow_iff.1 h sumsFit_lagOfTwo)
      (fun h => report_eq_overflow_iff.1 h sumsFit_lagOfTwoChanged)
  refine ⟨rows, rows', h.rows_before, h.rows_after, ?_⟩
  intro row
  have hmem := congrArg (fun rows => (⟨.host, .port, "Ethernet4"⟩, row) ∈ rows) h.rows
  simp only [List.mem_filter, Listing.shown, Catalog.concerns, Bool.not_false, List.filter_true,
    String.reduceBEq, and_true, eq_iff_iff] at hmem
  exact hmem

end Stores

end InterfaceReport
