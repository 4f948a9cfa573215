import InterfaceReport.Proofs.Cell.LinkDown
import InterfaceReport.Proofs.Report.Listing

/-! Reports do not show what the hardware keeps reporting of a link that is down: neither the row of
the port, nor that of its LAG, nor those of the sub-interfaces on either depend on it. -/

namespace InterfaceReport

open Steps

namespace Stores

variable {port : String} {before after : Stores} (h : before.SameButLink port after)
  (hdown : before.isUp port ≠ .ok true)

/-- Writing what is reported of a link changes nothing else. -/
theorem sameButLink_putEntry (stores : Stores) (port : String) {fields : Record}
    (hne : fields ≠ []) (hfields : ∀ pair ∈ fields, pair.1 ∈ Schema.linkFields) :
    stores.SameButLink port
      { stores with state := stores.state.putEntry Schema.portState port fields } := by
  have hframe : Database.Frame (fun _ => True) stores.state
      (stores.state.putEntry Schema.portState port fields) :=
    Database.frame_apply (w := .entry Schema.portState port fields) trivial
  refine ⟨rfl, rfl, hframe.kind, hframe.outage, ?_⟩
  intro key field hapart
  have hset : Write.fields (.entry Schema.portState port fields) = fields := by
    rw [Write.fields, if_neg (by simpa using hne)]
  refine (Database.getElem?_hash_apply (.entry Schema.portState port fields) key field).trans ?_
  rcases hapart with hkey | hfield
  · exact if_neg hkey
  · have hnone : (fields.reverse.lookup field) = none := by
      rw [List.lookup_eq_none_iff]
      intro pair hpair
      rw [bne_iff_ne]
      rintro rfl
      exact hfield (hfields pair (List.mem_reverse.1 hpair))
    rw [hset, hnone, Option.none_or, ite_self]

include h hdown

theorem report_of_sameButLink (ns : Namespace) (copperPorts : List String) (query : Query)
    (hides : Hides) :
    after.report ns copperPorts query hides = before.report ns copperPorts query hides := by
  have hcatalog : Catalog.ofStores ns after = Catalog.ofStores ns before := by
    rw [Catalog.ofStores, Catalog.ofStores, h.config]
  simp only [report, hcatalog, LagSpeeds.compute_of_sameButLink h hdown]
  cases Catalog.ofStores ns before with
  | error e => rfl
  | ok catalog =>
    simp only [ok_bind]
    cases LagSpeeds.compute before catalog copperPorts with
    | error fault => rfl
    | ok lagSpeeds =>
      simp only [mapError_ok, ok_bind, pure_eq_ok]
      have hcandidates : CellSource.candidates ⟨after, catalog, lagSpeeds, copperPorts⟩ ns query =
          CellSource.candidates ⟨before, catalog, lagSpeeds, copperPorts⟩ ns query := by
        simp only [CellSource.candidates, CellSource.knownPorts, h.appl]
      have hcell : CellSource.cell ⟨after, catalog, lagSpeeds, copperPorts⟩ =
          CellSource.cell ⟨before, catalog, lagSpeeds, copperPorts⟩ :=
        CellSource.cell_of_sameButLink h hdown
      simp only [CellSource.rows, hcandidates, CellSource.list_congr hcell rfl]

omit h hdown

/-- A port whose operational status is not `up` is not known to be up. -/
theorem isUp_ne_of_status {stores : Stores} (hstatus : stores.appl.field Schema.portStatus port
    Schema.operStatus ≠ .ok (some Schema.up)) : stores.isUp port ≠ .ok true := by
  intro hup
  obtain ⟨status, hfield, hpure⟩ := bind_eq_ok_iff.1 hup
  cases status with
  | none => cases hpure
  | some text =>
    have htext : text = Schema.up := by simpa using hpure
    exact hstatus (by rw [hfield, htext])

/-- Where the operational status of a port is not `up`, no report depends on the speed and the error
correction that the hardware reports for the port: the rows are the same, and a sum of speeds
overflows in both reports or in neither. The same holds of runs over several namespaces. -/
theorem report_silent_on_down_link (before after : Stores) (port : String)
    (available : before.Available)
    (hstatus : before.appl.field Schema.portStatus port Schema.operStatus ≠ .ok (some Schema.up))
    (hsame : before.SameButLink port after) :
    (∀ ns copperPorts query hides,
      let report := before.report ns copperPorts query hides
      let report' := after.report ns copperPorts query hides
      report'.asked = report.asked ∧
        ((∃ rows, report.rows = .ok rows ∧ report'.rows = .ok rows) ∨
          report.rows = .error .speedOverflow ∧ report'.rows = .error .speedOverflow)) ∧
    ∀ (p p' : Platform) (ns : Namespace), p'.copperPorts = p.copperPorts →
      p.connect ns = .ok before → p'.connect ns = .ok after →
      (∀ other ≠ ns, p'.connect other = p.connect other) →
      ∀ query hides nss, p'.run query hides nss = p.run query hides nss := by
  have hreport := report_of_sameButLink hsame (isUp_ne_of_status hstatus)
  constructor
  · intro ns copperPorts query hides report report'
    have hsame : report' = report := hreport ns copperPorts query hides
    rw [hsame]
    refine ⟨rfl, ?_⟩
    by_cases hfit : before.SumsFit copperPorts
    · obtain ⟨rows, hrows⟩ : ∃ rows, report.rows = .ok rows :=
        exists_report_of_available available hfit
      exact .inl ⟨rows, hrows, hrows⟩
    · have hoverflow : report.rows = .error .speedOverflow := report_eq_overflow_iff.2 hfit
      exact .inr ⟨hoverflow, hoverflow⟩
  · intro p p' ns hcopper hbefore hafter hothers query hides nss
    apply Platform.run_congr
    intro n _
    by_cases hn : n = ns
    · simp only [Platform.visit, hn, hbefore, hafter, hcopper, hreport]
    · simp only [Platform.visit, hothers n hn, hcopper]

/-- The first port of two in a LAG is down, and the hardware still reports a speed for it. -/
def lagOfTwoDown : Stores where
  config := (lagOfTwo "400" "100").config
  appl := (lagOfTwo "400" "100").appl.putEntry "PORT_TABLE" "Ethernet0" [("oper_status", "down")]
  state := (Database.empty .state).putEntry "PORT_TABLE" "Ethernet0"
    [("speed", "200"), ("fec", "rs")]

theorem available_lagOfTwoDown : lagOfTwoDown.Available where
  config := (available_lagOfTwo "400" "100").config
  appl := rfl
  state := rfl

/-- The same with another speed: were it added to the second port's, the sum would overflow. -/
def lagOfTwoDownStale : Stores :=
  { lagOfTwoDown with
    state := lagOfTwoDown.state.putEntry "PORT_TABLE" "Ethernet0"
      [("speed", "18446744073709551615")] }

theorem report_silent_on_down_link_lagOfTwo :
    ∃ rows, (lagOfTwoDown.report .host [] ⟨.status, .all⟩ fun _ _ => false).rows = .ok rows ∧
      (lagOfTwoDownStale.report .host [] ⟨.status, .all⟩ fun _ _ => false).rows = .ok rows := by
  have hstatus : lagOfTwoDown.appl.field Schema.portStatus "Ethernet0" Schema.operStatus =
      .ok (some "down") := by
    cbv
  have hsame : lagOfTwoDown.SameButLink "Ethernet0" lagOfTwoDownStale :=
    lagOfTwoDown.sameButLink_putEntry "Ethernet0" (by simp) (by decide)
  obtain ⟨hreports, -⟩ := report_silent_on_down_link lagOfTwoDown lagOfTwoDownStale "Ethernet0"
    available_lagOfTwoDown (by rw [hstatus]; decide) hsame
  obtain ⟨-, hrows | ⟨hoverflow, -⟩⟩ := hreports .host [] ⟨.status, .all⟩ fun _ _ => false
  · exact hrows
  · have hfec : (lagOfTwoDown.report .host [] ⟨.fec, .all⟩ fun _ _ => false).rows =
        .ok [["Ethernet0", "N/A", "N/A"], ["Ethernet4", "N/A", "N/A"]] := by
      cbv
    exact absurd (sumsFit_of_report (by rw [hfec]; simp)) (report_eq_overflow_iff.1 hoverflow)

end Stores

end InterfaceReport
