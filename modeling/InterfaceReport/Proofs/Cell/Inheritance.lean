import InterfaceReport.Proofs.Cell.Displayed
import InterfaceReport.Proofs.Cell.Speed
import InterfaceReport.Proofs.Interface.Name

/-! Cells that show what another cell shows: the speed of a LAG with one member is that of the
member, and a sub-interface takes speed and MTU from its parent, however its name is spelled. -/

namespace InterfaceReport

namespace CellSource

/-- Speed and MTU are those of the parent; a sub-interface has none of its own. -/
theorem cell_subInterface {r : CellSource} {name parent : String} (h : Name.Under name parent)
    {a : Attribute} (ha : a = .speed ∨ a = .mtu) :
    r.cell .subInterface name a = r.parentCell parent a := by
  obtain ⟨suffix, hparent⟩ := Name.under_iff.1 h
  rw [cell, subInterfaceCell, hparent]
  rcases ha with rfl | rfl <;> rfl

/-- The three ways to a speed agree. A LAG with one member shows the speed that the port shows, and
a sub-interface shows the speed and the MTU that its parent shows as a port, or else as a LAG. The
parent is told by the name up to its first dot, in any spelling. -/
theorem speed_paths_agree :
    (∀ name : String, '.' ∈ name.toList → ∃! parent, Name.Under name parent) ∧
    ∀ (stores : Stores) (ns : Namespace) (copperPorts : List String), stores.Available →
      ∃ catalog, Catalog.ofStores ns stores = .ok catalog ∧
        ((∀ lag ∈ catalog.lagNames, stores.total (catalog.members lag) < Speed.bound) →
          ∃ lagSpeeds, LagSpeeds.compute stores catalog copperPorts = .ok lagSpeeds ∧
            let r : CellSource := ⟨stores, catalog, lagSpeeds, copperPorts⟩
            (∀ lag port, catalog.members lag = [port] →
              ∃ text, r.cell .lag lag .speed = .ok text ∧ r.cell .port port .speed = .ok text) ∧
            ∀ name parent, Name.Under name parent → ∀ a, a = .speed ∨ a = .mtu →
              ∃ text, r.cell .subInterface name a = .ok text ∧
                (catalog.isPort parent → r.cell .port parent a = .ok text) ∧
                (¬ catalog.isPort parent → catalog.isLag parent →
                  r.cell .lag parent a = .ok text) ∧
                ∀ other, Name.Under other parent → r.cell .subInterface other a = .ok text) := by
  refine ⟨fun name => Name.existsUnique_under, ?_⟩
  intro stores ns copperPorts available
  refine ⟨_, Catalog.ofStores_of_available ns available.config, fun hsums => ?_⟩
  have hfit : LagSpeeds.Fit stores _ copperPorts := (LagSpeeds.fit_iff available).2 hsums
  obtain ⟨lagSpeeds, hspeeds⟩ := LagSpeeds.exists_compute available hfit
  refine ⟨lagSpeeds, hspeeds, ?_⟩
  intro r
  have hshown : ∀ kind name a, ∃ text, r.cell kind name a = .ok text := by
    intro kind name a
    obtain ⟨text, htext, -⟩ := displays_cell (r := r) available hspeeds kind name a
    exact ⟨text, htext⟩
  constructor
  · intro lag port hmember
    obtain ⟨text, htext⟩ := hshown .port port .speed
    exact ⟨text, (lagCell_of_single (r := r) available hspeeds hmember).trans htext, htext⟩
  · intro name parent hname a ha
    obtain ⟨text, htext⟩ := hshown .subInterface name a
    have hparent : r.parentCell parent a = .ok text := (cell_subInterface hname ha).symm.trans htext
    refine ⟨text, htext, ?_, ?_, ?_⟩
    · intro hport
      rwa [parentCell, if_pos hport] at hparent
    · intro hport hlag
      rwa [parentCell, if_neg hport, if_pos hlag] at hparent
    · intro other hother
      exact (cell_subInterface hother ha).trans hparent

/-- A port alone in its LAG. -/
def lagOfOne : Stores where
  config := ((Database.empty .config).putEntry "PORT" "Ethernet0" []).putEntry
    "PORTCHANNEL_MEMBER" "PortChannel1|Ethernet0" []
  appl := (Database.empty .appl).putEntry "PORT_TABLE" "Ethernet0" [("speed", "40000")]
  state := .empty .state

/-- The port, the LAG and the sub-interfaces of both show one speed. -/
theorem speed_paths_agree_lagOfOne :
    ∃ catalog lagSpeeds, Catalog.ofStores .host lagOfOne = .ok catalog ∧
      LagSpeeds.compute lagOfOne catalog [] = .ok lagSpeeds ∧
      let r : CellSource := ⟨lagOfOne, catalog, lagSpeeds, []⟩
      r.cell .port "Ethernet0" .speed = .ok "40G" ∧ r.cell .lag "PortChannel1" .speed = .ok "40G" ∧
      r.cell .subInterface "Eth0.7" .speed = .ok "40G" ∧
      r.cell .subInterface "Ethernet0.8" .speed = .ok "40G" ∧
      r.cell .subInterface "Po1.9" .speed = .ok "40G" := by
  have available : lagOfOne.Available := ⟨rfl, rfl, rfl⟩
  obtain ⟨-, hstores⟩ := speed_paths_agree
  obtain ⟨c, hc, hlags⟩ := hstores lagOfOne .host [] available
  have hnames : (Catalog.ofStores .host lagOfOne).map (·.lagNames) = .ok ["PortChannel1"] := by cbv
  have hmembers : (Catalog.ofStores .host lagOfOne).map (·.members "PortChannel1") =
      .ok ["Ethernet0"] := by
    cbv
  have hkinds : (Catalog.ofStores .host lagOfOne).map (fun c => [c.isPort "Ethernet0",
      c.isPort "PortChannel1", c.isLag "PortChannel1"]) = .ok [true, false, true] := by
    cbv
  rw [hc] at hnames hmembers hkinds
  replace hnames : c.lagNames = ["PortChannel1"] := Except.ok.inj hnames
  replace hmembers : c.members "PortChannel1" = ["Ethernet0"] := Except.ok.inj hmembers
  simp only [Except.map, Except.ok.injEq, List.cons.injEq, and_true] at hkinds
  obtain ⟨hport, hnoPort, hlag⟩ := hkinds
  obtain ⟨speeds, hspeeds, hsingle, hsub⟩ := hlags <| by
    intro lag hlag
    rw [hnames, List.mem_singleton] at hlag
    rw [hlag, hmembers]
    decide
  obtain ⟨text, hlagCell, hportCell⟩ := hsingle _ _ hmembers
  have hformat : ((lagOfOne.toldSpeed? "Ethernet0").bind fun raw =>
      (Speed.formatText raw (lagOfOne.toldOptics [] "Ethernet0")).toOption) = some "40G" := by
    decide
  have htext : text = "40G" := by
    rw [portCell_speed available, Except.ok.injEq] at hportCell
    exact hportCell.symm.trans (congrArg (·.getD notAvailable) hformat)
  subst htext
  have hunder : Name.Under "Eth0.7" "Ethernet0" ∧ Name.Under "Ethernet0.8" "Ethernet0" ∧
      Name.Under "Po1.9" "PortChannel1" :=
    ⟨Name.under_iff.2 ⟨"7", by decide⟩, Name.under_iff.2 ⟨"8", by decide⟩,
      Name.under_iff.2 ⟨"9", by decide⟩⟩
  obtain ⟨text, hshort, hparent, -, hother⟩ := hsub _ _ hunder.1 .speed (.inl rfl)
  obtain ⟨text', hpo, -, hparent', -⟩ := hsub _ _ hunder.2.2 .speed (.inl rfl)
  cases hportCell.symm.trans (hparent hport)
  cases hlagCell.symm.trans (hparent' (by simp [hnoPort]) hlag)
  exact ⟨c, speeds, hc, hspeeds, hportCell, hlagCell, hshort, hother _ hunder.2.1, hpo⟩

end CellSource
end InterfaceReport
