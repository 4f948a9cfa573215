import InterfaceReport.Proofs.Cell.Speed
import InterfaceReport.Proofs.Report.Order

/-! The speed that a LAG shows comes from the speeds told of its members, added up, and from the
optics of the greatest member. -/

namespace InterfaceReport

/-! ### The members of a LAG -/

/-- A key of the configuration makes `port` a member of `lag`: the bar between them is the first
one. -/
def Database.Pairs (config : Database) (lag port : String) : Prop :=
  '|' ∉ lag.toList ∧ config.Lists Schema.lagMembers (lag ++ "|" ++ port)

theorem Catalog.members_listing {config : Database} {tables : Tables}
    (h : Tables.read config = .ok tables) (lag : String) :
    NaturalListing (config.Pairs lag) ((ofTables tables).members lag) := by
  obtain ⟨-, -, hkeys, -⟩ := Tables.read_eq_ok_iff.1 h
  constructor
  · intro port
    rw [mem_members_ofTables, Tables.Claims, Database.Pairs, Database.lists_iff hkeys]
  · have hnodup : ((ofTables tables).members lag).Nodup := by
      rw [List.nodup_iff_count_le_one]
      intro port
      rw [count_members, count_memberships]
      split
      · exact Nat.zero_le 1
      · exact List.nodup_iff_count_le_one.1 (Database.nodup_entryKeys hkeys) _
    exact (pairwise_members (sorted_ofTables tables) lag).imp₂ (fun _ _ => naturalCompare_eq_lt)
      hnodup

/-- `last` is the one of `names` that comes after the others in natural order. -/
def Greatest (names : List String) (last : String) : Prop :=
  last ∈ names ∧ ∀ name ∈ names, naturalLe name last

theorem greatest_iff_getLast? {names : List String} {last : String}
    (h : names.Pairwise fun a b => naturalLe a b) :
    Greatest names last ↔ names.getLast? = some last := by
  constructor
  · rintro ⟨hmem, hle⟩
    have hne : names ≠ [] := List.ne_nil_of_mem hmem
    have hlast : naturalLe last (names.getLast hne) :=
      h.rel_getLast_of_rel_getLast_getLast hmem (naturalLe_refl _)
    rw [List.getLast?_eq_some_getLast hne]
    exact congrArg some (naturalLe_antisymm (hle _ (List.getLast_mem hne)) hlast)
  · intro hlast
    have hmem : last ∈ names := List.mem_of_getLast? hlast
    refine ⟨hmem, fun name hname => ?_⟩
    rw [List.getLast?_eq_some_getLast (List.ne_nil_of_mem hmem), Option.some.injEq] at hlast
    rw [← hlast]
    exact h.rel_getLast_of_rel_getLast_getLast hname (naturalLe_refl _)

/-! ### What the speed depends on -/

theorem Stores.total_congr {stores stores' : Stores} {ports : List String}
    (h : ∀ port ∈ ports, stores.toldSpeed? port = stores'.toldSpeed? port) :
    stores.total ports = stores'.total ports := by
  have hmegabits : ∀ port ∈ ports, stores.megabits port = stores'.megabits port := by
    intro port hport
    rw [megabits, h port hport]
    rfl
  rw [total, List.map_congr_left hmegabits]
  rfl

namespace CellSource

section

variable {r r' : CellSource} {lag : String} {ports : List String}
  (available : r.stores.Available) (available' : r'.stores.Available)
  (hspeeds : LagSpeeds.compute r.stores r.catalog r.copperPorts = .ok r.lagSpeeds)
  (hspeeds' : LagSpeeds.compute r'.stores r'.catalog r'.copperPorts = .ok r'.lagSpeeds)
include available available' hspeeds hspeeds'

/-- Of the optics, those of the last member decide. -/
theorem lagCell_speed_congr (hports : r.catalog.members lag = ports)
    (hports' : r'.catalog.members lag = ports)
    (htold : ∀ port ∈ ports, r.stores.toldSpeed? port = r'.stores.toldSpeed? port)
    (hoptics : ∀ last, ports.getLast? = some last →
      r.stores.toldOptics r.copperPorts last = r'.stores.toldOptics r'.copperPorts last)
    (hsum : r.stores.total ports < Speed.bound) :
    r.cell .lag lag .speed = r'.cell .lag lag .speed := by
  have htotal := Stores.total_congr htold
  match ports with
  | [] =>
    rw [lagCell_of_no_members available hspeeds hports,
      lagCell_of_no_members available' hspeeds' hports']
  | [port] =>
    rw [lagCell_of_single available hspeeds hports,
      lagCell_of_single available' hspeeds' hports', portCell_speed available,
      portCell_speed available', htold port (by simp), hoptics port (by simp)]
  | first :: second :: rest =>
    have hlength : 2 ≤ (first :: second :: rest).length := by simp
    have hlast := List.getLast?_eq_some_getLast (List.cons_ne_nil first (second :: rest))
    rw [lagCell_of_two_le available hspeeds hports hlength hsum hlast, htotal, hoptics _ hlast]
    rw [htotal] at hsum
    rw [lagCell_of_two_le available' hspeeds' hports' hlength hsum hlast]

end

/-- Where the databases refuse nothing and no sum of speeds is out of bounds, each LAG lists its
members once and in natural order. Without members it shows no speed. Several add up what is told of
their speeds, in the unit that the optics of the greatest one call for. The order of the keys and
the optics of the other members make no difference. -/
theorem lagSpeed_of_members (stores : Stores) (ns : Namespace) (copperPorts : List String)
    (available : stores.Available) :
    ∃ catalog, Catalog.ofStores ns stores = .ok catalog ∧
      ((∀ lag ∈ catalog.lagNames, stores.total (catalog.members lag) < Speed.bound) →
        ∃ lagSpeeds, LagSpeeds.compute stores catalog copperPorts = .ok lagSpeeds ∧
          let r : CellSource := ⟨stores, catalog, lagSpeeds, copperPorts⟩
          ∀ lag ∈ catalog.lagNames,
            let ports := catalog.members lag
            NaturalListing (stores.config.Pairs lag) ports ∧
            (ports = [] → r.cell .lag lag .speed = .ok notAvailable) ∧
            (2 ≤ ports.length → ∃ last, Greatest ports last ∧ r.cell .lag lag .speed =
              .ok (Speed.format (stores.total ports) (stores.toldOptics copperPorts last))) ∧
            (∀ answers : Answers, answers.Reorders stores.config.answers →
              let reordered := Catalog.ofTables (answers.tables stores.config.kind)
              LagSpeeds.compute stores reordered copperPorts = .ok lagSpeeds ∧
              cell ⟨stores, reordered, lagSpeeds, copperPorts⟩ .lag lag .speed =
                r.cell .lag lag .speed) ∧
            ∀ r' : CellSource, r'.stores.Available →
              LagSpeeds.compute r'.stores r'.catalog r'.copperPorts = .ok r'.lagSpeeds →
              r'.catalog.members lag = ports →
              (∀ port ∈ ports, r'.stores.toldSpeed? port = stores.toldSpeed? port) →
              (∀ last, Greatest ports last →
                r'.stores.toldOptics r'.copperPorts last = stores.toldOptics copperPorts last) →
              r'.cell .lag lag .speed = r.cell .lag lag .speed) := by
  have hconfig : stores.config.outage = none := available.config
  refine ⟨_, Catalog.ofStores_of_available ns hconfig, fun hsums => ?_⟩
  have hfit : LagSpeeds.Fit stores _ copperPorts := (LagSpeeds.fit_iff available).2 hsums
  obtain ⟨lagSpeeds, hspeeds⟩ := LagSpeeds.exists_compute available hfit
  refine ⟨lagSpeeds, hspeeds, ?_⟩
  intro r lag hlag ports
  have hlisting : NaturalListing (stores.config.Pairs lag) ports :=
    Catalog.members_listing (Database.read_eq hconfig) lag
  have hgreatest : ∀ last, Greatest ports last ↔ ports.getLast? = some last := fun last =>
    greatest_iff_getLast? (Catalog.pairwise_members (Catalog.sorted_ofTables _) lag)
  refine ⟨hlisting, ?_, ?_, ?_, ?_⟩
  · intro hnone
    exact lagCell_of_no_members (r := r) available hspeeds hnone
  · intro hlength
    have hne : ports ≠ [] := List.ne_nil_of_length_pos (by omega)
    have hlast := List.getLast?_eq_some_getLast hne
    refine ⟨_, (hgreatest _).2 hlast, ?_⟩
    exact lagCell_of_two_le (r := r) available hspeeds rfl hlength (hsums lag hlag) hlast
  · intro answers horder reordered
    have hagrees := Catalog.agrees_of_reordered (Database.tables_reordered hconfig horder)
    constructor
    · rw [LagSpeeds.compute_of_agrees stores hagrees]
      exact hspeeds
    · exact congrFun (congrFun (congrFun (cell_of_agrees hagrees) _) _) _
  · intro r' available' hspeeds' hmembers htold hoptics
    refine (lagCell_speed_congr (r := r) available available' hspeeds hspeeds' rfl hmembers ?_ ?_
      (hsums lag hlag)).symm
    · intro port hport
      exact (htold port hport).symm
    · intro last hlast
      exact (hoptics last ((hgreatest last).2 hlast)).symm

/-! ### An example -/

/-- A LAG of three ports: one whose link is up, one whose speed is no number, and the greatest. -/
def lagOfThree : Stores where
  config := ["PortChannel1|Ethernet10", "PortChannel1|Ethernet4", "PortChannel1|Ethernet8"].foldl
    (fun db key => db.putEntry "PORTCHANNEL_MEMBER" key []) (.empty .config)
  appl := [("Ethernet4", [("speed", "100"), ("oper_status", "up")]),
    ("Ethernet8", [("speed", "fast")]), ("Ethernet10", [("speed", "400")])].foldl
      (fun db (port, fields) => db.putEntry "PORT_TABLE" port fields) (.empty .appl)
  state := (Database.empty .state).putEntry "PORT_TABLE" "Ethernet4" [("speed", "600")]

theorem available_lagOfThree : lagOfThree.Available := ⟨rfl, rfl, rfl⟩

section

variable {c : Catalog} (h : Catalog.ofStores .host lagOfThree = .ok c)
include h

theorem memberships_lagOfThree : c.memberships = [⟨"PortChannel1", "Ethernet4"⟩,
    ⟨"PortChannel1", "Ethernet8"⟩, ⟨"PortChannel1", "Ethernet10"⟩] := by
  cases (Catalog.ofStores_of_available .host available_lagOfThree.config).symm.trans h
  have hkeys : lagOfThree.config.answers.entryKeys .config Schema.lagMembers =
      ["PortChannel1|Ethernet10", "PortChannel1|Ethernet4", "PortChannel1|Ethernet8"] := by
    cbv
  have hsort : naturalSort (lagOfThree.config.answers.entryKeys .config Schema.lagMembers) =
      ["PortChannel1|Ethernet4", "PortChannel1|Ethernet8", "PortChannel1|Ethernet10"] := by
    rw [hkeys]
    apply naturalSort_eq
    · decide
    · decide +kernel
  show (naturalSort (lagOfThree.config.answers.entryKeys .config Schema.lagMembers)).filterMap
    Membership.ofKey? = _
  rw [hsort]
  decide

theorem members_lagOfThree :
    c.members "PortChannel1" = ["Ethernet4", "Ethernet8", "Ethernet10"] := by
  rw [Catalog.members, memberships_lagOfThree h]
  decide

theorem mem_lagNames_lagOfThree : "PortChannel1" ∈ c.lagNames := by
  rw [(Catalog.lagNames_listing c).mem_iff, Catalog.isLag, memberships_lagOfThree h]
  simp

theorem total_lagOfThree_lt (lag : String) : lagOfThree.total (c.members lag) < Speed.bound := by
  by_cases hlag : "PortChannel1" = lag
  · subst hlag
    rw [members_lagOfThree h]
    decide
  · have hnone : c.members lag = [] := by simp [Catalog.members, memberships_lagOfThree h, hlag]
    rw [hnone]
    decide

end

theorem eq_of_greatest_lagOfThree {last : String}
    (h : Greatest ["Ethernet4", "Ethernet8", "Ethernet10"] last) : last = "Ethernet10" := by
  have hlast := (greatest_iff_getLast? (by decide +kernel)).1 h
  simpa using hlast.symm

/-- The members come to 1000, which is shown in megabits where the greatest of them is of copper,
whether or not another one is. -/
theorem lagSpeed_of_members_copper :
    ∃ catalog lagSpeeds lagSpeeds', Catalog.ofStores .host lagOfThree = .ok catalog ∧
      LagSpeeds.compute lagOfThree catalog ["Ethernet10"] = .ok lagSpeeds ∧
      LagSpeeds.compute lagOfThree catalog ["Ethernet8", "Ethernet10"] = .ok lagSpeeds' ∧
      cell ⟨lagOfThree, catalog, lagSpeeds, ["Ethernet10"]⟩ .lag "PortChannel1" .speed =
        .ok "1000M" ∧
      cell ⟨lagOfThree, catalog, lagSpeeds', ["Ethernet8", "Ethernet10"]⟩ .lag "PortChannel1"
        .speed = .ok "1000M" := by
  obtain ⟨c, hc, hlags⟩ := lagSpeed_of_members lagOfThree .host ["Ethernet10"] available_lagOfThree
  have hmembers := members_lagOfThree hc
  have hsums : ∀ lag ∈ c.lagNames, lagOfThree.total (c.members lag) < Speed.bound :=
    fun lag _ => total_lagOfThree_lt hc lag
  have hfit' : LagSpeeds.Fit lagOfThree c ["Ethernet8", "Ethernet10"] :=
    (LagSpeeds.fit_iff available_lagOfThree).2 hsums
  obtain ⟨speeds, hspeeds, hcells⟩ := hlags hsums
  obtain ⟨speeds', hspeeds'⟩ := LagSpeeds.exists_compute available_lagOfThree hfit'
  obtain ⟨-, -, hseveral, -, hother⟩ := hcells "PortChannel1" (mem_lagNames_lagOfThree hc)
  rw [hmembers] at hseveral hother
  obtain ⟨last, hlast, hcell⟩ := hseveral (by decide)
  have hshown : cell ⟨lagOfThree, c, speeds, ["Ethernet10"]⟩ .lag "PortChannel1" .speed =
      .ok "1000M" := by
    rw [hcell, eq_of_greatest_lagOfThree hlast]
    decide
  have hoptics : lagOfThree.toldOptics ["Ethernet8", "Ethernet10"] "Ethernet10" =
      lagOfThree.toldOptics ["Ethernet10"] "Ethernet10" := by
    decide
  refine ⟨c, speeds, speeds', hc, hspeeds, hspeeds', hshown, ?_⟩
  rw [← hshown]
  refine hother ⟨lagOfThree, c, speeds', ["Ethernet8", "Ethernet10"]⟩ available_lagOfThree hspeeds'
    hmembers (fun _ _ => rfl) fun last hlast => ?_
  rw [eq_of_greatest_lagOfThree hlast]
  exact hoptics

end CellSource
end InterfaceReport
