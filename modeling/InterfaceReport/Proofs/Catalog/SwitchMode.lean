import InterfaceReport.Cell.Source
import InterfaceReport.Proofs.Catalog.Membership

/-! How ports and LAGs take part in VLANs. A mode comes from the record of the interface, from its
memberships in VLANs or from neither, in this order; a member of a LAG takes the mode of its LAG and
has no say in it. -/

namespace InterfaceReport

theorem SwitchMode.ofName?_eq_some_iff {text : String} {mode : SwitchMode} :
    ofName? text = some mode ↔ text = mode.name := by
  constructor
  · intro h
    unfold ofName? at h
    split at h <;> cases h <;> rfl
  · rintro rfl
    exact ofName?_name mode

/-- The first field of a record that is named for the mode states `mode`. -/
def Record.States (r : Record) (mode : SwitchMode) : Prop :=
  ∃ before after, r = before ++ (Schema.mode, mode.name) :: after ∧
    ∀ entry ∈ before, entry.1 ≠ Schema.mode

theorem Record.states_iff {r : Record} {mode : SwitchMode} :
    States r mode ↔ (r.lookup Schema.mode).bind SwitchMode.ofName? = some mode := by
  simp only [States, Option.bind_eq_some_iff, SwitchMode.ofName?_eq_some_iff, exists_eq_right,
    List.lookup_eq_some_iff, bne_iff_ne, ne_comm (a := Schema.mode)]

namespace Tables

variable (t : Tables)

/-- The tables have a port or a LAG of this name. A LAG may be named by its members only. -/
def Names (name : String) : Prop :=
  name ∈ t.ports ∨ name ∈ t.lags ∨ ∃ port, t.Claims name port

/-- The record of an interface. That of a LAG goes before that of a port, and what has neither has
no fields. -/
def record (name : String) : Record := (t.lags[name]?).getD ((t.ports[name]?).getD [])

/-- A key pairs a VLAN with the interface: the bar between them is the first one. -/
def InVlan (name : String) : Prop :=
  ∃ vlan : String, '|' ∉ vlan.toList ∧ vlan ++ "|" ++ name ∈ t.vlanMemberKeys

/-- The sources of a mode in the order in which they are asked. -/
inductive Mode (name : String) : SwitchMode → Prop
  | stated {mode : SwitchMode} : t.Names name → (t.record name).States mode → Mode name mode
  | tagged : t.Names name → (∀ mode, ¬ (t.record name).States mode) → t.InVlan name →
      Mode name .trunk
  | untagged : t.Names name → (∀ mode, ¬ (t.record name).States mode) → ¬ t.InVlan name →
      Mode name .routed
  | unknown : ¬ t.Names name → Mode name .routed

/-- The two tables differ at most in the records of `name` and in its memberships in VLANs. -/
structure SameBut (name : String) (t t' : Tables) : Prop where
  ports : ∀ other, other ≠ name → t'.ports[other]? = t.ports[other]?
  lags : ∀ other, other ≠ name → t'.lags[other]? = t.lags[other]?
  lagMemberKeys : t'.lagMemberKeys = t.lagMemberKeys
  inVlan : ∀ other, other ≠ name → (t'.InVlan other ↔ t.InVlan other)

/-- What is said of one name does not count for the mode of another. -/
theorem Mode.of_sameBut {t t' : Tables} {name other : String} {mode : SwitchMode}
    (h : t.SameBut name t') (hother : other ≠ name) (hmode : t.Mode other mode) :
    t'.Mode other mode := by
  have hnames : t'.Names other ↔ t.Names other := by
    simp only [Names, Claims, Std.TreeMap.mem_iff_isSome_getElem?, h.ports other hother,
      h.lags other hother, h.lagMemberKeys]
  have hrecord : t'.record other = t.record other := by
    rw [record, record, h.ports other hother, h.lags other hother]
  have hvlan := h.inVlan other hother
  cases hmode with
  | stated hname hstates => exact .stated (hnames.2 hname) (hrecord ▸ hstates)
  | tagged hname hnone hin => exact .tagged (hnames.2 hname) (hrecord ▸ hnone) (hvlan.2 hin)
  | untagged hname hnone hnot =>
    exact .untagged (hnames.2 hname) (hrecord ▸ hnone) (mt hvlan.1 hnot)
  | unknown hunknown => exact .unknown (mt hnames.1 hunknown)

end Tables

namespace Catalog

variable {tables : Tables} {name : String}

theorem mem_vlanMembers : name ∈ (ofTables tables).vlanMembers ↔ tables.InVlan name := by
  have hkey : ∀ key : String, (Text.cut? '|' key).map (·.2) = some name ↔
      ∃ vlan, Membership.ofKey? key = some ⟨vlan, name⟩ := by
    intro key
    cases hcut : Text.cut? '|' key with
    | none => simp [Membership.ofKey?, hcut]
    | some parts => simp [Membership.ofKey?, hcut]
  simp only [ofTables, List.mem_filterMap, hkey, Membership.ofKey?_eq_some_iff, Tables.InVlan]
  constructor
  · rintro ⟨_, hmem, vlan, rfl, hbar⟩
    exact ⟨vlan, hbar, hmem⟩
  · rintro ⟨vlan, hbar, hmem⟩
    exact ⟨_, hmem, vlan, rfl, hbar⟩

theorem names_iff :
    tables.Names name ↔ (ofTables tables).isPort name ∨ (ofTables tables).isLag name := by
  have hlag : (ofTables tables).isLag name ↔
      name ∈ tables.lags ∨ ∃ port, tables.Claims name port := by
    rw [← (lagNames_listing (ofTables tables)).mem_iff, lagNames_claims.mem_iff]
  rw [Tables.Names, hlag, isPort, Std.TreeMap.contains_iff_mem]
  rfl

theorem statedMode?_eq : (ofTables tables).statedMode? name =
    ((tables.record name).lookup Schema.mode).bind SwitchMode.ofName? := by
  show ((tables.lags[name]? <|> tables.ports[name]?).bind fun r =>
    (r.lookup Schema.mode).bind SwitchMode.ofName?) = _
  rw [Tables.record]
  cases tables.lags[name]? with
  | some r => rfl
  | none => cases tables.ports[name]? <;> rfl

theorem statedMode?_eq_some_iff {mode : SwitchMode} :
    (ofTables tables).statedMode? name = some mode ↔ (tables.record name).States mode := by
  rw [statedMode?_eq, Record.states_iff]

theorem statedMode?_eq_none_iff : (ofTables tables).statedMode? name = none ↔
    ∀ mode, ¬ (tables.record name).States mode := by
  simp only [Option.eq_none_iff_forall_not_mem, Option.mem_def, statedMode?_eq_some_iff]

theorem switchMode_of_names (h : tables.Names name) : (ofTables tables).switchMode name =
    ((ofTables tables).statedMode? name).getD
      (if (ofTables tables).vlanMembers.contains name then .trunk else .routed) := by
  rw [switchMode, if_pos (by simpa using names_iff.1 h)]

theorem switchMode_of_not_names (h : ¬ tables.Names name) :
    (ofTables tables).switchMode name = .routed := by
  rw [switchMode, if_neg (by simpa using mt names_iff.2 h)]

theorem mode_switchMode (tables : Tables) (name : String) :
    tables.Mode name ((ofTables tables).switchMode name) := by
  by_cases hname : tables.Names name
  · rw [switchMode_of_names hname]
    cases hstated : (ofTables tables).statedMode? name with
    | some mode => exact .stated hname (statedMode?_eq_some_iff.1 hstated)
    | none =>
      have hnone := statedMode?_eq_none_iff.1 hstated
      by_cases hvlan : name ∈ (ofTables tables).vlanMembers
      · simpa [hvlan] using Tables.Mode.tagged hname hnone (mem_vlanMembers.1 hvlan)
      · simpa [hvlan] using Tables.Mode.untagged hname hnone (mt mem_vlanMembers.2 hvlan)
  · rw [switchMode_of_not_names hname]
    exact .unknown hname

theorem switchMode_eq_iff {mode : SwitchMode} :
    (ofTables tables).switchMode name = mode ↔ tables.Mode name mode := by
  constructor
  · rintro rfl
    exact mode_switchMode tables name
  · intro h
    cases h with
    | stated hname hstates =>
      rw [switchMode_of_names hname, statedMode?_eq_some_iff.2 hstates, Option.getD_some]
    | tagged hname hnone hvlan =>
      simp [switchMode_of_names hname, statedMode?_eq_none_iff.2 hnone, mem_vlanMembers.2 hvlan]
    | untagged hname hnone hvlan =>
      simp [switchMode_of_names hname, statedMode?_eq_none_iff.2 hnone, mt mem_vlanMembers.1 hvlan]
    | unknown hname => exact switchMode_of_not_names hname

theorem lagOf?_of_sameBut {tables' : Tables} (h : tables.SameBut name tables') :
    (ofTables tables').lagOf? = (ofTables tables).lagOf? := by
  have hmemberships : (ofTables tables').memberships = (ofTables tables).memberships := by
    simp only [ofTables, h.lagMemberKeys]
  funext port
  rw [lagOf?, lagOf?, hmemberships]

/-- The mode of a port or LAG is the one stated first in its record, or else trunk for members of
VLANs and routed for all others; names of neither are routed. In the VLAN column a port shows this
mode of its own only if no LAG claims it. A member shows the mode of the LAG it is shown in, which
is one of the LAGs listed, as the LAG itself does, whatever is said of the member. -/
theorem switchMode_precedence (tables : Tables) :
    let c := ofTables tables
    (∀ name, tables.Names name ↔ c.isPort name ∨ c.isLag name) ∧
    (∀ name mode, c.switchMode name = mode ↔ tables.Mode name mode) ∧
    ∀ (stores : Stores) (lagSpeeds : LagSpeeds) (copperPorts : List String) (port : String),
      let r : CellSource := ⟨stores, c, lagSpeeds, copperPorts⟩
      ((∀ lag, ¬ tables.Claims lag port) →
        ∃ mode, tables.Mode port mode ∧ r.cell .port port .vlan = .ok mode.name) ∧
      ((∃ lag, tables.Claims lag port) → ∃ lag, c.lagOf? port = some lag) ∧
      ∀ lag, c.lagOf? port = some lag →
        lag ∈ c.lagNames ∧ tables.Claims lag port ∧
        (∃ mode, tables.Mode lag mode ∧ r.cell .port port .vlan = .ok mode.name ∧
          r.cell .lag lag .vlan = .ok mode.name) ∧
        ∀ tables', tables.SameBut port tables' → lag ≠ port →
          CellSource.cell ⟨stores, ofTables tables', lagSpeeds, copperPorts⟩ .port port .vlan =
            r.cell .port port .vlan := by
  intro c
  refine ⟨fun _ => names_iff, fun _ _ => switchMode_eq_iff, ?_⟩
  intro stores lagSpeeds copperPorts port r
  have hshown : r.cell .port port .vlan = .ok (c.switchMode ((c.lagOf? port).getD port)).name := rfl
  have hnone : c.lagOf? port = none ↔ ∀ lag, ¬ tables.Claims lag port := by
    rw [lagOf?_eq_none_iff]
    exact forall_congr' fun lag => not_congr mem_members_ofTables
  refine ⟨?_, ?_, ?_⟩
  · intro hclaims
    rw [hshown, hnone.2 hclaims]
    exact ⟨_, mode_switchMode tables port, rfl⟩
  · rintro ⟨lag, hclaim⟩
    refine Option.ne_none_iff_exists'.1 fun hlagOf => ?_
    exact hnone.1 hlagOf lag hclaim
  · intro lag hlagOf
    have hclaim : tables.Claims lag port :=
      mem_members_ofTables.1 (lagOf?_eq_some (sorted_ofTables tables) hlagOf).1
    rw [hshown, hlagOf]
    refine ⟨(lagNames_claims.mem_iff lag).2 (.inr ⟨port, hclaim⟩), hclaim,
      ⟨_, mode_switchMode tables lag, rfl, rfl⟩, ?_⟩
    intro tables' hsame hother
    have hmode : (ofTables tables').switchMode lag = c.switchMode lag :=
      switchMode_eq_iff.2 ((mode_switchMode tables lag).of_sameBut hsame hother)
    have hlagOf' : (ofTables tables').lagOf? port = some lag := by
      rw [lagOf?_of_sameBut hsame]
      exact hlagOf
    show Except.ok ((ofTables tables').switchMode (((ofTables tables').lagOf? port).getD port)).name = _
    rw [hlagOf', Option.getD_some, hmode]

/-- An access port in a LAG that only its member names, and that is in a VLAN. -/
def accessInTrunk : Tables where
  ports := Std.TreeMap.insert ∅ "Ethernet0" [("mode", "access"), ("mode", "routed")]
  lags := ∅
  lagMemberKeys := ["PortChannel1|Ethernet0"]
  vlanMemberKeys := ["Vlan10|PortChannel1"]
  subInterfaceKeys := []

theorem switchMode_precedence_accessInTrunk :
    let r : CellSource := ⟨.empty, ofTables accessInTrunk, [], []⟩
    (ofTables accessInTrunk).switchMode "Ethernet0" = .access ∧
      (ofTables accessInTrunk).switchMode "PortChannel1" = .trunk ∧
      r.cell .port "Ethernet0" .vlan = .ok "trunk" ∧
      r.cell .lag "PortChannel1" .vlan = .ok "trunk" ∧
      CellSource.cell ⟨.empty, ofTables { accessInTrunk with ports := ∅ }, [], []⟩
        .port "Ethernet0" .vlan = .ok "trunk" := by
  intro r
  obtain ⟨-, hmode, hcells⟩ := switchMode_precedence accessInTrunk
  obtain ⟨-, -, hmember⟩ := hcells .empty [] [] "Ethernet0"
  have haccess : accessInTrunk.Mode "Ethernet0" .access :=
    .stated (.inl (by decide)) ⟨[], [("mode", "routed")], by decide, by simp⟩
  have hrecord : accessInTrunk.record "PortChannel1" = [] := by decide
  have htrunk : accessInTrunk.Mode "PortChannel1" .trunk := by
    refine .tagged (.inr (.inr ⟨"Ethernet0", by decide, by decide⟩)) ?_ ⟨"Vlan10", by decide⟩
    intro mode hstates
    rw [hrecord, Record.states_iff] at hstates
    cases hstates
  obtain ⟨-, -, ⟨mode, hlag, hport, hlagCell⟩, hother⟩ := hmember "PortChannel1" (by decide +kernel)
  have hsame : accessInTrunk.SameBut "Ethernet0" { accessInTrunk with ports := ∅ } := by
    refine ⟨fun other hne => ?_, fun _ _ => rfl, rfl, fun _ _ => Iff.rfl⟩
    show none = (Std.TreeMap.insert ∅ "Ethernet0" _ : Std.TreeMap String Record)[other]?
    simp [Ne.symm hne]
  have htrunk' := (hmode _ _).2 htrunk
  rw [(hmode _ _).2 hlag] at htrunk'
  subst htrunk'
  exact ⟨(hmode _ _).2 haccess, (hmode _ _).2 htrunk, hport, hlagCell,
    (hother _ hsame (by decide)).trans hport⟩

end Catalog

end InterfaceReport
