import Mathlib
import InterfaceReport.Proofs.Cell.LagSpeed
import InterfaceReport.Proofs.Cell.Locality
import InterfaceReport.Proofs.Cell.Lookups

/-! Every cell shows a text. A rule that finds nothing shows a text of its own, and a speed that
cannot be read is shown as not available. -/

namespace InterfaceReport

open Steps

/-! ### Texts that are not empty -/

namespace Speed

theorem format_ne_empty (speed : Nat) (optics : String) : format speed optics ≠ "" := by
  have happend : ∀ number unit : String, unit ≠ "" → number ++ unit ≠ "" := by
    intro number unit hunit h
    exact hunit (String.append_eq_empty_iff.1 h).2
  unfold format
  split
  · exact happend _ _ (by decide)
  · split <;> exact happend _ _ (by decide)

theorem formatText_ne_empty {raw optics text : String} (h : formatText raw optics = .ok text) :
    text ≠ "" := by
  unfold formatText at h
  cases hparse : parse raw with
  | error e =>
    rw [hparse] at h
    cases h
  | ok speed =>
    rw [hparse] at h
    cases h
    exact format_ne_empty speed optics

theorem mem_listItems {raw item : String} :
    item ∈ listItems raw ↔ ∃ piece ∈ Text.pieces ',' raw, Text.trim piece = item := by
  rw [listItems, mem_naturalSort, List.mem_map]

theorem listItems_ne_nil (raw : String) : listItems raw ≠ [] := by
  obtain ⟨piece, hpiece⟩ := List.exists_mem_of_ne_nil (Text.pieces ',' raw) fun h =>
    List.splitOn_ne_nil _ _ (List.map_eq_nil_iff.1 h)
  exact List.ne_nil_of_mem (mem_listItems.2 ⟨piece, hpiece, rfl⟩)

theorem formatList_ne_empty {raw optics text : String} (hraw : raw ≠ "")
    (h : formatList raw optics = .ok text) : text ≠ "" := by
  unfold formatList at h
  split at h
  · cases h
    exact hraw
  · obtain ⟨texts, htexts, h⟩ := bind_eq_ok_iff.1 h
    cases h
    have hitems := listItems_ne_nil raw
    generalize listItems raw = items at htexts hitems
    cases mapM_eq_ok_iff.1 htexts with
    | nil => exact absurd rfl hitems
    | @cons _ first _ rest hfirst _ =>
      have hne := formatText_ne_empty hfirst
      cases rest with
      | nil => simpa using hne
      | cons second rest => simp [String.append_eq_empty_iff, hne]

end Speed

/-- The reading gives a text that is not empty. -/
def Displays (x : Except StoreError String) : Prop := ∃ text, x = .ok text ∧ text ≠ ""

theorem Stores.displays_optics {stores : Stores} (available : stores.Available)
    (copperPorts : List String) (port : String) : Displays (stores.optics copperPorts port) := by
  obtain ⟨type, h⟩ := stores.exists_optics
    (Database.accept_of_available available.appl .hget)
    (Database.accept_of_available available.state .hget) copperPorts port
  refine ⟨type, h, ?_⟩
  obtain ⟨stated, -, h⟩ := bind_eq_ok_iff.1 h
  split at h
  · next value hvalue =>
    cases h
    simpa using (Option.filter_eq_some_iff.1 hvalue).2
  · split at h
    · cases h
      decide
    · obtain ⟨role, -, h⟩ := bind_eq_ok_iff.1 h
      split at h <;> cases h <;> decide

theorem LagSpeed.ne_empty_of_ofMembers {members : List Contribution} {text : String}
    (h : ofMembers members = .ok (some text)) : text ≠ "" := by
  match members with
  | [] => cases h
  | [m] =>
    obtain ⟨raw, -, htext⟩ := Option.bind_eq_some_iff.1 (Except.ok.inj h)
    exact Speed.formatText_ne_empty (toOption_eq_some_iff.1 htext)
  | m :: n :: rest =>
    simp only [ofMembers] at h
    split at h
    · cases h
      exact Speed.format_ne_empty _ _
    · cases h

theorem LagSpeeds.ne_empty_of_get? {stores : Stores} {catalog : Catalog}
    {copperPorts : List String} {speeds : LagSpeeds} {lag text : String}
    (h : compute stores catalog copperPorts = .ok speeds) (htext : speeds.get? lag = some text) :
    text ≠ "" := by
  rw [get?_of_compute h] at htext
  split at htext
  · obtain ⟨members, -, hshown⟩ :=
      bind_eq_ok_iff.1 (toOption_eq_some_iff.1 (Option.join_eq_some_iff.1 htext))
    exact LagSpeed.ne_empty_of_ofMembers hshown
  · cases htext

theorem Rule.Serves.absent {a : Attribute} {rule : Rule} (h : rule.Serves a) :
    rule.absent ≠ "" := by
  rcases h with hport | hlag | hsub
  · cases a <;> cases hport <;> decide
  · cases a <;> cases hlag <;> decide
  · cases a <;> cases hsub <;> decide

/-! ### Every cell -/

namespace CellSource

variable {r : CellSource} (available : r.stores.Available)
include available

theorem follow_of_none {rule : Rule} {key : String}
    (h : rule.lookups.findSome? (r.stores.usable? key) = none) :
    r.follow rule key = .ok rule.absent := by
  rw [follow, Stores.firstValue_eq available, h]
  rfl

theorem follow_of_some {rule : Rule} {key value : String} {shown : Option String}
    (h : rule.lookups.findSome? (r.stores.usable? key) = some value)
    (hshow : r.show? key value rule.display = .ok shown) :
    r.follow rule key = .ok (shown.getD notAvailable) := by
  rw [follow, Stores.firstValue_eq available, h]
  simp only [ok_bind, hshow, pure_eq_ok]

theorem exists_show? {key value : String} (hvalue : value ≠ "") (display : Display) :
    ∃ shown, r.show? key value display = .ok shown ∧ ∀ text ∈ shown, text ≠ "" := by
  obtain ⟨optics, hoptics, -⟩ := Stores.displays_optics available r.copperPorts key
  cases display with
  | verbatim => exact ⟨some value, rfl, by simpa using hvalue⟩
  | enabling =>
    refine ⟨_, rfl, ?_⟩
    split <;> simp
  | speed =>
    refine ⟨_, by rw [show?, hoptics]; rfl, fun text htext => ?_⟩
    exact Speed.formatText_ne_empty (toOption_eq_some_iff.1 htext)
  | speedList =>
    refine ⟨_, by rw [show?, hoptics]; rfl, fun text htext => ?_⟩
    exact Speed.formatList_ne_empty hvalue (toOption_eq_some_iff.1 htext)

theorem displays_follow {rule : Rule} (habsent : rule.absent ≠ "") (key : String) :
    Displays (r.follow rule key) := by
  cases hvalue : rule.lookups.findSome? (r.stores.usable? key) with
  | none => exact ⟨_, follow_of_none available hvalue, habsent⟩
  | some value =>
    obtain ⟨shown, hshow, hshown⟩ := exists_show? available
      (Stores.informative_of_findSome? hvalue).1 rule.display
    refine ⟨_, follow_of_some available hvalue hshow, ?_⟩
    cases shown with
    | none => decide
    | some text => exact hshown text rfl

variable (hspeeds : LagSpeeds.compute r.stores r.catalog r.copperPorts = .ok r.lagSpeeds)
include hspeeds

theorem displays_read {a : Attribute} {o : Origin} (ho : o.Serves a) : Displays (r.read o) := by
  cases ho with
  | text htext => exact ⟨_, rfl, htext⟩
  | rule key hrule => exact displays_follow available hrule.absent key
  | optics port => exact Stores.displays_optics available r.copperPorts port
  | lagSpeed lag =>
    refine ⟨_, rfl, ?_⟩
    cases htext : r.lagSpeeds.get? lag with
    | none => decide
    | some text => exact LagSpeeds.ne_empty_of_get? hspeeds htext

theorem displays_cell (kind : InterfaceKind) (name : String) (a : Attribute) :
    Displays (r.cell kind name a) := by
  rw [cell_eq]
  exact displays_read available hspeeds (r.catalog.serves_origin kind name a)

end CellSource

/-! ### Values that cannot be read -/

/-- A value that a port's attribute cannot have: a speed that is no number, or a list in which one
of the speeds is none. -/
def Attribute.Malformed : Attribute → String → Prop
  | .speed, value => Speed.ofText? value = none
  | .advSpeeds, value | .rmtAdvSpeeds, value =>
    value ≠ "all" ∧ ∃ piece ∈ Text.pieces ',' value, Speed.ofText? (Text.trim piece) = none
  | _, _ => False

namespace Speed

theorem toOption_formatText_of_none {raw : String} (h : ofText? raw = none) (optics : String) :
    (formatText raw optics).toOption = none := by
  rw [formatText, parse, h]
  rfl

theorem toOption_formatList_of_mem {raw item : String} (hraw : raw ≠ notAvailable)
    (hall : raw ≠ "all") (hitem : item ∈ listItems raw) (h : ofText? item = none)
    (optics : String) : (formatList raw optics).toOption = none := by
  rw [Option.eq_none_iff_forall_not_mem]
  intro text htext
  have hlist := toOption_eq_some_iff.1 htext
  rw [formatList, if_neg (by simp [hraw, hall])] at hlist
  obtain ⟨texts, htexts, -⟩ := bind_eq_ok_iff.1 hlist
  obtain ⟨shown, hshown⟩ := ok_of_mapM_eq_ok htexts hitem
  have hnone := toOption_formatText_of_none h optics
  rw [toOption_eq_some_iff.2 hshown] at hnone
  cases hnone

end Speed

namespace CellSource

theorem show?_of_malformed {r : CellSource} (available : r.stores.Available)
    {a : Attribute} {rule : Rule} (hrule : Rule.port? a = some rule) {value : String}
    (hvalue : value ≠ notAvailable) (h : a.Malformed value) (key : String) :
    r.show? key value rule.display = .ok none := by
  obtain ⟨optics, hoptics, -⟩ := Stores.displays_optics available r.copperPorts key
  cases a with
  | speed =>
    cases hrule
    simp only [show?, hoptics, ok_bind, pure_eq_ok, Speed.toOption_formatText_of_none h]
  | advSpeeds | rmtAdvSpeeds =>
    cases hrule
    obtain ⟨hall, piece, hpiece, hnone⟩ := h
    have hlist := Speed.toOption_formatList_of_mem hvalue hall
      (Speed.mem_listItems.2 ⟨piece, hpiece, rfl⟩) hnone optics
    simp only [show?, hoptics, ok_bind, pure_eq_ok, hlist]
  | _ => exact h.elim

/-- Where the databases refuse nothing, the catalog can be built, and the speeds of the LAGs too if
their sums fit. Every cell then shows a text. Where a rule finds nothing that says something, the
cell shows the text of the rule, and where the first value found for a speed or a list of speeds
cannot be read, it is shown as not available. -/
theorem cells_displayed (stores : Stores) (ns : Namespace) (copperPorts : List String)
    (available : stores.Available) :
    ∃ catalog, Catalog.ofStores ns stores = .ok catalog ∧
      (LagSpeeds.Fit stores catalog copperPorts →
        ∃ lagSpeeds, LagSpeeds.compute stores catalog copperPorts = .ok lagSpeeds) ∧
      ∀ lagSpeeds, LagSpeeds.compute stores catalog copperPorts = .ok lagSpeeds →
        let r : CellSource := ⟨stores, catalog, lagSpeeds, copperPorts⟩
        (∀ kind name a, ∃ text, r.cell kind name a = .ok text ∧ text ≠ "") ∧
        (∀ kind name a rule key, catalog.origin kind name a = .rule rule key →
          (∀ l ∈ rule.lookups, stores.Admits key l →
            ∀ value, stores.held? key l = some value → value = "" ∨ value = notAvailable) →
          r.cell kind name a = .ok rule.absent) ∧
        ∀ port a rule value, Rule.port? a = some rule →
          rule.lookups.findSome? (stores.usable? port) = some value → a.Malformed value →
          r.cell .port port a = .ok notAvailable := by
  have hcatalog : Catalog.ofStores ns stores =
      .ok (Catalog.ofTables (stores.config.answers.tables stores.config.kind)) := by
    rw [Catalog.ofStores, Database.read_eq available.config]
  refine ⟨_, hcatalog, ?_, ?_⟩
  · intro hfit
    have hstores := Stores.restored_of_available available
    have hagrees := LagSpeeds.agrees_compute stores _ copperPorts (by rwa [hstores])
    rw [hstores] at hagrees
    exact hagrees.exists_ok
  · intro lagSpeeds hspeeds r
    refine ⟨displays_cell (r := r) available hspeeds, ?_, ?_⟩
    · intro kind name a rule key horigin hnothing
      rw [cell_eq, horigin]
      apply follow_of_none (r := r) available
      rw [List.findSome?_eq_none_iff]
      intro l hl
      exact Stores.usable?_eq_none_iff.2 (hnothing l hl)
    · intro port a rule value hrule hvalue hmalformed
      have hshow := show?_of_malformed (r := r) available hrule
        (Stores.informative_of_findSome? hvalue).2 hmalformed port
      rw [cell_eq, Catalog.origin_port _ hrule]
      exact follow_of_some (r := r) available hvalue hshow

/-- A port whose speed is no number, and which has no tag protocol. -/
def unreadableSpeed : Stores where
  config := (Database.empty .config).putEntry "PORT" "Ethernet0" []
  appl := (Database.empty .appl).putEntry "PORT_TABLE" "Ethernet0" [("speed", "fast")]
  state := .empty .state

theorem cells_displayed_unreadableSpeed :
    ∃ catalog lagSpeeds, Catalog.ofStores .host unreadableSpeed = .ok catalog ∧
      LagSpeeds.compute unreadableSpeed catalog [] = .ok lagSpeeds ∧
      let r : CellSource := ⟨unreadableSpeed, catalog, lagSpeeds, []⟩
      r.cell .port "Ethernet0" .speed = .ok "N/A" ∧
      r.cell .port "Ethernet0" .tpid = .ok "0x8100" := by
  have available : unreadableSpeed.Available := ⟨rfl, rfl, rfl⟩
  obtain ⟨catalog, hcatalog, -, hcells⟩ := cells_displayed unreadableSpeed .host [] available
  have hspeeds : ((Catalog.ofStores .host unreadableSpeed).mapError fun _ => .overflow).bind
      (LagSpeeds.compute unreadableSpeed · []) = .ok [] := by
    cbv
  rw [hcatalog] at hspeeds
  obtain ⟨-, habsent, hmalformed⟩ := hcells [] hspeeds
  refine ⟨catalog, [], hcatalog, hspeeds, ?_, ?_⟩
  · exact hmalformed "Ethernet0" .speed _ "fast" rfl (by decide)
      (show Speed.ofText? "fast" = none by decide)
  · have hnone : unreadableSpeed.held? "Ethernet0" (.portStatus Schema.tpid) = none := by decide
    refine habsent .port "Ethernet0" .tpid _ "Ethernet0" rfl fun l hl _ value hvalue => ?_
    rw [List.mem_singleton.1 hl, hnone] at hvalue
    cases hvalue

end CellSource

end InterfaceReport
