import InterfaceReport.Proofs.NaturalOrder.Stem
import InterfaceReport.Proofs.Store.Listing
import Mathlib.Data.List.Dedup

/-! Who is a member of which LAG. The catalog answers this from both sides: by the members of a LAG
and by the LAG of a port. Both come from the keys that write memberships, in their natural order;
since that order puts equal keys next to each other, a port is in conflict once for each LAG that
claims it after another one. -/

namespace InterfaceReport

open Std

namespace Tables

/-- A key pairs `lag` with `port`: the bar between them is the first one. -/
def Claims (tables : Tables) (lag port : String) : Prop :=
  '|' ∉ lag.toList ∧ lag ++ "|" ++ port ∈ tables.lagMemberKeys

end Tables

namespace Membership

/-- The key that writes a membership. -/
def key (m : Membership) : String := m.lag ++ "|" ++ m.member

theorem ofKey?_eq_some_iff {key : String} {m : Membership} :
    ofKey? key = some m ↔ key = m.key ∧ '|' ∉ m.lag.toList := by
  have hkey : key = m.key ↔ key.toList = m.lag.toList ++ '|' :: m.member.toList := by
    rw [← String.toList_inj, Membership.key, String.toList_append, String.toList_append,
      List.append_assoc]
    rfl
  rw [hkey, ← Text.cut?_eq_some_iff, ofKey?, Option.map_eq_some_iff]
  constructor
  · rintro ⟨⟨lag, member⟩, hcut, rfl⟩
    exact hcut
  · intro hcut
    exact ⟨_, hcut, rfl⟩

/-- Within a LAG the keys are in the order of the members: what they share is taken off. -/
theorem naturalCompare_key (lag a b : String) :
    naturalCompare (key ⟨lag, a⟩) (key ⟨lag, b⟩) = naturalCompare a b := by
  apply naturalCompare_append_left
  intro c hc
  have hbar : c = '|' := by
    rw [String.toList_append, show "|".toList = ['|'] from rfl, List.getLast?_concat] at hc
    exact (Option.some.inj hc).symm
  rw [hbar]
  decide

/-- The memberships of one port are written by different keys for different LAGs. -/
theorem lag_eq_of_key_eq {a b port : String} (h : key ⟨a, port⟩ = key ⟨b, port⟩) : a = b := by
  unfold key at h
  rwa [String.append_left_inj, String.append_left_inj] at h

end Membership

namespace Catalog

variable {c : Catalog} {tables : Tables} {lag port : String}

/-! ### The members of a LAG -/

theorem mem_members : port ∈ c.members lag ↔ (⟨lag, port⟩ : Membership) ∈ c.memberships := by
  simp only [members, List.mem_map, List.mem_filter, beq_iff_eq]
  constructor
  · rintro ⟨m, ⟨hm, rfl⟩, rfl⟩
    exact hm
  · intro hm
    exact ⟨_, ⟨hm, rfl⟩, rfl⟩

theorem count_members : (c.members lag).count port = c.memberships.count ⟨lag, port⟩ := by
  rw [members, List.count_eq_countP, List.countP_map, List.countP_filter, List.count_eq_countP]
  apply List.countP_congr
  rintro ⟨l, p⟩ -
  simp [and_comm]

theorem count_memberships : (ofTables tables).memberships.count ⟨lag, port⟩ =
    if '|' ∈ lag.toList then 0 else tables.lagMemberKeys.count (lag ++ "|" ++ port) := by
  have hperm : ((ofTables tables).memberships).Perm
      (tables.lagMemberKeys.filterMap Membership.ofKey?) := (naturalSort_perm _).filterMap _
  rw [hperm.count_eq, List.count_filterMap]
  split
  · next hbar =>
    apply List.countP_eq_zero.2
    intro key _ hkey
    rw [beq_iff_eq, Membership.ofKey?_eq_some_iff] at hkey
    exact hkey.2 hbar
  · next hbar =>
    rw [List.count_eq_countP]
    apply List.countP_congr
    intro key _
    rw [beq_iff_eq, beq_iff_eq, Membership.ofKey?_eq_some_iff]
    exact and_iff_left hbar

theorem mem_memberships :
    (⟨lag, port⟩ : Membership) ∈ (ofTables tables).memberships ↔ tables.Claims lag port := by
  rw [← List.count_pos_iff, count_memberships, Tables.Claims]
  split
  · next hbar => exact ⟨fun h => absurd h (Nat.lt_irrefl 0), fun h => absurd hbar h.1⟩
  · next hbar => rw [List.count_pos_iff]; exact (and_iff_right hbar).symm

theorem mem_members_ofTables : port ∈ (ofTables tables).members lag ↔ tables.Claims lag port :=
  mem_members.trans mem_memberships

/-- The memberships are in the natural order of the keys that write them. -/
def Sorted (c : Catalog) : Prop := c.memberships.Pairwise fun m m' => naturalLe m.key m'.key

theorem sorted_ofTables (tables : Tables) : (ofTables tables).Sorted := by
  apply List.Pairwise.filterMap _ _ (pairwise_naturalSort tables.lagMemberKeys)
  intro key key' hle m hm m' hm'
  rw [Membership.ofKey?_eq_some_iff] at hm hm'
  rw [← hm.1, ← hm'.1]
  exact hle

theorem pairwise_members (hc : c.Sorted) (lag : String) :
    (c.members lag).Pairwise fun a b => naturalLe a b := by
  rw [members, List.pairwise_map]
  refine (List.Pairwise.filter _ hc).imp_of_mem ?_
  rintro ⟨l, a⟩ ⟨l', b⟩ ha hb hle
  have hl : l = lag := by simpa using (List.mem_filter.1 ha).2
  have hl' : l' = lag := by simpa using (List.mem_filter.1 hb).2
  subst hl hl'
  rw [naturalLe, Membership.naturalCompare_key] at hle
  exact hle

theorem lagNames_claims : NaturalListing
    (fun lag => lag ∈ tables.lags ∨ ∃ port, tables.Claims lag port) (ofTables tables).lagNames := by
  refine (lagNames_listing _).congr fun lag => ?_
  rw [isLag, Bool.or_eq_true, TreeMap.contains_iff_mem, List.any_eq_true]
  apply or_congr_right
  constructor
  · rintro ⟨⟨l, port⟩, hm, hl⟩
    rw [beq_iff_eq] at hl
    subst hl
    exact ⟨port, mem_memberships.1 hm⟩
  · rintro ⟨port, hclaim⟩
    exact ⟨_, mem_memberships.2 hclaim, beq_self_eq_true lag⟩

/-! ### The LAG of a port -/

theorem lagOf?_eq_none_iff : c.lagOf? port = none ↔ ∀ lag, port ∉ c.members lag := by
  rw [lagOf?, Option.map_eq_none_iff, List.findRev?_eq_find?_reverse, List.find?_eq_none]
  constructor
  · intro h lag hmem
    exact h _ (List.mem_reverse.2 (mem_members.1 hmem)) (beq_self_eq_true port)
  · rintro h ⟨lag, member⟩ hm hmember
    rw [beq_iff_eq] at hmember
    subst hmember
    exact h lag (mem_members.2 (List.mem_reverse.1 hm))

/-- The last LAG to claim a port is the one with the greatest key. -/
theorem lagOf?_eq_some (hc : c.Sorted) (h : c.lagOf? port = some lag) :
    port ∈ c.members lag ∧ ∀ other, port ∈ c.members other →
      naturalLe (other ++ "|" ++ port) (lag ++ "|" ++ port) := by
  rw [lagOf?, Option.map_eq_some_iff, List.findRev?_eq_find?_reverse] at h
  obtain ⟨⟨l, member⟩, hfind, rfl⟩ := h
  obtain ⟨hmember, after, before, hsplit, hafter⟩ := List.find?_eq_some_iff_append.1 hfind
  rw [beq_iff_eq] at hmember
  subst hmember
  have hsorted : c.memberships = before.reverse ++ ⟨l, member⟩ :: after.reverse := by
    rw [← List.reverse_reverse c.memberships, hsplit]
    simp
  have hothers : ∀ m ∈ after.reverse, m.member ≠ member := fun m hm => by
    simpa using hafter m (List.mem_reverse.1 hm)
  refine ⟨mem_members.2 (by simp [hsorted]), ?_⟩
  intro other hother
  rw [mem_members, hsorted, List.mem_append, List.mem_cons] at hother
  rcases hother with hbefore | hsame | hlater
  · rw [Sorted, hsorted, List.pairwise_append] at hc
    exact hc.2.2 _ hbefore _ List.mem_cons_self
  · have hlag : other = l := congrArg Membership.lag hsame
    rw [hlag]
    exact naturalLe_refl _
  · exact absurd rfl (hothers _ hlater)

/-! ### Conflicts -/

/-- How often the next LAG is another one than the LAG before it. -/
def changes : Option String → List String → Nat
  | _, [] => 0
  | previous, lag :: rest => (if previous.any (· != lag) then 1 else 0) + changes (some lag) rest

/-- The LAGs that claim `port`, in the order of the memberships. -/
def claimants (port : String) (memberships : List Membership) : List String :=
  (memberships.filter (·.member == port)).map (·.lag)

/-- A port is in conflict where the LAG that claims it changes. Of the earlier memberships the last
comes first. -/
theorem count_conflictsAfter (port : String) (earlier rest : List Membership) :
    (conflictsAfter earlier rest).count port =
      changes (claimants port earlier).head? (claimants port rest) := by
  induction rest generalizing earlier with
  | nil => rfl
  | cons m rest ih =>
    obtain ⟨lag, member⟩ := m
    have ih := ih (⟨lag, member⟩ :: earlier)
    have hhead : (claimants member earlier).head? =
        (earlier.find? (·.member == member)).map (·.lag) := by
      rw [claimants, List.head?_map, List.head?_filter]
    by_cases hmember : member = port
    · subst hmember
      simp only [claimants, List.filter_cons, beq_self_eq_true, if_true, List.map_cons,
        List.head?_cons] at ih
      simp only [claimants, List.filter_cons, beq_self_eq_true, if_true, List.map_cons, changes]
      rw [← ih, ← claimants, hhead, conflictsAfter]
      cases hfind : earlier.find? (·.member == member) with
      | none => simp
      | some previous =>
        by_cases hlag : previous.lag = lag
        · simp [hlag]
        · simp [hlag, Nat.add_comm]
    · have hskip : ∀ ms, claimants port (⟨lag, member⟩ :: ms) = claimants port ms := by
        intro ms
        rw [claimants, List.filter_cons_of_neg (by simpa using hmember), claimants]
      rw [hskip, ← hskip earlier, ← ih, conflictsAfter]
      split
      · split
        · rfl
        · exact List.count_cons_of_ne hmember
      · rfl

/-- Equal LAGs in a row are one; where they stand in order, each of the others is a change. -/
theorem changes_of_sorted {R : String → String → Prop} (antisymm : ∀ a b, R a b → R b a → a = b)
    {lag : String} {rest : List String} (h : (lag :: rest).Pairwise R) :
    changes (some lag) rest + 1 = (lag :: rest).dedup.length := by
  induction rest generalizing lag with
  | nil => rfl
  | cons next rest ih =>
    obtain ⟨hlag, hrest⟩ := List.pairwise_cons.1 h
    have ih := ih hrest
    by_cases hnext : lag = next
    · subst hnext
      rw [List.dedup_cons_of_mem List.mem_cons_self, ← ih]
      simp [changes]
    · -- a LAG that came back would be both before and after the one between
      have hnew : lag ∉ next :: rest := by
        intro hmem
        rcases List.mem_cons.1 hmem with heq | hlater
        · exact hnext heq
        · have hle : R lag next := hlag next List.mem_cons_self
          exact hnext (antisymm _ _ hle ((List.pairwise_cons.1 hrest).1 lag hlater))
      rw [List.dedup_cons_of_notMem hnew, List.length_cons, ← ih]
      simp [changes, hnext, Nat.add_comm]

theorem mem_claimants {lag : String} : lag ∈ claimants port c.memberships ↔
    port ∈ c.members lag := by
  rw [mem_members]
  simp only [claimants, List.mem_map, List.mem_filter, beq_iff_eq]
  constructor
  · rintro ⟨m, ⟨hm, rfl⟩, rfl⟩
    exact hm
  · intro hm
    exact ⟨_, ⟨hm, rfl⟩, rfl⟩

theorem count_conflicts (hc : c.Sorted) (port : String) :
    c.conflicts.count port = (claimants port c.memberships).dedup.length - 1 := by
  rw [conflicts, count_conflictsAfter]
  have hsorted : (claimants port c.memberships).Pairwise fun a b =>
      naturalLe (Membership.key ⟨a, port⟩) (Membership.key ⟨b, port⟩) := by
    rw [claimants, List.pairwise_map]
    refine (List.Pairwise.filter _ hc).imp_of_mem ?_
    rintro ⟨a, p⟩ ⟨b, q⟩ ha hb hle
    have hp : p = port := by simpa using (List.mem_filter.1 ha).2
    have hq : q = port := by simpa using (List.mem_filter.1 hb).2
    subst hp hq
    exact hle
  cases hclaims : claimants port c.memberships with
  | nil => rfl
  | cons lag rest =>
    rw [hclaims] at hsorted
    have hchanges : changes (some lag) rest + 1 = (lag :: rest).dedup.length := by
      apply changes_of_sorted _ hsorted
      intro a b hab hba
      exact Membership.lag_eq_of_key_eq (naturalLe_antisymm hab hba)
    have hfirst : changes none (lag :: rest) = changes (some lag) rest := by simp [changes]
    rw [← hchanges]
    exact hfirst

theorem lag_unique (hc : c.Sorted) (h : port ∉ c.conflicts) {a b : String}
    (ha : port ∈ c.members a) (hb : port ∈ c.members b) : a = b := by
  have hcount := count_conflicts hc port
  rw [List.count_eq_zero_of_not_mem h] at hcount
  rw [← mem_claimants, ← List.mem_dedup] at ha hb
  cases hlags : (claimants port c.memberships).dedup with
  | nil =>
    rw [hlags] at ha
    cases ha
  | cons lag rest =>
    rw [hlags] at ha hb hcount
    have hrest : rest = [] := List.eq_nil_of_length_eq_zero hcount.symm
    rw [hrest, List.mem_singleton] at ha hb
    rw [ha, hb]

/-- The LAGs that claim a port, each once and in natural order. -/
theorem claimants_listing (c : Catalog) (port : String) : NaturalListing
    (fun lag => port ∈ c.members lag) (naturalSort (claimants port c.memberships).dedup) := by
  refine (NaturalListing.of_nodup (List.nodup_dedup _)).congr fun lag => ?_
  rw [List.mem_dedup, mem_claimants]

/-- The LAGs of a catalog are those configured and those that a key pairs with a port. A LAG has as
members the ports that it is paired with, as often as there are such keys and in natural order; the
LAG of a port is the one with the greatest of the keys that claim it; and a port is in conflict once
for each LAG that claims it beyond the first. Without a conflict the two sides agree. -/
theorem membership_consistent (tables : Tables) :
    let c := ofTables tables
    NaturalListing (fun lag => lag ∈ tables.lags ∨ ∃ port, tables.Claims lag port) c.lagNames ∧
    (∀ lag, (c.members lag).Pairwise (fun a b => naturalLe a b) ∧
      ∀ port, (c.members lag).count port =
        if '|' ∈ lag.toList then 0 else tables.lagMemberKeys.count (lag ++ "|" ++ port)) ∧
    ∀ port,
      (c.lagOf? port = none ↔ ∀ lag, ¬ tables.Claims lag port) ∧
      (∀ lag, c.lagOf? port = some lag → port ∈ c.members lag ∧ tables.Claims lag port ∧
        ∀ other, tables.Claims other port →
          naturalLe (other ++ "|" ++ port) (lag ++ "|" ++ port)) ∧
      (∃ lags, NaturalListing (tables.Claims · port) lags ∧
        c.conflicts.count port = lags.length - 1) ∧
      (port ∉ c.conflicts → ∀ lag, c.lagOf? port = some lag ↔ port ∈ c.members lag) := by
  intro c
  have hc : c.Sorted := sorted_ofTables tables
  have hclaims : ∀ lag port, port ∈ c.members lag ↔ tables.Claims lag port :=
    fun _ _ => mem_members_ofTables
  refine ⟨lagNames_claims, ?_, ?_⟩
  · intro lag
    refine ⟨pairwise_members hc lag, fun port => ?_⟩
    rw [count_members]
    exact count_memberships
  · intro port
    have hlisting : NaturalListing (tables.Claims · port)
        (naturalSort (claimants port c.memberships).dedup) :=
      (claimants_listing c port).congr fun lag => hclaims lag port
    have hcount : c.conflicts.count port =
        (naturalSort (claimants port c.memberships).dedup).length - 1 := by
      rw [(naturalSort_perm _).length_eq]
      exact count_conflicts hc port
    refine ⟨?_, ?_, ⟨_, hlisting, hcount⟩, ?_⟩
    · rw [lagOf?_eq_none_iff]
      exact forall_congr' fun lag => not_congr (hclaims lag port)
    · intro lag hlag
      obtain ⟨hmem, hgreatest⟩ := lagOf?_eq_some hc hlag
      refine ⟨hmem, (hclaims lag port).1 hmem, fun other hother => ?_⟩
      exact hgreatest other ((hclaims other port).2 hother)
    · intro hnone lag
      constructor
      · intro hlag
        exact (lagOf?_eq_some hc hlag).1
      · intro hmem
        cases hlagOf : c.lagOf? port with
        | none => exact absurd hmem (lagOf?_eq_none_iff.1 hlagOf lag)
        | some other =>
          have hother : port ∈ c.members other := (lagOf?_eq_some hc hlagOf).1
          rw [lag_unique hc hnone hother hmem]

/-- A port in two LAGs, one of them named by two keys, beside a key without a bar. -/
def sharedPort : Tables where
  ports := ∅
  lags := ∅
  lagMemberKeys := ["PortChannel10|Ethernet0", "PortChannel9|Ethernet0",
    "PortChannel2|Ethernet4", "PortChannel9|Ethernet0", "Ethernet0"]
  vlanMemberKeys := []
  subInterfaceKeys := []

theorem memberships_sharedPort : (ofTables sharedPort).memberships =
    [⟨"PortChannel2", "Ethernet4"⟩, ⟨"PortChannel9", "Ethernet0"⟩, ⟨"PortChannel9", "Ethernet0"⟩,
      ⟨"PortChannel10", "Ethernet0"⟩] := by
  have hsort : naturalSort sharedPort.lagMemberKeys =
      ["Ethernet0", "PortChannel2|Ethernet4", "PortChannel9|Ethernet0", "PortChannel9|Ethernet0",
        "PortChannel10|Ethernet0"] := by
    apply naturalSort_eq
    · decide
    · simp only [List.pairwise_cons, List.forall_mem_cons, List.not_mem_nil, false_imp_iff,
        implies_true, List.Pairwise.nil, and_true]
      decide
  show (naturalSort sharedPort.lagMemberKeys).filterMap Membership.ofKey? = _
  rw [hsort]
  decide

theorem membership_consistent_sharedPort :
    (ofTables sharedPort).lagOf? "Ethernet0" = some "PortChannel10" ∧
      sharedPort.Claims "PortChannel10" "Ethernet0" ∧
      "Ethernet4" ∉ (ofTables sharedPort).conflicts ∧
      (ofTables sharedPort).lagOf? "Ethernet4" = some "PortChannel2" := by
  obtain ⟨-, -, hports⟩ := membership_consistent sharedPort
  have hlag : (ofTables sharedPort).lagOf? "Ethernet0" = some "PortChannel10" := by
    rw [lagOf?, memberships_sharedPort]
    decide
  have hnone : "Ethernet4" ∉ (ofTables sharedPort).conflicts := by
    rw [conflicts, memberships_sharedPort]
    decide
  have hmember : "Ethernet4" ∈ (ofTables sharedPort).members "PortChannel2" := by
    rw [members, memberships_sharedPort]
    decide
  obtain ⟨-, hgreatest, -, -⟩ := hports "Ethernet0"
  obtain ⟨-, -, -, hagree⟩ := hports "Ethernet4"
  exact ⟨hlag, (hgreatest _ hlag).2.1, hnone, (hagree hnone _).2 hmember⟩

end Catalog

end InterfaceReport
