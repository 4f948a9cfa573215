import InterfaceReport.Proofs.Steps
import InterfaceReport.Watermark

/-! Clearing a watermark in one namespace after the other. The namespaces before the first that
fails get the request, that one is asked in vain, and no other is asked. -/

namespace InterfaceReport

open Steps

/-! ### The first that fails -/

/-- There are `j` items before the first that is not accepted; all of them are counted if each is. -/
structure Reaches {α : Type} (accepted : α → Prop) (xs : List α) (j : Nat) : Prop where
  le : j ≤ xs.length
  before : ∀ x ∈ xs.take j, accepted x
  stops : ∀ x, xs[j]? = some x → ¬ accepted x

section

variable {α β : Type} {p q : α → Prop} {x : α} {xs : List α} {j k : Nat}

theorem reaches_cons_zero_iff : Reaches p (x :: xs) 0 ↔ ¬ p x := by
  constructor
  · exact fun h => h.stops x rfl
  · intro h
    refine ⟨Nat.zero_le _, by simp, ?_⟩
    rintro _ ⟨⟩
    exact h

theorem reaches_cons_succ_iff : Reaches p (x :: xs) (j + 1) ↔ p x ∧ Reaches p xs j := by
  constructor
  · rintro ⟨hle, hbefore, hstops⟩
    rw [List.take_succ_cons, List.forall_mem_cons] at hbefore
    exact ⟨hbefore.1, Nat.le_of_succ_le_succ hle, hbefore.2, hstops⟩
  · rintro ⟨hx, hle, hbefore, hstops⟩
    refine ⟨Nat.succ_le_succ hle, ?_, hstops⟩
    rw [List.take_succ_cons, List.forall_mem_cons]
    exact ⟨hx, hbefore⟩

theorem exists_reaches (p : α → Prop) (xs : List α) : ∃ j, Reaches p xs j := by
  induction xs with
  | nil => exact ⟨0, Nat.le_refl 0, by simp, by simp⟩
  | cons x xs ih =>
    obtain ⟨j, hj⟩ := ih
    by_cases hx : p x
    · exact ⟨j + 1, reaches_cons_succ_iff.2 ⟨hx, hj⟩⟩
    · exact ⟨0, reaches_cons_zero_iff.2 hx⟩

theorem Reaches.unique (hj : Reaches p xs j) (hk : Reaches p xs k) : j = k := by
  induction xs generalizing j k with
  | nil => exact (Nat.le_zero.1 hj.le).trans (Nat.le_zero.1 hk.le).symm
  | cons x xs ih =>
    cases j with
    | zero =>
      cases k with
      | zero => rfl
      | succ k => exact absurd (reaches_cons_succ_iff.1 hk).1 (reaches_cons_zero_iff.1 hj)
    | succ j =>
      obtain ⟨hx, hj⟩ := reaches_cons_succ_iff.1 hj
      cases k with
      | zero => exact absurd hx (reaches_cons_zero_iff.1 hk)
      | succ k => exact congrArg Nat.succ (ih hj (reaches_cons_succ_iff.1 hk).2)

/-- The item that is not accepted is among the first `j + 1`. -/
theorem Reaches.congr (h : Reaches p xs j) (hpq : ∀ x ∈ xs.take (j + 1), (q x ↔ p x)) :
    Reaches q xs j where
  le := h.le
  before x hx := (hpq x (List.take_subset_take_left xs (Nat.le_succ j) hx)).2 (h.before x hx)
  stops x hx := by
    have hmem : x ∈ xs.take (j + 1) := by
      rw [List.take_add_one, hx]
      simp
    exact mt (hpq x hmem).1 (h.stops x hx)

theorem Reaches.map {f : β → α} {ys : List β} (h : Reaches (fun y => p (f y)) ys j) :
    Reaches p (ys.map f) j where
  le := by simpa using h.le
  before := by
    rw [← List.map_take, List.forall_mem_map]
    exact h.before
  stops x hx := by
    rw [List.getElem?_map] at hx
    obtain ⟨y, hy, rfl⟩ := Option.map_eq_some_iff.1 hx
    exact h.stops y hy

end

/-! ### Requests -/

variable {ε : Type} {open? : Namespace → Except StoreError (Connection ε)} {ns : Namespace}
  {nss : List Namespace} {j : Nat}

/-- The counters of the namespace can be opened and do not refuse a message. -/
def Takes (open? : Namespace → Except StoreError (Connection ε)) (ns : Namespace) : Prop :=
  ∃ connection, open? ns = .ok connection ∧ connection.database.accept .publish = .ok ()

namespace Watermark

variable {w : Watermark}

/-! ### One namespace -/

theorem clear_eq_ok_iff {db db' : Database} : w.clear db = .ok db' ↔
    db.accept .publish = .ok () ∧ db' = { db with published := db.published ++ [w.request] } := by
  rw [clear, Database.publish]
  cases db.accept .publish <;> simp [eq_comm]

/-- Counters that take a message have the request after the messages they had. -/
theorem result_contact_eq_ok_iff {after : Connection ε} :
    (w.contact open? ns).result = .ok after ↔ ∃ before, open? ns = .ok before ∧
      before.database.accept .publish = .ok () ∧
      after = ⟨before.endpoint, { before.database with
        published := before.database.published ++ [w.request] }⟩ := by
  simp only [contact, bind_eq_ok_iff, mapError_eq_ok_iff, clear_eq_ok_iff, pure_eq_ok,
    Except.ok.injEq]
  constructor
  · rintro ⟨before, hopen, _, ⟨haccept, rfl⟩, rfl⟩
    exact ⟨before, hopen, haccept, rfl⟩
  · rintro ⟨before, hopen, haccept, rfl⟩
    exact ⟨before, hopen, _, ⟨haccept, rfl⟩, rfl⟩

theorem failure?_contact_eq_none_iff : (w.contact open? ns).failure? = none ↔ Takes open? ns := by
  have hresult : (w.contact open? ns).failure? = none ↔
      ∃ after, (w.contact open? ns).result = .ok after := by
    rw [Contact.failure?]
    cases (w.contact open? ns).result <;> simp
  rw [hresult]
  constructor
  · rintro ⟨after, h⟩
    obtain ⟨before, hopen, haccept, -⟩ := result_contact_eq_ok_iff.1 h
    exact ⟨before, hopen, haccept⟩
  · rintro ⟨before, hopen, haccept⟩
    exact ⟨_, result_contact_eq_ok_iff.2 ⟨before, hopen, haccept, rfl⟩⟩

/-! ### One after the other -/

theorem clearAll_cons_of_takes (h : Takes open? ns) :
    w.clearAll open? (ns :: nss) = w.contact open? ns :: w.clearAll open? nss := by
  simp only [clearAll, failure?_contact_eq_none_iff.2 h]

theorem clearAll_cons_of_not_takes (h : ¬ Takes open? ns) :
    w.clearAll open? (ns :: nss) = [w.contact open? ns] := by
  cases hfailure : (w.contact open? ns).failure? with
  | none => exact absurd (failure?_contact_eq_none_iff.1 hfailure) h
  | some failure => simp only [clearAll, hfailure]

/-- The namespaces asked are those that take the request and the one after them. -/
theorem clearAll_eq (h : Reaches (Takes open?) nss j) :
    w.clearAll open? nss = (nss.take (j + 1)).map (w.contact open?) := by
  induction nss generalizing j with
  | nil => simp [clearAll]
  | cons ns nss ih =>
    cases j with
    | zero =>
      rw [clearAll_cons_of_not_takes (reaches_cons_zero_iff.1 h)]
      rfl
    | succ j =>
      obtain ⟨hns, hj⟩ := reaches_cons_succ_iff.1 h
      rw [clearAll_cons_of_takes hns, ih hj]
      rfl

theorem findSome?_failure?_clearAll (h : Reaches (Takes open?) nss j) :
    (w.clearAll open? nss).findSome? Contact.failure? = none ↔ j = nss.length := by
  rw [clearAll_eq h, List.findSome?_map, List.findSome?_eq_none_iff]
  simp only [Function.comp_apply, failure?_contact_eq_none_iff]
  constructor
  · intro htakes
    by_contra hne
    have hlt : j < nss.length := Nat.lt_of_le_of_ne h.le hne
    refine h.stops nss[j] (List.getElem?_eq_getElem hlt) (htakes _ ?_)
    exact List.mem_take_iff_getElem.2 ⟨j, by omega, rfl⟩
  · rintro rfl ns hns
    rw [List.take_of_length_le (Nat.le_succ _)] at hns
    exact h.before ns (by rwa [List.take_length])

/-- What opening the other namespaces would come to makes no difference. -/
theorem clearAll_congr {open?' : Namespace → Except StoreError (Connection ε)}
    (h : Reaches (Takes open?) nss j) (hopen : ∀ ns ∈ nss.take (j + 1), open?' ns = open? ns) :
    w.clearAll open?' nss = w.clearAll open? nss := by
  have h' : Reaches (Takes open?') nss j := by
    apply h.congr
    intro ns hns
    rw [Takes, Takes, hopen ns hns]
  rw [clearAll_eq h, clearAll_eq h']
  refine List.map_congr_left fun ns hns => ?_
  rw [contact, contact, hopen ns hns]

end Watermark
end InterfaceReport
