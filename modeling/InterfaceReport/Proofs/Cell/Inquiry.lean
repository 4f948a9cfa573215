import InterfaceReport.Cell.Rule
import InterfaceReport.Proofs.Steps

/-! Inquiries: questions asked of the databases one after the other. What an inquiry finds depends on
the answers to the questions that it asks, and nothing is asked once a value is found. -/

namespace InterfaceReport

open Steps

/-! ### Questions -/

/-- What is asked of the databases. -/
inductive Question where
  /-- The status of a port's link, for a lookup that waits for it. -/
  | link (port : String)
  /-- The field of the entry of `key` that a lookup is for. -/
  | field (key : String) (l : Lookup)
deriving DecidableEq

namespace Question

def database : Question → DatabaseKind
  | link _ => .appl
  | field _ l => l.database

/-- The questions that are left when none is for a link that is known, from the start or because it
was asked for before. -/
def unlessKnown : Bool → List Question → List Question
  | _, [] => []
  | known, link port :: rest =>
    if known then unlessKnown true rest else link port :: unlessKnown true rest
  | known, field key l :: rest => field key l :: unlessKnown known rest

end Question

namespace Stores

def answer (stores : Stores) : Question → Except StoreError (Option String)
  | .link port => stores.appl.field Schema.portStatus port Schema.operStatus
  | .field key l =>
    match stores.database? l.database with
    | none => .ok none
    | some db => db.field l.table key l.field

variable (stores : Stores) {kind : DatabaseKind} (change : Database → Database)

theorem isUp_eq_ok_iff {port : String} {up : Bool} : stores.isUp port = .ok up ↔
    ∃ status, stores.answer (.link port) = .ok status ∧ (status == some Schema.up) = up := by
  rw [isUp, bind_eq_ok_iff]
  simp only [answer, pure_eq_ok, Except.ok.injEq]

theorem meets_linkUp (port : String) : stores.meets port none .linkUp = do
    let status ← stores.answer (.link port)
    return (status == some Schema.up, some (status == some Schema.up)) := by
  rw [meets, isUp, answer]
  cases stores.appl.field Schema.portStatus port Schema.operStatus <;> rfl

theorem database?_modify_of_ne {other : DatabaseKind} (h : other ≠ kind) :
    (stores.modify kind change).database? other = stores.database? other := by
  cases kind <;> cases other <;> simp [modify, database?] at h ⊢

theorem answer_modify_of_ne {q : Question} (h : q.database ≠ kind) :
    (stores.modify kind change).answer q = stores.answer q := by
  have hdb := stores.database?_modify_of_ne change h
  cases q with
  | link port =>
    have happl : (stores.modify kind change).appl = stores.appl := Option.some.inj hdb
    rw [answer, answer, happl]
  | field key l =>
    have hfield : (stores.modify kind change).database? l.database = stores.database? l.database :=
      hdb
    rw [answer, answer, hfield]

end Stores

/-! ### Inquiries -/

/-- Questions one after the other, each chosen by the answers before it, with what is found. -/
inductive Inquiry where
  | done (result : Option String)
  | ask (q : Question) (next : Option String → Inquiry)

namespace Inquiry

/-- What the inquiry finds. A question that is not answered ends it. -/
def run (stores : Stores) : Inquiry → Except StoreError (Option String)
  | done result => .ok result
  | ask q next => do (next (← stores.answer q)).run stores

/-- The questions asked, in order. -/
def asked (stores : Stores) : Inquiry → List Question
  | done _ => []
  | ask q next =>
    match stores.answer q with
    | .ok answer => q :: (next answer).asked stores
    | .error _ => [q]

/-- Goes on with `t` where `s` finds nothing. -/
def orElse : Inquiry → Inquiry → Inquiry
  | done (some value), _ => done (some value)
  | done none, t => t
  | ask q next, t => ask q fun answer => (next answer).orElse t

variable {stores : Stores} {s t u : Inquiry}

theorem orElse_assoc : (s.orElse t).orElse u = s.orElse (t.orElse u) := by
  induction s with
  | done result => cases result <;> rfl
  | ask q next ih => simp only [orElse, ih]

theorem run_orElse : (s.orElse t).run stores =
    (do match ← s.run stores with
      | some value => return some value
      | none => t.run stores) := by
  induction s with
  | done result => cases result <;> rfl
  | ask q next ih =>
    simp only [orElse, run]
    cases stores.answer q with
    | error e => rfl
    | ok answer => exact ih answer

theorem asked_orElse : (s.orElse t).asked stores = s.asked stores ++
    match s.run stores with
    | .ok none => t.asked stores
    | _ => [] := by
  induction s with
  | done result => cases result <;> rfl
  | ask q next ih =>
    simp only [orElse, asked, run]
    cases stores.answer q with
    | error e => rfl
    | ok answer => simp only [ih answer, ok_bind, List.cons_append]

/-- Nothing is asked beyond what finds a value. -/
theorem asked_orElse_of_some {value : String} (h : s.run stores = .ok (some value)) :
    (s.orElse t).asked stores = s.asked stores := by
  rw [asked_orElse, h, List.append_nil]

theorem run_orElse_of_some {value : String} (h : s.run stores = .ok (some value)) :
    (s.orElse t).run stores = .ok (some value) := by
  rw [run_orElse, h]
  rfl

/-- Only the answers to the questions that are asked matter. -/
theorem run_congr {stores' : Stores}
    (h : ∀ q ∈ s.asked stores, stores'.answer q = stores.answer q) :
    s.run stores' = s.run stores := by
  induction s with
  | done result => rfl
  | ask q next ih =>
    simp only [asked] at h
    cases hanswer : stores.answer q with
    | error e =>
      simp only [hanswer, List.mem_singleton, forall_eq] at h
      simp only [run, h, hanswer, error_bind]
    | ok answer =>
      simp only [hanswer, List.forall_mem_cons] at h
      simp only [run, h.1, hanswer, ok_bind, ih answer h.2]

end Inquiry

end InterfaceReport
