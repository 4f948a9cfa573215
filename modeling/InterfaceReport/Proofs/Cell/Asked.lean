import Mathlib
import InterfaceReport.Proofs.Cell.Inquiry
import InterfaceReport.Proofs.Store.Locality

/-! What is asked of the databases along lookups. The link is known once it has been asked for; to
ask for it again before every lookup that waits for it would give the same result, value or error,
with more questions. For the lookups after the one that supplies the value nothing is asked. -/

namespace InterfaceReport

open Steps

namespace Inquiry

/-! ### Inquiries along lookups -/

/-- Asks for the field of a lookup. No counters are open, so nothing is asked of them. -/
def look (key : String) (l : Lookup) : Inquiry :=
  if l.database = .counters then done none
  else ask (.field key l) fun value => done (value.filter fun v => v ≠ "" ∧ v ≠ notAvailable)

def lookIf (up : Bool) (key : String) (l : Lookup) : Inquiry := if up then look key l else done none

/-- Makes one lookup, after asking for the link if the lookup waits for it. -/
def attempt (key : String) (l : Lookup) : Inquiry :=
  match l.condition with
  | .always => look key l
  | .linkUp => ask (.link key) fun status => lookIf (status == some Schema.up) key l

/-- Makes the lookups in order until one finds something. The link is asked for anew before every
lookup that waits for it. -/
def anew (key : String) : List Lookup → Inquiry
  | [] => done none
  | l :: rest => (attempt key l).orElse (anew key rest)

/-- Goes on with the link, which is asked for if it is not known. -/
def knowing (key : String) (known : Option Bool) (next : Bool → Inquiry) : Inquiry :=
  match known with
  | some up => next up
  | none => ask (.link key) fun status => next (status == some Schema.up)

/-- Makes the lookups in order until one finds something. The link is asked for where it is not
known, and is known from then on. -/
def once (key : String) : Option Bool → List Lookup → Inquiry
  | _, [] => done none
  | known, l :: rest =>
    match l.condition with
    | .always => (look key l).orElse (once key known rest)
    | .linkUp => knowing key known fun up => (lookIf up key l).orElse (once key (some up) rest)

variable {stores : Stores} {s t : Inquiry} {key : String} {l : Lookup}

theorem run_look : (look key l).run stores = stores.valueAt? key l := by
  have hsays : (fun value : String => decide (value ≠ "" ∧ value ≠ notAvailable)) =
      isInformative := by
    funext value
    rw [Bool.eq_iff_iff]
    simp [isInformative]
  rw [look, Stores.valueAt?]
  split
  · next hcounters =>
    rw [Stores.database?_eq_none_iff.2 hcounters]
    rfl
  · next hopen =>
    cases hdb : stores.database? l.database with
    | none => exact absurd (Stores.database?_eq_none_iff.1 hdb) hopen
    | some db => simp only [run, Stores.answer, hdb, hsays, pure_eq_ok]

/-- The search that is made along the lookups is the inquiry that keeps what it knows of the
link. -/
theorem run_once (known : Option Bool) (lookups : List Lookup) :
    (once key known lookups).run stores = stores.firstValueFrom key known lookups := by
  induction lookups generalizing known with
  | nil => rfl
  | cons l rest ih =>
    have hturn : ∀ up known', stores.meets key known l.condition = .ok (up, known') →
        ((lookIf up key l).orElse (once key known' rest)).run stores =
          stores.firstValueFrom key known (l :: rest) := by
      intro up known' hmeets
      rw [Stores.firstValueFrom, hmeets, ok_bind]
      cases up with
      | false => exact ih known'
      | true =>
        rw [lookIf, if_pos rfl, run_orElse, run_look, ih]
        rfl
    rw [once]
    cases hcondition : l.condition with
    | always => exact hturn true known (by rw [hcondition]; rfl)
    | linkUp =>
      cases known with
      | some up => exact hturn up (some up) (by rw [hcondition]; rfl)
      | none =>
        simp only [knowing, run]
        cases hstatus : stores.answer (.link key) with
        | ok status => exact hturn _ _ (by rw [hcondition, Stores.meets_linkUp, hstatus]; rfl)
        | error e =>
          rw [Stores.firstValueFrom, hcondition, Stores.meets_linkUp, hstatus]
          rfl

/-! ### The link asked for once -/

/-- `s` ends as `t` does, and asks what `t` asks but for links that are known. -/
structure Saves (stores : Stores) (known : Bool) (s t : Inquiry) : Prop where
  run : s.run stores = t.run stores
  asked : s.asked stores = Question.unlessKnown known (t.asked stores)

namespace Saves

variable {known : Bool} {port : String} {next next' : Option String → Inquiry}

theorem ask_field (h : ∀ answer, Saves stores known (next answer) (next' answer)) :
    Saves stores known (ask (.field key l) next) (ask (.field key l) next') := by
  cases hanswer : stores.answer (.field key l) with
  | error e => constructor <;> simp [Inquiry.run, Inquiry.asked, hanswer, Question.unlessKnown]
  | ok answer =>
    constructor
    · simp only [Inquiry.run, hanswer, ok_bind, (h answer).run]
    · simp only [Inquiry.asked, hanswer, Question.unlessKnown, (h answer).asked]

/-- After its first answer the link is known. -/
theorem ask_link (h : ∀ answer, stores.answer (.link port) = .ok answer →
    Saves stores true (next answer) (next' answer)) :
    Saves stores false (ask (.link port) next) (ask (.link port) next') := by
  cases hanswer : stores.answer (.link port) with
  | error e => constructor <;> simp [Inquiry.run, Inquiry.asked, hanswer, Question.unlessKnown]
  | ok answer =>
    have hnext := h answer hanswer
    constructor
    · simp only [Inquiry.run, hanswer, ok_bind, hnext.run]
    · simp [Inquiry.asked, hanswer, Question.unlessKnown, hnext.asked]

theorem skip_link {answer : Option String} (hanswer : stores.answer (.link port) = .ok answer)
    (h : Saves stores true s (next answer)) : Saves stores true s (ask (.link port) next) := by
  constructor
  · simp only [Inquiry.run, hanswer, ok_bind, h.run]
  · simp [Inquiry.asked, hanswer, Question.unlessKnown, h.asked]

theorem orElse_done (result : Option String) (h : Saves stores known s t) :
    Saves stores known ((done result).orElse s) ((done result).orElse t) := by
  cases result with
  | none => exact h
  | some value => exact ⟨rfl, rfl⟩

theorem orElse_look (h : Saves stores known s t) :
    Saves stores known ((look key l).orElse s) ((look key l).orElse t) := by
  unfold look
  split
  · exact h
  · exact ask_field fun _ => h.orElse_done _

theorem orElse_lookIf (up : Bool) (h : Saves stores known s t) :
    Saves stores known ((lookIf up key l).orElse s) ((lookIf up key l).orElse t) := by
  cases up with
  | true => exact h.orElse_look
  | false => exact h

end Saves

/-- Along the lookups, what is known of the link is what the databases answer each time. -/
theorem saves_once (lookups : List Lookup) (known : Option Bool)
    (hknown : ∀ up ∈ known, stores.isUp key = .ok up) :
    Saves stores known.isSome (once key known lookups) (anew key lookups) := by
  induction lookups generalizing known with
  | nil => exact ⟨rfl, rfl⟩
  | cons l rest ih =>
    rw [once, anew, attempt]
    cases l.condition with
    | always => exact (ih known hknown).orElse_look
    | linkUp =>
      cases known with
      | some up =>
        obtain ⟨status, hstatus, rfl⟩ := stores.isUp_eq_ok_iff.1 (hknown up rfl)
        exact .skip_link hstatus ((ih _ hknown).orElse_lookIf _)
      | none =>
        refine .ask_link fun status hstatus => ?_
        have hup := stores.isUp_eq_ok_iff.2 ⟨status, hstatus, rfl⟩
        have hrest := ih (some (status == some Schema.up)) (by simpa using hup)
        exact hrest.orElse_lookIf _

/-! ### The lookup that supplies the value -/

theorem anew_append (first second : List Lookup) :
    anew key (first ++ second) = (anew key first).orElse (anew key second) := by
  induction first with
  | nil => rfl
  | cons l rest ih => rw [List.cons_append, anew, anew, ih, orElse_assoc]

theorem exists_attempt {lookups : List Lookup} {value : String}
    (h : (anew key lookups).run stores = .ok (some value)) :
    ∃ before l after, lookups = before ++ l :: after ∧
      (anew key before).run stores = .ok none ∧
      (attempt key l).run stores = .ok (some value) := by
  induction lookups with
  | nil => cases h
  | cons l rest ih =>
    rw [anew, run_orElse] at h
    obtain ⟨found, hl, h⟩ := bind_eq_ok_iff.1 h
    cases found with
    | some v =>
      cases h
      exact ⟨[], l, rest, rfl, rfl, hl⟩
    | none =>
      obtain ⟨before, l', after, rfl, hbefore, hl'⟩ := ih h
      refine ⟨l :: before, l', after, rfl, ?_, hl'⟩
      rw [anew, run_orElse, hl]
      exact hbefore

/-- A lookup that finds a value does not wait for a link that is down. -/
theorem valueAt?_of_attempt {value : String}
    (h : (attempt key l).run stores = .ok (some value)) :
    (l.condition = .linkUp → stores.isUp key = .ok true) ∧
      stores.valueAt? key l = .ok (some value) := by
  rw [← run_look]
  rw [attempt] at h
  cases hcondition : l.condition with
  | always =>
    rw [hcondition] at h
    exact ⟨by simp, h⟩
  | linkUp =>
    rw [hcondition] at h
    obtain ⟨status, hstatus, hlookIf⟩ := bind_eq_ok_iff.1 h
    cases hup : status == some Schema.up with
    | true =>
      simp only [hup] at hlookIf
      exact ⟨fun _ => stores.isUp_eq_ok_iff.2 ⟨status, hstatus, hup⟩, hlookIf⟩
    | false =>
      simp only [hup] at hlookIf
      cases hlookIf

end Inquiry

namespace Stores

/-- The lookup is made and finds `value`, which says something. -/
structure Supplies (stores : Stores) (key : String) (l : Lookup) (value : String) : Prop where
  link : l.condition = .linkUp → stores.isUp key = .ok true
  found : ∃ db, stores.database? l.database = some db ∧
    db.field l.table key l.field = .ok (some value)
  ne_empty : value ≠ ""
  ne_notAvailable : value ≠ notAvailable

/-- The questions that the search along the lookups asks. -/
def asked (stores : Stores) (key : String) (lookups : List Lookup) : List Question :=
  (Inquiry.once key none lookups).asked stores

variable {stores : Stores} {key : String} {l : Lookup} {value : String}

theorem exists_field_of_valueAt? (h : stores.valueAt? key l = .ok (some value)) :
    (∃ db, stores.database? l.database = some db ∧
      db.field l.table key l.field = .ok (some value)) ∧ isInformative value := by
  rw [valueAt?] at h
  cases hdb : stores.database? l.database with
  | none =>
    rw [hdb] at h
    cases h
  | some db =>
    rw [hdb] at h
    obtain ⟨held, hheld, h⟩ := bind_eq_ok_iff.1 h
    obtain ⟨rfl, hsays⟩ := Option.filter_eq_some_iff.1 (Except.ok.inj h)
    exact ⟨⟨db, rfl, hheld⟩, hsays⟩

theorem supplies_of_attempt (h : (Inquiry.attempt key l).run stores = .ok (some value)) :
    stores.Supplies key l value := by
  obtain ⟨hlink, hlook⟩ := Inquiry.valueAt?_of_attempt h
  obtain ⟨hfound, hsays⟩ := exists_field_of_valueAt? hlook
  have hvalue : value ≠ "" ∧ value ≠ notAvailable := by simpa [isInformative] using hsays
  exact ⟨hlink, hfound, hvalue.1, hvalue.2⟩

theorem run_anew (lookups : List Lookup) :
    (Inquiry.anew key lookups).run stores = stores.firstValue key lookups := by
  rw [← (Inquiry.saves_once lookups none (by simp)).run, Inquiry.run_once, firstValue]

theorem asked_eq (lookups : List Lookup) : stores.asked key lookups =
    Question.unlessKnown false ((Inquiry.anew key lookups).asked stores) :=
  (Inquiry.saves_once lookups none (by simp)).asked

/-- Once a value is found, lookups that follow are not made. -/
theorem firstValue_append {first : List Lookup} (h : stores.firstValue key first = .ok (some value))
    (second : List Lookup) : stores.firstValue key (first ++ second) = .ok (some value) ∧
      stores.asked key (first ++ second) = stores.asked key first := by
  rw [← run_anew] at h
  rw [← run_anew, asked_eq, asked_eq, Inquiry.anew_append]
  exact ⟨Inquiry.run_orElse_of_some h, by rw [Inquiry.asked_orElse_of_some h]⟩

theorem firstValue_congr {stores' : Stores} {lookups : List Lookup}
    (h : ∀ q ∈ stores.asked key lookups, stores'.answer q = stores.answer q) :
    stores'.firstValue key lookups = stores.firstValue key lookups := by
  rw [firstValue, firstValue, ← Inquiry.run_once, ← Inquiry.run_once, Inquiry.run_congr h]

/-- The search that asks for the link once gives what an inquiry does that asks for it anew before
every lookup that waits for it, value or failure, and asks the same questions without the repeated
ones. A value that is found says something. It is that of the first lookup that finds one, and for
the lookups after this one nothing is asked: the value is found whatever the databases answer to
other questions, and whatever becomes of a database that is not asked. -/
theorem firstValue_asks_link_once (stores : Stores) (key : String) (lookups : List Lookup) :
    (Inquiry.once key none lookups).run stores = stores.firstValue key lookups ∧
    (Inquiry.anew key lookups).run stores = stores.firstValue key lookups ∧
    stores.asked key lookups =
      Question.unlessKnown false ((Inquiry.anew key lookups).asked stores) ∧
    ∀ value, stores.firstValue key lookups = .ok (some value) →
      value ≠ "" ∧ value ≠ notAvailable ∧
      ∃ before l after, lookups = before ++ l :: after ∧
        stores.firstValue key before = .ok none ∧ stores.Supplies key l value ∧
        stores.asked key lookups = stores.asked key (before ++ [l]) ∧
        (∀ stores' : Stores,
          (∀ q ∈ stores.asked key (before ++ [l]), stores'.answer q = stores.answer q) →
          stores'.firstValue key lookups = .ok (some value)) ∧
        ∀ kind (change : Database → Database),
          (∀ q ∈ stores.asked key (before ++ [l]), q.database ≠ kind) →
          (stores.modify kind change).firstValue key lookups = .ok (some value) := by
  refine ⟨Inquiry.run_once none lookups, run_anew lookups, asked_eq lookups, ?_⟩
  intro value hvalue
  rw [← run_anew] at hvalue
  obtain ⟨before, l, after, rfl, hbefore, hl⟩ := Inquiry.exists_attempt hvalue
  have hsupplies := supplies_of_attempt hl
  have hfirst : stores.firstValue key (before ++ [l]) = .ok (some value) := by
    rw [← run_anew, Inquiry.anew_append, Inquiry.run_orElse, hbefore]
    exact Inquiry.run_orElse_of_some hl
  have hsplit : before ++ l :: after = before ++ [l] ++ after := by simp
  have hagree : ∀ stores' : Stores,
      (∀ q ∈ stores.asked key (before ++ [l]), stores'.answer q = stores.answer q) →
      stores'.firstValue key (before ++ l :: after) = .ok (some value) := by
    intro stores' h
    rw [hsplit]
    exact (firstValue_append ((firstValue_congr h).trans hfirst) after).1
  refine ⟨hsupplies.ne_empty, hsupplies.ne_notAvailable, before, l, after, rfl, ?_, hsupplies, ?_,
    hagree, ?_⟩
  · rw [← run_anew, hbefore]
  · rw [hsplit, (firstValue_append hfirst after).2]
  · intro kind change hkind
    exact hagree _ fun q hq => stores.answer_modify_of_ne change (hkind q hq)

/-- A port whose link is up, and of whose speed the hardware says nothing. -/
def speedOfDaemons : Stores where
  config := .empty .config
  appl := (Database.empty .appl).putEntry "PORT_TABLE" "Ethernet0"
    [("oper_status", "up"), ("speed", "40000")]
  state := (Database.empty .state).putEntry "PORT_TABLE" "Ethernet0" [("speed", "N/A")]

/-- Two lookups that wait for the link, and one in a database that is not asked before it. -/
def waitingTwice : List Lookup :=
  [(Lookup.portState Schema.speed).whenUp, (Lookup.portStatus Schema.speed).whenUp,
    Lookup.lagConfig Schema.mtu]

theorem firstValue_asks_link_once_waitingTwice :
    speedOfDaemons.firstValue "Ethernet0" waitingTwice = .ok (some "40000") ∧
    (speedOfDaemons.modify .config (·.setAvailable false)).firstValue "Ethernet0" waitingTwice =
      .ok (some "40000") ∧
    ((Inquiry.anew "Ethernet0" waitingTwice).asked speedOfDaemons).length = 4 ∧
    (speedOfDaemons.asked "Ethernet0" waitingTwice).length = 3 := by
  have hvalue : speedOfDaemons.firstValue "Ethernet0" waitingTwice = .ok (some "40000") := by
    cbv
  have hanew : (Inquiry.anew "Ethernet0" waitingTwice).asked speedOfDaemons =
      [.link "Ethernet0", .field "Ethernet0" (Lookup.portState Schema.speed).whenUp,
        .link "Ethernet0", .field "Ethernet0" (Lookup.portStatus Schema.speed).whenUp] := by
    cbv
  obtain ⟨-, -, hasked, hfound⟩ :=
    firstValue_asks_link_once speedOfDaemons "Ethernet0" waitingTwice
  obtain ⟨-, -, before, l, after, -, -, -, hstops, -, hgone⟩ := hfound _ hvalue
  rw [hanew] at hasked
  refine ⟨hvalue, hgone .config _ ?_, by rw [hanew]; rfl, by rw [hasked]; rfl⟩
  rw [← hstops, hasked]
  decide

end Stores

end InterfaceReport
