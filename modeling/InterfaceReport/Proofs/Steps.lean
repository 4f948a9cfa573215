import Mathlib.Data.List.Forall2

/-! Steps that can fail, one after the other: when they succeed, which failure they end with, and
the agreement of two computations of which one may fail where the other does not. -/

namespace InterfaceReport.Steps

variable {ε ε' α β γ : Type}

@[simp] theorem ok_bind (a : α) (f : α → Except ε β) : (Except.ok a >>= f) = f a := rfl

@[simp] theorem error_bind (e : ε) (f : α → Except ε β) :
    ((Except.error e : Except ε α) >>= f) = .error e := rfl

@[simp] theorem pure_eq_ok (a : α) : (pure a : Except ε α) = .ok a := rfl

theorem bind_eq_ok_iff {x : Except ε α} {f : α → Except ε β} {b : β} :
    (x >>= f) = .ok b ↔ ∃ a, x = .ok a ∧ f a = .ok b := by
  cases x <;> simp

theorem bind_eq_error_iff {x : Except ε α} {f : α → Except ε β} {e : ε} :
    (x >>= f) = .error e ↔ x = .error e ∨ ∃ a, x = .ok a ∧ f a = .error e := by
  cases x <;> simp

@[simp] theorem mapError_ok (f : ε → ε') (a : α) :
    (Except.ok a : Except ε α).mapError f = .ok a := rfl

@[simp] theorem mapError_error (f : ε → ε') (e : ε) :
    (Except.error e : Except ε α).mapError f = .error (f e) := rfl

theorem mapError_eq_ok_iff {f : ε → ε'} {x : Except ε α} {a : α} :
    x.mapError f = .ok a ↔ x = .ok a := by
  cases x <;> simp

theorem mapError_eq_error_iff {f : ε → ε'} {x : Except ε α} {e : ε'} :
    x.mapError f = .error e ↔ ∃ e', x = .error e' ∧ f e' = e := by
  cases x <;> simp

theorem toOption_eq_some_iff {x : Except ε α} {a : α} : x.toOption = some a ↔ x = .ok a := by
  cases x <;> simp [Except.toOption]

/-! ### Steps along a list -/

theorem mapM_eq_ok_iff {f : α → Except ε β} {as : List α} {bs : List β} :
    as.mapM f = .ok bs ↔ List.Forall₂ (fun a b => f a = .ok b) as bs := by
  induction as generalizing bs with
  | nil => simp [eq_comm]
  | cons a as ih =>
    rw [List.mapM_cons, bind_eq_ok_iff]
    simp only [bind_eq_ok_iff, ih, pure_eq_ok, Except.ok.injEq, List.forall₂_cons_left_iff]
    constructor
    · rintro ⟨b, hb, bs, hbs, rfl⟩
      exact ⟨b, bs, hb, hbs, rfl⟩
    · rintro ⟨b, bs, hb, hbs, rfl⟩
      exact ⟨b, hb, bs, hbs, rfl⟩

/-- Looking for the key of an element finds the element, if no other has that key. -/
theorem find?_key {κ : Type} [BEq κ] [LawfulBEq κ] {key : α → κ} {as : List α} {a : α}
    (ha : a ∈ as) (hkey : ∀ b ∈ as, key b = key a → b = a) :
    as.find? (key · == key a) = some a := by
  obtain ⟨found, hfound⟩ : ∃ found, as.find? (key · == key a) = some found := by
    rw [← Option.isSome_iff_exists, List.find?_isSome]
    exact ⟨a, ha, beq_self_eq_true _⟩
  have hfoundKey : key found = key a := by simpa using List.find?_some hfound
  rw [hfound, hkey found (List.mem_of_find?_eq_some hfound) hfoundKey]

theorem ok_of_mapM_eq_ok {f : α → Except ε β} {as : List α} {bs : List β}
    (h : as.mapM f = .ok bs) {a : α} (ha : a ∈ as) : ∃ b, f a = .ok b := by
  have hall := mapM_eq_ok_iff.1 h
  clear h
  induction hall with
  | nil => cases ha
  | cons hb _ ih =>
    rcases List.mem_cons.1 ha with rfl | ha
    · exact ⟨_, hb⟩
    · exact ih ha

theorem exists_mapM_eq_ok {f : α → Except ε β} {as : List α} (h : ∀ a ∈ as, ∃ b, f a = .ok b) :
    ∃ bs, as.mapM f = .ok bs := by
  induction as with
  | nil => exact ⟨[], rfl⟩
  | cons a as ih =>
    obtain ⟨b, hb⟩ := h a (by simp)
    obtain ⟨bs, hbs⟩ := ih fun a' ha' => h a' (by simp [ha'])
    exact ⟨b :: bs, by simp [hb, hbs]⟩

theorem mapM_congr {f g : α → Except ε β} {as : List α} (h : ∀ a ∈ as, f a = g a) :
    as.mapM f = as.mapM g := by
  induction as with
  | nil => rfl
  | cons a as ih =>
    rw [List.forall_mem_cons] at h
    rw [List.mapM_cons, List.mapM_cons, h.1, ih h.2]

/-- What is done to each result can be done to all of them at the end. -/
theorem mapM_map (f : α → Except ε β) (g : β → γ) (as : List α) :
    (as.mapM fun a => (f a).map g) = (as.mapM f).map (List.map g) := by
  induction as with
  | nil => rfl
  | cons a as ih =>
    rw [List.mapM_cons, List.mapM_cons, ih]
    cases f a with
    | error e => rfl
    | ok b => cases as.mapM f <;> rfl

/-- Steps along a part of the list give that part of the results. -/
theorem mapM_filter_of_mapM {f : α → Except ε β} {as : List α} {bs : List β}
    (h : as.mapM f = .ok bs) (p : α → Bool) :
    (as.filter p).mapM f = .ok (((as.zip bs).filter fun (a, _) => p a).map (·.2)) := by
  have hall := mapM_eq_ok_iff.1 h
  clear h
  induction hall with
  | nil => rfl
  | @cons a b as bs hb _ ih =>
    by_cases ha : p a
    · simp [ha, hb, ih]
    · simp [ha, ih]

/-- Steps along a part of the list give the results of that part, here beside their elements. -/
theorem mapM_pairs_of_mapM {f : α → Except ε β} {as : List α} {bs : List β}
    (h : as.mapM f = .ok bs) (p : α → Bool) :
    ((as.filter p).mapM fun a => do return (a, ← f a)) =
      .ok ((as.zip bs).filter fun (a, _) => p a) := by
  have hall := mapM_eq_ok_iff.1 h
  clear h
  induction hall with
  | nil => rfl
  | @cons a b as bs hb _ ih =>
    by_cases ha : p a
    · simp only [pure_eq_ok] at ih
      simp [ha, hb, ih]
    · simp only [pure_eq_ok] at ih
      simp [ha, ih]

/-- Steps along a list fail as the first one does that fails. -/
theorem mapM_eq_error_iff {f : α → Except ε β} {as : List α} {e : ε} :
    as.mapM f = .error e ↔ ∃ before a after, as = before ++ a :: after ∧
      (∀ a' ∈ before, ∃ b, f a' = .ok b) ∧ f a = .error e := by
  induction as with
  | nil => simp
  | cons x as ih =>
    simp only [List.mapM_cons, bind_eq_error_iff, ih]
    constructor
    · rintro (hx | ⟨b, hx, hrest | ⟨_, _, hpure⟩⟩)
      · exact ⟨[], x, as, rfl, by simp, hx⟩
      · obtain ⟨before, a, after, rfl, hbefore, ha⟩ := hrest
        refine ⟨x :: before, a, after, rfl, ?_, ha⟩
        simpa using ⟨⟨b, hx⟩, hbefore⟩
      · cases hpure
    · rintro ⟨before, a, after, has, hbefore, ha⟩
      cases before with
      | nil =>
        obtain ⟨rfl, rfl⟩ := List.cons.inj has
        exact .inl ha
      | cons y before =>
        obtain ⟨rfl, rfl⟩ := List.cons.inj has
        obtain ⟨b, hb⟩ := hbefore x (by simp)
        have hok : ∀ a' ∈ before, ∃ b, f a' = .ok b := fun a' ha' => hbefore a' (by simp [ha'])
        exact .inr ⟨b, hb, .inl ⟨before, a, after, rfl, hok, ha⟩⟩

/-- Where a step can fail in one way only, steps along a list with a failure among them fail in
that way. -/
theorem mapM_eq_error_of_mem {f : α → Except ε β} {as : List α} {e : ε}
    (only : ∀ a ∈ as, ∀ e', f a = .error e' → e' = e) {a : α} (ha : a ∈ as)
    (fails : f a = .error e) : as.mapM f = .error e := by
  cases h : as.mapM f with
  | ok bs =>
    obtain ⟨b, hb⟩ := ok_of_mapM_eq_ok h ha
    rw [fails] at hb
    cases hb
  | error e' =>
    obtain ⟨before, a', after, rfl, -, ha'⟩ := mapM_eq_error_iff.1 h
    rw [only a' (by simp) e' ha']

/-! ### Agreement up to failures -/

/-- The second computation succeeds, and the first one gives the same value unless it fails for a
reason that `blame` admits. -/
inductive AgreesUnless (blame : ε → Prop) : Except ε α → Except ε α → Prop
  | agrees (a : α) : AgreesUnless blame (.ok a) (.ok a)
  | fails {e : ε} (a : α) : blame e → AgreesUnless blame (.error e) (.ok a)

namespace AgreesUnless

variable {blame : ε → Prop} {x y : Except ε α}

theorem eq_of_ok (h : AgreesUnless blame x y) {a : α} (hx : x = .ok a) : y = .ok a := by
  cases h with
  | agrees => exact hx
  | fails => cases hx

theorem blame_of_error (h : AgreesUnless blame x y) {e : ε} (hx : x = .error e) : blame e := by
  cases h with
  | agrees => cases hx
  | fails _ he =>
    cases hx
    exact he

theorem exists_ok (h : AgreesUnless blame x y) : ∃ a, y = .ok a := by
  cases h with
  | agrees a => exact ⟨a, rfl⟩
  | fails a _ => exact ⟨a, rfl⟩

/-- The rest has to agree only after what the second computation gives. -/
theorem bind_of_ok {f g : α → Except ε β} (h : AgreesUnless blame x y)
    (hf : ∀ a, y = .ok a → AgreesUnless blame (f a) (g a)) :
    AgreesUnless blame (x >>= f) (y >>= g) := by
  cases h with
  | agrees a => exact hf a rfl
  | @fails e a he =>
    obtain ⟨b, hb⟩ : ∃ b, g a = .ok b := (hf a rfl).exists_ok
    simpa [hb] using fails b he

theorem bind {f g : α → Except ε β} (h : AgreesUnless blame x y)
    (hf : ∀ a, AgreesUnless blame (f a) (g a)) : AgreesUnless blame (x >>= f) (y >>= g) :=
  h.bind_of_ok fun a _ => hf a

theorem mapError {blame' : ε' → Prop} (h : AgreesUnless blame x y) {f : ε → ε'}
    (hf : ∀ e, blame e → blame' (f e)) : AgreesUnless blame' (x.mapError f) (y.mapError f) := by
  cases h with
  | agrees a => exact agrees a
  | fails a he => exact fails a (hf _ he)

theorem mapM {f g : α → Except ε β} (as : List α) (h : ∀ a ∈ as, AgreesUnless blame (f a) (g a)) :
    AgreesUnless blame (as.mapM f) (as.mapM g) := by
  induction as with
  | nil => exact agrees []
  | cons a as ih =>
    simp only [List.mapM_cons]
    refine (h a (by simp)).bind fun b => ?_
    exact (ih fun a' ha' => h a' (by simp [ha'])).bind fun bs => agrees (b :: bs)

end AgreesUnless

end InterfaceReport.Steps
