/-! Cutting a text at separators and taking off a known beginning. -/

namespace InterfaceReport.Text

/-- The parts of `cs` before and after the first `sep`. -/
def cutChars? (sep : Char) (cs : List Char) : Option (List Char × List Char) :=
  match cs.dropWhile (· != sep) with
  | [] => none
  | _ :: rest => some (cs.takeWhile (· != sep), rest)

/-- The parts of `s` before and after the first `sep`. -/
def cut? (sep : Char) (s : String) : Option (String × String) :=
  (cutChars? sep s.toList).map fun (a, b) => (String.ofList a, String.ofList b)

def cutLastChars? (sep : Char) (cs : List Char) : Option (List Char × List Char) :=
  (cutChars? sep cs.reverse).map fun (b, a) => (a.reverse, b.reverse)

def cutLast? (sep : Char) (s : String) : Option (String × String) :=
  (cutLastChars? sep s.toList).map fun (a, b) => (String.ofList a, String.ofList b)

/-- The texts between the occurrences of `sep`: one more than there are occurrences. -/
def pieces (sep : Char) (s : String) : List String :=
  (s.toList.splitOn sep).map String.ofList

/-- What follows `stem` in `s`, if `s` begins with it. -/
def after? (stem s : String) : Option String :=
  (stem.toList.isPrefixOf? s.toList).map String.ofList

def has (c : Char) (s : String) : Bool := s.toList.contains c

def beginsWith (stem s : String) : Bool := (after? stem s).isSome

/-- A cut takes out one separator, and none stands before it. -/
theorem cutChars?_eq_some_iff {sep : Char} {cs a b : List Char} :
    cutChars? sep cs = some (a, b) ↔ cs = a ++ sep :: b ∧ sep ∉ a := by
  induction cs generalizing a with
  | nil => simp [cutChars?]
  | cons c cs ih =>
    by_cases hc : c = sep
    · subst hc
      cases a with
      | nil => simp [cutChars?, eq_comm]
      | cons d a =>
        simp only [cutChars?, List.dropWhile_cons, List.takeWhile_cons, bne_self_eq_false,
          Bool.false_eq_true, if_false]
        grind
    · have step : cutChars? sep (c :: cs) = (cutChars? sep cs).map fun p => (c :: p.1, p.2) := by
        have hb : (c != sep) = true := by simpa using hc
        simp only [cutChars?, List.dropWhile_cons, List.takeWhile_cons, hb, if_true]
        split <;> simp_all
      rw [step]
      cases a with
      | nil => simp [hc]
      | cons d a =>
        simp only [Option.map_eq_some_iff, Prod.exists, Prod.mk.injEq]
        grind

theorem cut?_eq_some_iff {sep : Char} {s a b : String} :
    cut? sep s = some (a, b) ↔ s.toList = a.toList ++ sep :: b.toList ∧ sep ∉ a.toList := by
  simp only [cut?, Option.map_eq_some_iff, Prod.exists, Prod.mk.injEq, cutChars?_eq_some_iff]
  constructor
  · rintro ⟨x, y, h, rfl, rfl⟩
    simpa using h
  · intro h
    exact ⟨a.toList, b.toList, h, by simp, by simp⟩

theorem has_iff {c : Char} {s : String} : has c s ↔ c ∈ s.toList := by simp [has]

/-- What follows a beginning is what must be added to it. -/
theorem isPrefixOf?_eq_some_iff {stem cs rest : List Char} :
    stem.isPrefixOf? cs = some rest ↔ cs = stem ++ rest := by
  induction stem generalizing cs with
  | nil =>
    show some cs = some rest ↔ cs = rest
    exact Option.some_inj
  | cons x stem ih =>
    cases cs with
    | nil =>
      show none = some rest ↔ _
      simp
    | cons y cs =>
      show (if x == y then stem.isPrefixOf? cs else none) = some rest ↔ _
      by_cases h : x = y
      · simp [h, ih]
      · simp [h, Ne.symm h]

/-- What follows a beginning is what must be added to it. -/
theorem after?_eq_some_iff {stem s rest : String} :
    after? stem s = some rest ↔ s = stem ++ rest := by
  simp only [after?, Option.map_eq_some_iff, isPrefixOf?_eq_some_iff]
  constructor
  · rintro ⟨cs, h, rfl⟩
    exact String.toList_inj.1 (by simpa using h)
  · rintro rfl
    exact ⟨rest.toList, by simp, by simp⟩

end InterfaceReport.Text
