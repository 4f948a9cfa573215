import InterfaceReport.Proofs.NaturalOrder

/-! The natural order of names that begin alike. A stem that does not end in a digit can be taken
off both names: where the stem's last run goes on into the names, it does so in both. -/

namespace InterfaceReport

open Std

/-- A beginning that two lists share plays no part in their comparison. -/
theorem compareLex_append_left {α : Type} {cmp : α → α → Ordering} [ReflCmp cmp]
    (stem as bs : List α) :
    List.compareLex cmp (stem ++ as) (stem ++ bs) = List.compareLex cmp as bs := by
  induction stem with
  | nil => rfl
  | cons c stem ih =>
    have hc : cmp c c = .eq := ReflCmp.compare_self
    rw [List.cons_append, List.cons_append, List.compareLex_cons_cons, hc, ih]
    rfl

/-! ### Where runs end -/

/-- The runs of a text given by its characters. -/
def charRuns (cs : List Char) : List Run :=
  (cs.splitBy fun a b => a.isDigit == b.isDigit).map Run.ofChars

theorem runs_append (s t : String) : runs (s ++ t) = charRuns (s.toList ++ t.toList) := by
  rw [← String.toList_append]
  rfl

/-- Runs do not reach over a place where digits begin or end. -/
theorem charRuns_append {as bs : List Char}
    (h : ∀ a ∈ as.getLast?, ∀ b ∈ bs.head?, a.isDigit ≠ b.isDigit) :
    charRuns (as ++ bs) = charRuns as ++ charRuns bs := by
  unfold charRuns
  rw [List.splitBy_append, List.map_append]
  intro a ha b hb
  exact beq_eq_false_iff_ne.2 (h a ha b hb)

/-- Characters of one sort are one run up to the first of the other sort. -/
theorem charRuns_run_append {cs rest : List Char} {digit : Bool} (hne : cs ≠ [])
    (hcs : ∀ c ∈ cs, c.isDigit = digit) (hrest : ∀ c ∈ rest.head?, c.isDigit = !digit) :
    charRuns (cs ++ rest) = Run.ofChars cs :: charRuns rest := by
  have hpair : cs.Pairwise fun a b => (a.isDigit == b.isDigit) = true := by
    apply List.pairwise_of_forall_mem_list
    intro a ha b hb
    rw [hcs a ha, hcs b hb]
    exact beq_self_eq_true digit
  have hone : charRuns cs = [Run.ofChars cs] := by
    unfold charRuns
    rw [List.splitBy_of_isChain hne hpair.isChain]
    rfl
  rw [charRuns_append, hone]
  · rfl
  · intro a ha b hb
    rw [hcs a (List.mem_of_getLast? ha), hrest b hb]
    cases digit <;> decide

theorem Run.ofChars_cons (c : Char) (cs : List Char) :
    Run.ofChars (c :: cs) = if c.isDigit then .digits (c :: cs) else .text (c :: cs) := rfl

/-- The first characters of one sort, and those from the first one of the other sort on. -/
theorem exists_run_append (cs : List Char) (digit : Bool) : ∃ run rest, cs = run ++ rest ∧
    (∀ c ∈ run, c.isDigit = digit) ∧ ∀ c ∈ rest.head?, c.isDigit = !digit := by
  refine ⟨cs.takeWhile (·.isDigit == digit), cs.dropWhile (·.isDigit == digit),
    List.takeWhile_append_dropWhile.symm, ?_, ?_⟩
  · intro c hc
    have hpass := List.mem_takeWhile_imp hc
    exact beq_iff_eq.1 hpass
  · intro c hc
    have hstop := List.head?_dropWhile_not (·.isDigit == digit) cs
    rw [Option.mem_def.1 hc] at hstop
    exact Bool.eq_not.2 (beq_eq_false_iff_ne.1 hstop)

/-! ### Taking off a stem -/

/-- What is empty or begins with a digit comes before any text. -/
theorem compareLex_charRuns_text {rest text : List Char}
    (hrest : ∀ c ∈ rest.head?, c.isDigit = true) (others : List Run) :
    List.compareLex Run.compare (charRuns rest) (.text text :: others) = .lt := by
  cases rest with
  | nil => rfl
  | cons d rest =>
    have hd : d.isDigit = true := hrest d rfl
    obtain ⟨more, after, rfl, hmore, hafter⟩ := exists_run_append rest true
    have hdigits : ∀ c ∈ d :: more, c.isDigit = true := List.forall_mem_cons.2 ⟨hd, hmore⟩
    rw [← List.cons_append, charRuns_run_append (List.cons_ne_nil _ _) hdigits hafter,
      Run.ofChars_cons, if_pos hd, List.compareLex_cons_cons]
    rfl

theorem compareLex_text_charRuns {rest text : List Char}
    (hrest : ∀ c ∈ rest.head?, c.isDigit = true) (others : List Run) :
    List.compareLex Run.compare (.text text :: others) (charRuns rest) = .gt := by
  have hswap : List.compareLex Run.compare (.text text :: others) (charRuns rest) =
      (List.compareLex Run.compare (charRuns rest) (.text text :: others)).swap :=
    OrientedCmp.eq_swap
  rw [hswap, compareLex_charRuns_text hrest others]
  rfl

/-- Text before both names goes over into their first runs, if these are text too. -/
theorem compareLex_charRuns_text_append {text : List Char} (hne : text ≠ [])
    (htext : ∀ c ∈ text, c.isDigit = false) (as bs : List Char) :
    List.compareLex Run.compare (charRuns (text ++ as)) (charRuns (text ++ bs)) =
      List.compareLex Run.compare (charRuns as) (charRuns bs) := by
  obtain ⟨x, as, rfl, hx, has⟩ := exists_run_append as false
  obtain ⟨y, bs, rfl, hy, hbs⟩ := exists_run_append bs false
  have hruns : ∀ {z rest : List Char}, z ≠ [] → (∀ c ∈ z, c.isDigit = false) →
      (∀ c ∈ rest.head?, c.isDigit = true) → charRuns (z ++ rest) = .text z :: charRuns rest := by
    intro z rest hz hchars hrest
    obtain ⟨c, cs, rfl⟩ := List.exists_cons_of_ne_nil hz
    rw [charRuns_run_append hz hchars hrest, Run.ofChars_cons, hchars c List.mem_cons_self]
    rfl
  have hlonger : ∀ {z rest : List Char}, (∀ c ∈ z, c.isDigit = false) →
      (∀ c ∈ rest.head?, c.isDigit = true) →
        charRuns (text ++ (z ++ rest)) = .text (text ++ z) :: charRuns rest := by
    intro z rest hchars hrest
    rw [← List.append_assoc]
    apply hruns (List.append_ne_nil_of_left_ne_nil hne z) _ hrest
    exact List.forall_mem_append.2 ⟨htext, hchars⟩
  have htaken : Run.compare (.text (text ++ x)) (.text (text ++ y)) = compare x y :=
    compareLex_append_left text x y
  rw [hlonger hx has, hlonger hy hbs, List.compareLex_cons_cons, htaken]
  cases x with
  | nil =>
    cases y with
    | nil => rfl
    | cons d y =>
      rw [hruns (List.cons_ne_nil _ _) hy hbs, List.nil_append, compareLex_charRuns_text has]
      rfl
  | cons c x =>
    cases y with
    | nil =>
      rw [hruns (List.cons_ne_nil _ _) hx has, List.nil_append, compareLex_text_charRuns hbs]
      rfl
    | cons d y =>
      rw [hruns (List.cons_ne_nil _ _) hx has, hruns (List.cons_ne_nil _ _) hy hbs,
        List.compareLex_cons_cons]
      rfl

/-- A stem that both names have and that does not end in a digit plays no part in their order. -/
theorem naturalCompare_append_left {stem : String}
    (h : ∀ c ∈ stem.toList.getLast?, c.isDigit = false) (a b : String) :
    naturalCompare (stem ++ a) (stem ++ b) = naturalCompare a b := by
  rw [naturalCompare, runs_append, runs_append]
  obtain ⟨last, before, hsplit, hlast, hbefore⟩ := exists_run_append stem.toList.reverse false
  have hstem : stem.toList = before.reverse ++ last.reverse := by
    rw [← List.reverse_append, ← hsplit, List.reverse_reverse]
  by_cases hne : last.reverse = []
  · have hempty : stem.toList = [] := by
      cases before with
      | nil => simpa [hne] using hstem
      | cons d before =>
        have hd : d.isDigit = true := hbefore d rfl
        have hd' : d.isDigit = false := h d (by simp [hstem, hne])
        rw [hd] at hd'
        cases hd'
    rw [hempty]
    rfl
  · have hends : ∀ rest : List Char, ∀ c ∈ before.reverse.getLast?,
        ∀ d ∈ (last.reverse ++ rest).head?, c.isDigit ≠ d.isDigit := by
      intro rest c hc d hd
      rw [List.getLast?_reverse] at hc
      rw [List.head?_append_of_ne_nil _ hne] at hd
      have hdlast : d ∈ last := List.mem_reverse.1 (List.mem_of_head? hd)
      rw [hbefore c hc, hlast d hdlast]
      decide
    rw [hstem, List.append_assoc, List.append_assoc, charRuns_append (hends _),
      charRuns_append (hends _), compareLex_append_left]
    apply compareLex_charRuns_text_append hne
    intro c hc
    exact hlast c (List.mem_reverse.1 hc)

end InterfaceReport
