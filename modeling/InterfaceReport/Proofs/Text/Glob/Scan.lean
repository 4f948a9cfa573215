import InterfaceReport.Proofs.Text.Glob.Language
import Mathlib.Data.Prod.Lex

/-! The matcher as a loop over a place in the pattern and a place in the text, of which the second
can move back. Every turn of the loop keeps the answer that the matcher gives from there on, and
goes on to a later star, or else to a later beginning behind the star, or else to later places. So
the loop ends, with the matcher's answer. -/

namespace InterfaceReport.Text.Glob

/-- What stands in the loop's variables: the places in the pattern and in the text, the place of the
last star met, and the place in the text from which the pattern after that star is tried. -/
structure Scan where
  pattern : Nat
  text : Nat
  star : Option Nat
  mark : Nat

namespace Scan

def start : Scan := ⟨0, 0, none, 0⟩

/-- Tries the next beginning behind the last star. -/
def retry (s : Scan) : Scan ⊕ Bool :=
  match s.star with
  | some star => .inl ⟨star + 1, s.mark + 1, some star, s.mark + 1⟩
  | none => .inr false

/-- One turn of the loop: the variables after it, or the answer. There is neither if a place beyond
the end of the pattern or of the text is read. -/
def step (ps cs : List Char) (s : Scan) : Option (Scan ⊕ Bool) :=
  if s.text < cs.length then
    if s.pattern < ps.length then do
      let p ← ps[s.pattern]?
      let c ← cs[s.text]?
      return if p == '?' || p == c then .inl { s with pattern := s.pattern + 1, text := s.text + 1 }
        else if p == '*' then .inl ⟨s.pattern + 1, s.text, some s.pattern, s.text⟩
        else s.retry
    else return s.retry
  else if s.pattern < ps.length then do
    let p ← ps[s.pattern]?
    return if p == '*' then .inl { s with pattern := s.pattern + 1 } else .inr false
  else return .inr (s.pattern == ps.length)

/-- The loop goes on from `s` without reading beyond an end, and stops with the answer. -/
inductive Answers (ps cs : List Char) : Scan → Bool → Prop
  | stop {s : Scan} {answer : Bool} : step ps cs s = some (.inr answer) → Answers ps cs s answer
  | goOn {s s' : Scan} {answer : Bool} : step ps cs s = some (.inl s') → Answers ps cs s' answer →
      Answers ps cs s answer

/-! ### What a turn keeps -/

/-- The places are in their texts, and the last star is behind the place in the pattern. -/
structure Valid (ps cs : List Char) (s : Scan) : Prop where
  pattern_le : s.pattern ≤ ps.length
  text_le : s.text ≤ cs.length
  mark_le : s.mark ≤ s.text
  star_lt : ∀ star ∈ s.star, star < s.pattern

/-- What follows the first comparison behind a star, when the next beginning is `rest`. -/
def outcome (a : Attempt) (otherwise : Bool) : Bool :=
  match a with
  | .ended fits => fits
  | .star ps cs => search ps cs
  | .differs => otherwise

/-- The answer of the matcher from the places of `s` on. -/
def answer (ps cs : List Char) (s : Scan) : Bool :=
  outcome (attempt (ps.drop s.pattern) (cs.drop s.text))
    (s.star.any fun star => search (ps.drop (star + 1)) (cs.drop (s.mark + 1)))

theorem search_eq (ps cs : List Char) :
    search ps cs = outcome (attempt ps cs) (search ps cs.tail) := by
  rw [search]
  split
  · next h => rw [h, outcome]
  · next h => rw [h, outcome]
  · next h =>
    cases cs with
    | nil =>
      rw [attempt] at h
      cases h
    | cons c cs =>
      show search ps cs = outcome (attempt ps (c :: cs)) (search ps cs)
      rw [h, outcome]

/-- How far the loop is from its end: by the last star, then by the beginning tried behind it, then
by the places. -/
def remaining (ps cs : List Char) (s : Scan) : Nat ×ₗ Nat ×ₗ Nat :=
  toLex (ps.length - s.star.elim 0 (· + 1), toLex (cs.length - s.mark,
    (ps.length - s.pattern) + (cs.length - s.text)))

/-- One turn of the loop leads from `s` to `s'`, on the way to the same answer. -/
structure Advances (ps cs : List Char) (s s' : Scan) : Prop where
  step_eq : step ps cs s = some (.inl s')
  valid : s'.Valid ps cs
  answer_eq : s'.answer ps cs = s.answer ps cs
  remaining_lt : s'.remaining ps cs < s.remaining ps cs

variable {ps cs : List Char}

theorem drop_eq_cons {α : Type} {xs : List α} {i : Nat} (h : i < xs.length) :
    ∃ x, xs[i]? = some x ∧ xs.drop i = x :: xs.drop (i + 1) :=
  ⟨xs[i], List.getElem?_eq_getElem h, List.drop_eq_getElem_cons h⟩

theorem advances_match {s : Scan} (valid : s.Valid ps cs) (ht : s.text < cs.length)
    (hp : s.pattern < ps.length)
    (hstep : step ps cs s = some (.inl { s with pattern := s.pattern + 1, text := s.text + 1 }))
    (htakes : attempt (ps.drop s.pattern) (cs.drop s.text) =
      attempt (ps.drop (s.pattern + 1)) (cs.drop (s.text + 1))) :
    Advances ps cs s { s with pattern := s.pattern + 1, text := s.text + 1 } where
  step_eq := hstep
  valid := ⟨hp, ht, Nat.le_succ_of_le valid.mark_le,
    fun star hstar => Nat.lt_succ_of_lt (valid.star_lt star hstar)⟩
  answer_eq := by rw [answer, answer, htakes]
  remaining_lt := by
    refine Prod.Lex.toLex_lt_toLex.2 (.inr ⟨rfl, Prod.Lex.toLex_lt_toLex.2 (.inr ⟨rfl, ?_⟩)⟩)
    dsimp only
    omega

theorem advances_star {s : Scan} (valid : s.Valid ps cs) (ht : s.text < cs.length)
    (hp : s.pattern < ps.length)
    (hstep : step ps cs s = some (.inl ⟨s.pattern + 1, s.text, some s.pattern, s.text⟩))
    (hstar : attempt (ps.drop s.pattern) (cs.drop s.text) =
      .star (ps.drop (s.pattern + 1)) (cs.drop s.text)) :
    Advances ps cs s ⟨s.pattern + 1, s.text, some s.pattern, s.text⟩ where
  step_eq := hstep
  valid := by
    refine ⟨hp, Nat.le_of_lt ht, Nat.le_refl _, ?_⟩
    rintro _ ⟨⟩
    exact Nat.lt_succ_self _
  answer_eq := by
    rw [answer, answer, hstar, Option.any_some, outcome, search_eq _ (cs.drop s.text),
      List.tail_drop]
  remaining_lt := by
    refine Prod.Lex.toLex_lt_toLex.2 (.inl ?_)
    have hbefore : s.star.elim 0 (· + 1) ≤ s.pattern := by
      cases hlast : s.star with
      | none => exact Nat.zero_le _
      | some star => exact valid.star_lt star hlast
    show ps.length - (s.pattern + 1) < ps.length - s.star.elim 0 (· + 1)
    omega

/-- The place in the text may move back, but the beginning that is tried moves on. -/
theorem retry_spec {s : Scan} (valid : s.Valid ps cs) (ht : s.text < cs.length)
    (hstep : step ps cs s = some s.retry)
    (hdiffers : attempt (ps.drop s.pattern) (cs.drop s.text) = .differs) :
    (∃ s', Advances ps cs s s') ∨ step ps cs s = some (.inr (s.answer ps cs)) := by
  have hanswer : s.answer ps cs =
      s.star.any fun star => search (ps.drop (star + 1)) (cs.drop (s.mark + 1)) := by
    rw [answer, hdiffers, outcome]
  have hmark : s.mark < cs.length := Nat.lt_of_le_of_lt valid.mark_le ht
  rw [retry] at hstep
  split at hstep
  · next star hstar =>
    have hlt := valid.star_lt star hstar
    refine .inl ⟨⟨star + 1, s.mark + 1, some star, s.mark + 1⟩, hstep, ?_, ?_, ?_⟩
    · refine ⟨Nat.le_trans hlt valid.pattern_le, hmark, Nat.le_refl _, ?_⟩
      rintro _ ⟨⟩
      exact Nat.lt_succ_self _
    · rw [hanswer, hstar, Option.any_some, search_eq, List.tail_drop]
      rfl
    · refine Prod.Lex.toLex_lt_toLex.2 (.inr ⟨by rw [hstar], ?_⟩)
      exact Prod.Lex.toLex_lt_toLex.2 (.inl (Nat.sub_succ_lt_self _ _ hmark))
  · next hstar =>
    right
    rw [hanswer, hstar]
    exact hstep

/-- Where nothing is left of the text, what is left of the pattern decides. -/
theorem step_spec_of_text_eq {s : Scan} (valid : s.Valid ps cs) (ht : ¬ s.text < cs.length) :
    (∃ s', Advances ps cs s s') ∨ step ps cs s = some (.inr (s.answer ps cs)) := by
  have hanswer : ∀ s' : Scan, s'.text = s.text →
      s'.answer ps cs = (ps.drop s'.pattern).all (· == '*') := by
    intro s' hs'
    have hcs : cs.drop s'.text = [] := by
      rw [hs', List.drop_eq_nil_of_le (Nat.le_of_not_lt ht)]
    rw [answer, hcs, attempt, outcome]
  by_cases hp : s.pattern < ps.length
  · obtain ⟨p, hpget, hps⟩ := drop_eq_cons hp
    by_cases hstar : p = '*'
    · subst hstar
      refine .inl ⟨{ s with pattern := s.pattern + 1 }, ?_, ?_, ?_, ?_⟩
      · rw [step, if_neg ht, if_pos hp, hpget]
        rfl
      · exact ⟨hp, valid.text_le, valid.mark_le,
          fun star hstar => Nat.lt_succ_of_lt (valid.star_lt star hstar)⟩
      · rw [hanswer s rfl, hanswer { s with pattern := s.pattern + 1 } rfl, hps, List.all_cons]
        rfl
      · refine Prod.Lex.toLex_lt_toLex.2 (.inr ⟨rfl, Prod.Lex.toLex_lt_toLex.2 (.inr ⟨rfl, ?_⟩)⟩)
        dsimp only
        omega
    · right
      have hno : (p == '*') = false := beq_eq_false_iff_ne.2 hstar
      rw [hanswer s rfl, hps, List.all_cons, hno, Bool.false_and, step, if_neg ht, if_pos hp, hpget]
      simp [hstar]
  · right
    have hend : s.pattern = ps.length := Nat.le_antisymm valid.pattern_le (Nat.le_of_not_lt hp)
    rw [hanswer s rfl, hend, List.drop_length, step, if_neg ht, if_neg hp, hend]
    simp

/-- A turn of the loop leads on, or ends it with the matcher's answer. -/
theorem step_spec {s : Scan} (valid : s.Valid ps cs) :
    (∃ s', Advances ps cs s s') ∨ step ps cs s = some (.inr (s.answer ps cs)) := by
  by_cases ht : s.text < cs.length
  · obtain ⟨c, hcget, hcs⟩ := drop_eq_cons ht
    by_cases hp : s.pattern < ps.length
    · obtain ⟨p, hpget, hps⟩ := drop_eq_cons hp
      have hstep : step ps cs s = some (if p == '?' || p == c then
          .inl { s with pattern := s.pattern + 1, text := s.text + 1 }
        else if p == '*' then .inl ⟨s.pattern + 1, s.text, some s.pattern, s.text⟩
        else s.retry) := by
        rw [step, if_pos ht, if_pos hp, hpget, hcget]
        rfl
      have hattempt : attempt (ps.drop s.pattern) (cs.drop s.text) =
          if p == '?' || p == c then attempt (ps.drop (s.pattern + 1)) (cs.drop (s.text + 1))
          else if p == '*' then .star (ps.drop (s.pattern + 1)) (cs.drop s.text)
          else .differs := by
        rw [hps, hcs, attempt]
      by_cases htakes : (p == '?' || p == c) = true
      · rw [if_pos htakes] at hstep hattempt
        exact .inl ⟨_, advances_match valid ht hp hstep hattempt⟩
      rw [if_neg htakes] at hstep hattempt
      by_cases hstar : (p == '*') = true
      · rw [if_pos hstar] at hstep hattempt
        exact .inl ⟨_, advances_star valid ht hp hstep hattempt⟩
      · rw [if_neg hstar] at hstep hattempt
        exact retry_spec valid ht hstep hattempt
    · have hps : ps.drop s.pattern = [] := List.drop_eq_nil_of_le (Nat.le_of_not_lt hp)
      refine retry_spec valid ht ?_ (by rw [hps, hcs, attempt])
      rw [step, if_pos ht, if_neg hp]
      rfl
  · exact step_spec_of_text_eq valid ht

/-- The loop ends, and with the matcher's answer. -/
theorem answers_answer {s : Scan} (valid : s.Valid ps cs) :
    Answers ps cs s (s.answer ps cs) := by
  rcases step_spec valid with ⟨s', h⟩ | h
  · exact .goOn h.step_eq (h.answer_eq ▸ answers_answer h.valid)
  · exact .stop h
termination_by s.remaining ps cs
decreasing_by exact h.remaining_lt

theorem Answers.unique {s : Scan} {a b : Bool} (ha : Answers ps cs s a) (hb : Answers ps cs s b) :
    a = b := by
  induction ha with
  | stop hstep =>
    cases hb with
    | stop hstep' =>
      rw [hstep] at hstep'
      cases hstep'
      rfl
    | goOn hstep' _ =>
      rw [hstep] at hstep'
      cases hstep'
  | goOn hstep _ ih =>
    cases hb with
    | stop hstep' =>
      rw [hstep] at hstep'
      cases hstep'
    | goOn hstep' hrest =>
      rw [hstep] at hstep'
      cases hstep'
      exact ih hrest

theorem valid_start : start.Valid ps cs := ⟨Nat.zero_le _, Nat.zero_le _, Nat.le_refl _, nofun⟩

theorem answer_start : start.answer ps cs = matchesChars ps cs := by
  show outcome (attempt ps cs) false = _
  rw [matchesChars]
  rfl

theorem answers_start_iff {answer : Bool} :
    Answers ps cs start answer ↔ answer = matchesChars ps cs := by
  have hanswers : Answers ps cs start (start.answer ps cs) := answers_answer valid_start
  rw [answer_start] at hanswers
  exact ⟨fun h => h.unique hanswers, fun h => h ▸ hanswers⟩

end Scan

/-- The loop stops without reading beyond the end of the pattern or of the text, and its answer is
that of the matcher. The matcher accepts only texts that the pattern stands for, and of those all
that hold no star. -/
theorem fits_agrees_with_language (pattern text : String) :
    (∀ answer, Scan.Answers pattern.toList text.toList .start answer ↔
        answer = fits pattern text) ∧
      (fits pattern text → text.toList ∈ language pattern.toList) ∧
      ('*' ∉ text.toList → text.toList ∈ language pattern.toList → fits pattern text) :=
  ⟨fun _ => Scan.answers_start_iff, mem_language_of_matchesChars, matchesChars_of_mem_language⟩

/-- The pattern after the star does not fit at the beginning of the text, but one place later. -/
theorem fits_agrees_with_language_later :
    "aab".toList ∈ language "*a?".toList ∧ fits "*a?" "aab" ∧
      Scan.Answers "*a?".toList "aab".toList .start true := by
  obtain ⟨hloop, -, hcomplete⟩ := fits_agrees_with_language "*a?" "aab"
  have hmem : "aab".toList ∈ language "*a?".toList := by
    refine mem_language_star.2 ⟨['a', 'b'], ⟨['a'], rfl⟩, ?_⟩
    refine (mem_language_cons (by decide)).2 ⟨'a', ['b'], rfl, .inr rfl, ?_⟩
    exact (mem_language_cons (by decide)).2 ⟨'b', [], rfl, .inl rfl, mem_language_nil.2 rfl⟩
  have hfits : fits "*a?" "aab" := hcomplete (by decide) hmem
  exact ⟨hmem, hfits, (hloop true).2 hfits.symm⟩

end InterfaceReport.Text.Glob
