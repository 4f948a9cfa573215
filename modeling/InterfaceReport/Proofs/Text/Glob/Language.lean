import InterfaceReport.Text.Glob
import Mathlib.Computability.Language

/-! The texts that a pattern stands for, and how the matcher decides them. What it accepts is always
one of them. It accepts all of them that hold no star: where it goes on behind a star it never has
to come back before that star, since a text that fits from an earlier place leaves the star more to
stand for. -/

namespace InterfaceReport.Text.Glob

/-- The texts that one character of a pattern stands for. -/
def texts (p : Char) : Language Char :=
  {text | if p = '*' then True else if p = '?' then ∃ c, text = [c] else text = [p]}

/-- The texts that a pattern stands for: those of its characters, put together in order. -/
def language (pattern : List Char) : Language Char := (pattern.map texts).prod

variable {p : Char} {ps ps' cs cs' text : List Char}

theorem mem_language_nil : text ∈ language [] ↔ text = [] := Language.mem_one text

theorem star_mem_texts : text ∈ texts '*' := trivial

theorem mem_texts (hp : p ≠ '*') : text ∈ texts p ↔ ∃ c, text = [c] ∧ (p = '?' ∨ p = c) := by
  show (if p = '*' then True else if p = '?' then ∃ c, text = [c] else text = [p]) ↔ _
  rw [if_neg hp]
  split
  · next hquestion => exact exists_congr fun c => (and_iff_left (.inl hquestion)).symm
  · next hquestion => simp [hquestion]

theorem mem_language_star :
    text ∈ language ('*' :: ps) ↔ ∃ rest, rest <:+ text ∧ rest ∈ language ps := by
  rw [language, List.map_cons, List.prod_cons, Language.mem_mul]
  constructor
  · rintro ⟨taken, -, rest, hrest, rfl⟩
    exact ⟨rest, List.suffix_append taken rest, hrest⟩
  · rintro ⟨rest, ⟨taken, rfl⟩, hrest⟩
    exact ⟨taken, star_mem_texts, rest, hrest, rfl⟩

theorem mem_language_cons (hp : p ≠ '*') :
    text ∈ language (p :: ps) ↔
      ∃ c rest, text = c :: rest ∧ (p = '?' ∨ p = c) ∧ rest ∈ language ps := by
  rw [language, List.map_cons, List.prod_cons, Language.mem_mul]
  simp only [mem_texts hp]
  constructor
  · rintro ⟨_, ⟨c, rfl, htakes⟩, rest, hrest, rfl⟩
    exact ⟨c, rest, rfl, htakes, hrest⟩
  · rintro ⟨c, rest, rfl, htakes, hrest⟩
    exact ⟨[c], ⟨c, rfl, htakes⟩, rest, hrest, rfl⟩

theorem mem_language_star_of_suffix (h : text ∈ language ('*' :: ps)) (hsuffix : text <:+ cs) :
    cs ∈ language ('*' :: ps) := by
  obtain ⟨rest, hrest, hmem⟩ := mem_language_star.1 h
  exact mem_language_star.2 ⟨rest, hrest.trans hsuffix, hmem⟩

theorem nil_mem_language_iff : [] ∈ language ps ↔ ps.all (· == '*') := by
  induction ps with
  | nil => simp [mem_language_nil]
  | cons p ps ih =>
    by_cases hp : p = '*'
    · subst hp
      simpa [mem_language_star] using ih
    · simp [mem_language_cons hp, hp]

/-! ### What is accepted fits -/

/-- The character before a common rest is put back, also where a star has met a star. -/
theorem cons_mem_language {c : Char} (h : p = '?' ∨ p = c) (hmem : cs ∈ language ps) :
    c :: cs ∈ language (p :: ps) := by
  by_cases hp : p = '*'
  · subst hp
    exact mem_language_star.2 ⟨cs, List.suffix_cons c cs, hmem⟩
  · exact (mem_language_cons hp).2 ⟨c, cs, rfl, h, hmem⟩

theorem mem_language_of_ended (h : attempt ps cs = .ended true) : cs ∈ language ps := by
  fun_induction attempt ps cs with
  | case1 ps =>
    refine nil_mem_language_iff.2 ?_
    simpa using h
  | case2 => cases h
  | case3 p ps c cs htakes ih =>
    exact cons_mem_language (by simpa using htakes) (ih h)
  | case4 => cases h
  | case5 => cases h

theorem mem_language_of_star (h : attempt ps cs = .star ps' cs')
    (hmem : cs' ∈ language ('*' :: ps')) : cs ∈ language ps := by
  fun_induction attempt ps cs with
  | case1 => cases h
  | case2 => cases h
  | case3 p ps c cs htakes ih =>
    exact cons_mem_language (by simpa using htakes) (ih h)
  | case4 p ps c cs _ hp =>
    cases h
    rwa [beq_iff_eq.1 hp]
  | case5 => cases h

theorem mem_language_of_search (h : search ps cs) : cs ∈ language ('*' :: ps) := by
  fun_induction search ps cs with
  | case1 ps cs fits hattempt =>
    subst h
    exact mem_language_star.2 ⟨cs, List.suffix_rfl, mem_language_of_ended hattempt⟩
  | case2 ps cs ps' cs' hattempt ih =>
    exact mem_language_star.2 ⟨cs, List.suffix_rfl, mem_language_of_star hattempt (ih h)⟩
  | case3 => cases h
  | case4 ps c cs hattempt ih =>
    exact mem_language_star_of_suffix (ih h) (List.suffix_cons c cs)

theorem mem_language_of_matchesChars (h : matchesChars ps cs) : cs ∈ language ps := by
  unfold matchesChars at h
  split at h
  · next hattempt =>
    subst h
    exact mem_language_of_ended hattempt
  · next hattempt => exact mem_language_of_star hattempt (mem_language_of_search h)
  · cases h

/-! ### What fits and holds no star is accepted -/

/-- A character that is taken is a star on neither side, if the text holds none. -/
theorem ne_star_of_takes {c : Char} (htakes : p = '?' ∨ p = c) (hstar : '*' ∉ c :: cs) :
    p ≠ '*' := by
  rintro rfl
  rcases htakes with h | rfl
  · cases h
  · exact hstar List.mem_cons_self

/-- A pattern that outlasts a text fits no text of that length or less. -/
theorem not_mem_language_of_ended (hstar : '*' ∉ cs) (h : attempt ps cs = .ended false)
    (hlength : text.length ≤ cs.length) : text ∉ language ps := by
  fun_induction attempt ps cs generalizing text with
  | case1 ps =>
    obtain rfl : text = [] := List.length_eq_zero_iff.1 (Nat.le_zero.1 hlength)
    rw [nil_mem_language_iff]
    simpa using h
  | case2 => cases h
  | case3 p ps c cs htakes ih =>
    intro hmem
    have hp := ne_star_of_takes (by simpa using htakes) hstar
    obtain ⟨d, rest, rfl, -, hrest⟩ := (mem_language_cons hp).1 hmem
    exact ih (List.not_mem_of_not_mem_cons hstar) h (Nat.le_of_succ_le_succ hlength) hrest
  | case4 => cases h
  | case5 => cases h

theorem mem_language_star_of_attempt (hstar : '*' ∉ cs) (h : attempt ps cs = .star ps' cs')
    (hsuffix : text <:+ cs) (hmem : text ∈ language ps) : cs' ∈ language ('*' :: ps') := by
  fun_induction attempt ps cs generalizing text with
  | case1 => cases h
  | case2 => cases h
  | case3 p ps c cs htakes ih =>
    have hp := ne_star_of_takes (by simpa using htakes) hstar
    obtain ⟨d, rest, rfl, -, hrest⟩ := (mem_language_cons hp).1 hmem
    refine ih (List.not_mem_of_not_mem_cons hstar) h ?_ hrest
    rcases List.suffix_cons_iff.1 hsuffix with heq | hlater
    · rw [(List.cons.inj heq).2]
    · exact (List.suffix_cons d rest).trans hlater
  | case4 p ps c cs _ hp =>
    cases h
    rw [beq_iff_eq.1 hp] at hmem
    exact mem_language_star_of_suffix hmem hsuffix
  | case5 => cases h

theorem not_mem_language_of_differs (hstar : '*' ∉ cs) (h : attempt ps cs = .differs) :
    cs ∉ language ps := by
  fun_induction attempt ps cs with
  | case1 => cases h
  | case2 c cs => simp [mem_language_nil]
  | case3 p ps c cs htakes ih =>
    intro hmem
    have hp := ne_star_of_takes (by simpa using htakes) hstar
    obtain ⟨d, rest, heq, -, hrest⟩ := (mem_language_cons hp).1 hmem
    rw [← (List.cons.inj heq).2] at hrest
    exact ih (List.not_mem_of_not_mem_cons hstar) h hrest
  | case4 => cases h
  | case5 p ps c cs htakes hp =>
    intro hmem
    obtain ⟨d, rest, heq, hd, -⟩ := (mem_language_cons (by simpa using hp)).1 hmem
    rw [← (List.cons.inj heq).1] at hd
    exact htakes (by simpa using hd)

theorem suffix_of_attempt (h : attempt ps cs = .star ps' cs') : cs' <:+ cs := by
  fun_induction attempt ps cs with
  | case1 => cases h
  | case2 => cases h
  | case3 p ps c cs _ ih => exact (ih h).trans (List.suffix_cons c cs)
  | case4 =>
    cases h
    exact List.suffix_rfl
  | case5 => cases h

/-- A star may stand for more than it must, so no earlier star is tried again. -/
theorem search_of_mem_language (hstar : '*' ∉ cs) (h : cs ∈ language ('*' :: ps)) :
    search ps cs := by
  obtain ⟨text, hsuffix, hmem⟩ := mem_language_star.1 h
  fun_induction search ps cs generalizing text with
  | case1 ps cs fits hattempt =>
    cases fits with
    | true => rfl
    | false => exact absurd hmem (not_mem_language_of_ended hstar hattempt hsuffix.length_le)
  | case2 ps cs ps' cs' hattempt ih =>
    have hcs' := mem_language_star_of_attempt hstar hattempt hsuffix hmem
    obtain ⟨rest, hrest, hmem'⟩ := mem_language_star.1 hcs'
    exact ih (fun hin => hstar ((suffix_of_attempt hattempt).mem hin)) hcs' rest hrest hmem'
  | case3 ps hattempt =>
    rw [List.suffix_nil.1 hsuffix] at hmem
    exact absurd hmem (not_mem_language_of_differs hstar hattempt)
  | case4 ps c cs hattempt ih =>
    rcases List.suffix_cons_iff.1 hsuffix with rfl | hlater
    · exact absurd hmem (not_mem_language_of_differs hstar hattempt)
    · exact ih (List.not_mem_of_not_mem_cons hstar) (mem_language_star.2 ⟨text, hlater, hmem⟩) text
        hlater hmem

theorem matchesChars_of_mem_language (hstar : '*' ∉ cs) (h : cs ∈ language ps) :
    matchesChars ps cs := by
  unfold matchesChars
  split
  · next fits hattempt =>
    cases fits with
    | true => rfl
    | false => exact absurd h (not_mem_language_of_ended hstar hattempt (Nat.le_refl _))
  · next ps' cs' hattempt =>
    refine search_of_mem_language (fun hin => hstar ((suffix_of_attempt hattempt).mem hin)) ?_
    exact mem_language_star_of_attempt hstar hattempt List.suffix_rfl h
  · next hattempt => exact absurd h (not_mem_language_of_differs hstar hattempt)

end InterfaceReport.Text.Glob
