import InterfaceReport.Text.Glob

/-! Patterns that are a stem with a star after it. What begins with the stem fits, unless the star
meets another star in the text: the two are then taken for the same character, and nothing is left
of the pattern for the rest of the text. -/

namespace InterfaceReport.Text.Glob

/-- The text begins with a star and goes on after it. -/
def Starred (text : List Char) : Prop := ∃ c rest, text = '*' :: c :: rest

/-- A stem is taken off character by character, whatever its characters are. -/
theorem attempt_append (stem pattern text : List Char) :
    attempt (stem ++ pattern) (stem ++ text) = attempt pattern text := by
  induction stem with
  | nil => rfl
  | cons c stem ih =>
    rw [List.cons_append, List.cons_append, attempt, if_pos (by simp)]
    exact ih

/-- After the last star any text is found. -/
theorem search_nil (text : List Char) : search [] text = true := by
  induction text with
  | nil =>
    rw [search]
    simp [attempt]
  | cons c text ih =>
    rw [search]
    simpa [attempt] using ih

theorem matchesChars_stem_star {stem text : List Char} :
    matchesChars (stem ++ ['*']) (stem ++ text) ↔ ¬ Starred text := by
  rw [matchesChars, attempt_append]
  cases text with
  | nil => simp [attempt, Starred]
  | cons c text =>
    by_cases hc : c = '*'
    · subst hc
      cases text with
      | nil => simp [attempt, Starred]
      | cons d rest => simp [attempt, Starred]
    · have hstep : attempt ['*'] (c :: text) = .star [] (c :: text) := by
        simp [attempt, Ne.symm hc]
      simp [hstep, search_nil, Starred, hc]

theorem fits_stem_star {stem text : String} :
    fits (stem ++ "*") (stem ++ text) ↔ ¬ Starred text.toList := by
  rw [fits, String.toList_append, String.toList_append]
  exact matchesChars_stem_star

end InterfaceReport.Text.Glob
