import InterfaceReport.Text.Blank
import InterfaceReport.Text.Pieces
import Mathlib.Data.List.DropRight

/-! Texts cut at a separator, with the blanks around the pieces taken off. Blanks around the whole
text belong to the first and the last piece, so they play no part. -/

namespace InterfaceReport.Text

variable {c sep : Char} {cs : List Char}

/-! ### Blanks at the ends -/

theorem isBlank_of_isDigit (h : c.isDigit) : isBlank c = false := by
  have := Char.isDigit_iff_toNat.1 h
  simp only [Char.reduceToNat] at this
  simp only [isBlank, Bool.or_eq_false_iff, Bool.and_eq_false_iff, decide_eq_false_iff_not,
    beq_eq_false_iff_ne]
  omega

/-- No blank stands at an end. -/
structure Trimmed (cs : List Char) : Prop where
  head : ∀ c ∈ cs.head?, isBlank c = false
  last : ∀ c ∈ cs.getLast?, isBlank c = false

theorem trimChars_eq_rdropWhile (cs : List Char) :
    trimChars cs = (cs.dropWhile isBlank).rdropWhile isBlank := rfl

theorem trimmed_trimChars (cs : List Char) : Trimmed (trimChars cs) where
  head c hc := by
    have hstop := List.head?_dropWhile_not isBlank cs
    rw [trimChars_eq_rdropWhile] at hc
    have hcs : (cs.dropWhile isBlank).head? = some c := by
      obtain ⟨trail, htrail⟩ := List.rdropWhile_prefix isBlank (cs.dropWhile isBlank)
      rw [← htrail, List.head?_append, hc, Option.some_or]
    rw [hcs] at hstop
    exact hstop
  last c hc := by
    rw [trimChars_eq_rdropWhile] at hc
    obtain ⟨hne, rfl⟩ := List.mem_getLast?_eq_getLast hc
    exact Bool.eq_false_iff.2 (List.rdropWhile_last_not isBlank _ hne)

theorem Trimmed.trimChars_eq (h : Trimmed cs) : trimChars cs = cs := by
  have hlead : cs.dropWhile isBlank = cs := by
    cases cs with
    | nil => rfl
    | cons c cs => exact List.dropWhile_cons_of_neg (by simp [h.head c rfl])
  rw [trimChars_eq_rdropWhile, hlead, List.rdropWhile_eq_self_iff]
  intro hne
  exact Bool.eq_false_iff.1 (h.last _ (List.getLast?_eq_some_getLast hne))

theorem exists_blanks (cs : List Char) : ∃ lead trail, cs = lead ++ (trimChars cs ++ trail) ∧
    (∀ c ∈ lead, isBlank c) ∧ ∀ c ∈ trail, isBlank c := by
  refine ⟨cs.takeWhile isBlank, (cs.dropWhile isBlank).rtakeWhile isBlank, ?_,
    fun c => List.mem_takeWhile_imp, fun c => List.mem_rtakeWhile_imp⟩
  rw [trimChars_eq_rdropWhile, List.rdropWhile_append_rtakeWhile, List.takeWhile_append_dropWhile]

theorem mem_trimChars (hc : isBlank c = false) : c ∈ trimChars cs ↔ c ∈ cs := by
  obtain ⟨lead, trail, hcs, hlead, htrail⟩ := exists_blanks cs
  constructor
  · intro h
    rw [hcs]
    simp [h]
  · intro h
    rw [hcs, List.mem_append, List.mem_append] at h
    rcases h with h | h | h
    · simp [hlead c h] at hc
    · exact h
    · simp [htrail c h] at hc

theorem trimChars_cons (hc : isBlank c) : trimChars (c :: cs) = trimChars cs := by
  rw [trimChars_eq_rdropWhile, List.dropWhile_cons_of_pos hc, trimChars_eq_rdropWhile]

theorem trimChars_concat (hc : isBlank c) : trimChars (cs ++ [c]) = trimChars cs := by
  rw [trimChars_eq_rdropWhile, trimChars_eq_rdropWhile, List.dropWhile_append]
  split
  · next hempty =>
    rw [List.isEmpty_iff.1 hempty, List.dropWhile_cons_of_pos hc]
    rfl
  · rw [List.rdropWhile_concat_pos _ _ _ hc]

/-! ### Pieces -/

/-- The last cut takes out one separator, and none stands after it. -/
theorem cutLast?_eq_some_iff {s a b : String} :
    cutLast? sep s = some (a, b) ↔ s.toList = a.toList ++ sep :: b.toList ∧ sep ∉ b.toList := by
  simp only [cutLast?, cutLastChars?, Option.map_eq_some_iff, Prod.exists, Prod.mk.injEq,
    cutChars?_eq_some_iff]
  constructor
  · rintro ⟨_, _, ⟨y, x, ⟨hs, hy⟩, rfl, rfl⟩, rfl, rfl⟩
    have hcs := congrArg List.reverse hs
    rw [List.reverse_reverse, List.reverse_append, List.reverse_cons, List.append_assoc] at hcs
    exact ⟨by simpa using hcs, by simpa using hy⟩
  · rintro ⟨hs, hb⟩
    refine ⟨a.toList, b.toList, ⟨b.toList.reverse, a.toList.reverse, ⟨?_, ?_⟩, ?_, ?_⟩, ?_, ?_⟩
    · simp [hs]
    · simpa using hb
    all_goals simp

/-- A text holds no separator, or it is made of one that does not, a separator, and a text. -/
@[elab_as_elim]
theorem cut_induction (sep : Char) {motive : List Char → Prop}
    (whole : ∀ cs, sep ∉ cs → motive cs)
    (cut : ∀ as bs, sep ∉ as → motive bs → motive (as ++ sep :: bs)) (cs : List Char) :
    motive cs := by
  by_cases hmem : sep ∈ cs
  · obtain ⟨as, bs, hcs, has⟩ := List.eq_append_cons_of_mem hmem
    have hshorter : bs.length < cs.length := by
      rw [hcs, List.length_append, List.length_cons]
      omega
    rw [hcs]
    exact cut as bs has (cut_induction sep whole cut bs)
  · exact whole cs hmem
termination_by cs.length

theorem ne_of_blank (hsep : isBlank sep = false) (hc : isBlank c) : c ≠ sep := by
  rintro rfl
  rw [hc] at hsep
  cases hsep

theorem map_trimChars_splitOn_cons (hsep : isBlank sep = false) (hc : isBlank c) :
    ((c :: cs).splitOn sep).map trimChars = (cs.splitOn sep).map trimChars := by
  rw [List.splitOn_cons_eq_if_modifyHead, if_neg (by simpa using ne_of_blank hsep hc)]
  obtain ⟨piece, pieces, hpieces⟩ := List.exists_cons_of_ne_nil (List.splitOn_ne_nil sep cs)
  rw [hpieces, List.modifyHead_cons, List.map_cons, List.map_cons, trimChars_cons hc]

theorem map_trimChars_splitOn_concat {cs : List Char} (hsep : isBlank sep = false)
    (hc : isBlank c) :
    ((cs ++ [c]).splitOn sep).map trimChars = (cs.splitOn sep).map trimChars := by
  induction cs using cut_induction sep with
  | whole cs hcs =>
    have hcs' : sep ∉ cs ++ [c] := by
      simp [hcs, (ne_of_blank hsep hc).symm]
    rw [List.splitOn_eq_singleton hcs, List.splitOn_eq_singleton hcs', List.map_singleton,
      List.map_singleton, trimChars_concat hc]
  | cut as bs has ih =>
    rw [List.append_assoc, List.cons_append, List.splitOn_append_cons_self,
      List.splitOn_append_cons_self, List.map_append, List.map_append, ih]

theorem map_trimChars_splitOn_blanks (hsep : isBlank sep = false) {lead trail : List Char}
    (hlead : ∀ c ∈ lead, isBlank c) (htrail : ∀ c ∈ trail, isBlank c) :
    ((lead ++ (cs ++ trail)).splitOn sep).map trimChars = (cs.splitOn sep).map trimChars := by
  induction lead with
  | cons c lead ih =>
    obtain ⟨hc, hlead⟩ := List.forall_mem_cons.1 hlead
    rw [List.cons_append, map_trimChars_splitOn_cons hsep hc, ih hlead]
  | nil =>
    induction trail using List.reverseRecOn with
    | nil => rw [List.nil_append, List.append_nil]
    | append_singleton trail c ih =>
      obtain ⟨htrail, hc⟩ := List.forall_mem_append.1 htrail
      rw [List.nil_append, ← List.append_assoc,
        map_trimChars_splitOn_concat hsep (hc c List.mem_cons_self)]
      exact ih htrail

/-- Blanks around a text do not show in its trimmed pieces. -/
theorem map_trim_pieces_trim (hsep : isBlank sep = false) (s : String) :
    (pieces sep (trim s)).map trim = (pieces sep s).map trim := by
  obtain ⟨lead, trail, hs, hlead, htrail⟩ := exists_blanks s.toList
  have hchars : ((trimChars s.toList).splitOn sep).map trimChars =
      (s.toList.splitOn sep).map trimChars := by
    conv_rhs => rw [hs]
    exact (map_trimChars_splitOn_blanks hsep hlead htrail).symm
  have hmap : ∀ css : List (List Char),
      (css.map String.ofList).map trim = (css.map trimChars).map String.ofList := by
    intro css
    simp [trim, Function.comp_def]
  rw [pieces, pieces, toList_trim, hmap, hmap, hchars]

theorem pieces_append {mark : String} (hmark : mark.toList = [sep]) (s t : String) :
    pieces sep (s ++ mark ++ t) = pieces sep s ++ pieces sep t := by
  rw [pieces, pieces, pieces, ← List.map_append, ← List.splitOn_append_cons_self]
  simp [hmark]

theorem pieces_of_not_mem {s : String} (h : sep ∉ s.toList) : pieces sep s = [s] := by
  rw [pieces, List.splitOn_eq_singleton h]
  simp

theorem not_mem_of_mem_splitOn {cs piece : List Char} (h : piece ∈ cs.splitOn sep) :
    sep ∉ piece := by
  induction cs using cut_induction sep with
  | whole cs hcs =>
    rw [List.splitOn_eq_singleton hcs, List.mem_singleton] at h
    rwa [h]
  | cut as bs has ih =>
    rw [List.splitOn_append_cons_self_of_not_mem has] at h
    rcases List.mem_cons.1 h with rfl | h
    · exact has
    · exact ih h

theorem not_mem_of_mem_pieces {s piece : String} (h : piece ∈ pieces sep s) :
    sep ∉ piece.toList := by
  obtain ⟨cs, hcs, rfl⟩ := List.mem_map.1 h
  simpa using not_mem_of_mem_splitOn hcs

end InterfaceReport.Text
