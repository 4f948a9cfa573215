import InterfaceReport.Proofs.NaturalOrder.Stem
import InterfaceReport.Proofs.Text.Decimal

/-! Numbers in names. Digits compare by the number they write, however many they are, and then by
the zeros before it. A number in a name is cut out whole, so names that begin alike and go on with
a number compare by that number first. -/

namespace InterfaceReport

open Std Text

namespace Run

theorem isDigit_of_mem_significant {cs : List Char} (h : ∀ c ∈ cs, c.isDigit) :
    ∀ c ∈ significant cs, c.isDigit :=
  fun c hc => h c ((List.dropWhile_sublist _).mem hc)

theorem head?_significant (cs : List Char) : ∀ c ∈ (significant cs).head?, c ≠ '0' := by
  intro c hc
  have hstop := List.head?_dropWhile_not (· == '0') cs
  rw [significant] at hc
  rw [Option.mem_def.1 hc] at hstop
  exact beq_eq_false_iff_ne.1 hstop

/-- Digits compare by value; what is left to tell apart are the zeros before it. -/
theorem compareDigits_eq_value {as bs : List Char} (has : ∀ c ∈ as, c.isDigit)
    (hbs : ∀ c ∈ bs, c.isDigit) :
    compareDigits as bs = (Ord.compare (Decimal.value as) (Decimal.value bs)).then
      (Ord.compare as.length bs.length) := by
  have hvalue := Decimal.compare_value (isDigit_of_mem_significant has)
    (isDigit_of_mem_significant hbs) (head?_significant as) (head?_significant bs)
  calc compareDigits as bs =
        ((Ord.compare (significant as).length (significant bs).length).then
          (Ord.compare (significant as) (significant bs))).then
            (Ord.compare as.length bs.length) := (Ordering.then_assoc _ _ _).symm
    _ = (Ord.compare (Decimal.value (significant as)) (Decimal.value (significant bs))).then
          (Ord.compare as.length bs.length) := by rw [hvalue]
    _ = _ := by rw [significant, significant, Decimal.value_dropWhile_zero,
          Decimal.value_dropWhile_zero]

end Run

/-- A number at the beginning of a text is its first run. -/
theorem charRuns_number_append {digits rest : List Char} (hdigits : Decimal.isNumeral digits)
    (hrest : ∀ c ∈ rest.head?, c.isDigit = false) :
    charRuns (digits ++ rest) = .digits digits :: charRuns rest := by
  obtain ⟨hne, hall⟩ := Decimal.isNumeral_iff.1 hdigits
  obtain ⟨c, cs, rfl⟩ := List.exists_cons_of_ne_nil hne
  rw [charRuns_run_append hne hall hrest, Run.ofChars_cons, if_pos (hall c List.mem_cons_self)]

/-- Names that begin with numbers compare by these, and by what follows them if they are written
alike. -/
theorem naturalCompare_number_append {d e s u : String} (hd : Decimal.isNumeral d.toList)
    (he : Decimal.isNumeral e.toList) (hs : ∀ c ∈ s.toList.head?, c.isDigit = false)
    (hu : ∀ c ∈ u.toList.head?, c.isDigit = false) :
    naturalCompare (d ++ s) (e ++ u) =
      ((compare (Decimal.value d.toList) (Decimal.value e.toList)).then
        (compare d.length e.length)).then (naturalCompare s u) := by
  rw [naturalCompare, runs_append, runs_append, charRuns_number_append hd hs,
    charRuns_number_append he hu, List.compareLex_cons_cons, ← String.length_toList,
    ← String.length_toList, ← Run.compareDigits_eq_value (Decimal.isNumeral_iff.1 hd).2
    (Decimal.isNumeral_iff.1 he).2]
  rfl

/-- After a common stem the smaller number comes first, and equal numbers of one length leave the
order to what follows them. -/
theorem naturalCompare_by_number {stem d e s u : String}
    (hstem : ∀ c ∈ stem.toList.getLast?, c.isDigit = false)
    (hd : Decimal.isNumeral d.toList) (he : Decimal.isNumeral e.toList)
    (hs : ∀ c ∈ s.toList.head?, c.isDigit = false) (hu : ∀ c ∈ u.toList.head?, c.isDigit = false) :
    (Decimal.value d.toList < Decimal.value e.toList →
        naturalCompare (stem ++ d ++ s) (stem ++ e ++ u) = .lt) ∧
      (Decimal.value d.toList = Decimal.value e.toList → d.length = e.length →
        naturalCompare (stem ++ d ++ s) (stem ++ e ++ u) = naturalCompare s u) := by
  have hstemless : naturalCompare (stem ++ d ++ s) (stem ++ e ++ u) =
      ((compare (Decimal.value d.toList) (Decimal.value e.toList)).then
        (compare d.length e.length)).then (naturalCompare s u) := by
    rw [String.append_assoc, String.append_assoc, naturalCompare_append_left hstem,
      naturalCompare_number_append hd he hs hu]
  constructor
  · intro hlt
    rw [hstemless, Nat.compare_eq_lt.2 hlt]
    rfl
  · intro heq hlength
    rw [hstemless, Nat.compare_eq_eq.2 heq, Nat.compare_eq_eq.2 hlength]
    rfl

/-- More digits than any word holds, zeros before the smaller number, and nothing after the greater
one. -/
theorem naturalCompare_by_number_beyond_words :
    naturalCompare "Ethernet00099999999999999999999/7" "Ethernet100000000000000000000" = .lt ∧
      naturalCompare "Ethernet007/2" "Ethernet007/10" = naturalCompare "/2" "/10" := by
  have hend : ∀ c ∈ "Ethernet".toList.getLast?, c.isDigit = false := by simp
  constructor
  · exact (naturalCompare_by_number (d := "00099999999999999999999") (e := "100000000000000000000")
      (s := "/7") (u := "") hend (by decide) (by decide) (by simp) (by simp)).1 (by decide)
  · exact (naturalCompare_by_number (d := "007") (e := "007") (s := "/2") (u := "/10") hend
      (by decide) (by decide) (by simp) (by simp)).2 rfl rfl

end InterfaceReport
