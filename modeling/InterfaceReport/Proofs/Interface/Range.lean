import InterfaceReport.Interface.Filter
import InterfaceReport.Proofs.Text.Decimal
import InterfaceReport.Proofs.Text.Pieces

/-! Ranges of interfaces: how they are written, and the names in them. A range is cut in one way,
and its names are the long form of its stem followed by the numerals of its numbers. -/

namespace InterfaceReport

open Text

/-! ### Long names -/

namespace Name

/-- Whether a text without digits begins a name is settled before the name's number. -/
theorem isPrefixOf?_append {short stem digits : List Char} (hshort : ∀ c ∈ short, c.isDigit = false)
    (hdigits : Decimal.isNumeral digits) :
    short.isPrefixOf? (stem ++ digits) = (short.isPrefixOf? stem).map (· ++ digits) := by
  induction short generalizing stem with
  | nil => rfl
  | cons c short ih =>
    obtain ⟨hc, hshort⟩ := List.forall_mem_cons.1 hshort
    cases stem with
    | nil =>
      obtain ⟨d, ds, rfl⟩ := List.exists_cons_of_ne_nil (Decimal.isNumeral_iff.1 hdigits).1
      have hcd : c ≠ d := by
        rintro rfl
        exact Decimal.not_mem_of_isNumeral hc hdigits List.mem_cons_self
      show (if c == d then short.isPrefixOf? ds else none) = none
      rw [if_neg (by simpa using hcd)]
    | cons d stem =>
      show (if c == d then short.isPrefixOf? (stem ++ digits) else none) =
        (if c == d then short.isPrefixOf? stem else none).map (· ++ digits)
      split
      · exact ih hshort
      · rfl

theorem after?_append {short stem digits : String} (hshort : ∀ c ∈ short.toList, c.isDigit = false)
    (hdigits : Decimal.isNumeral digits.toList) :
    after? short (stem ++ digits) = (after? short stem).map (· ++ digits) := by
  rw [after?, after?, String.toList_append, isPrefixOf?_append hshort hdigits, Option.map_map,
    Option.map_map]
  congr 1
  funext rest
  simp [String.ofList_append]

theorem lengthen?_append {short long stem digits : String}
    (hshort : ∀ c ∈ short.toList, c.isDigit = false) (hlong : ∀ c ∈ long.toList, c.isDigit = false)
    (hdigits : Decimal.isNumeral digits.toList) :
    lengthen? short long (stem ++ digits) = (lengthen? short long stem).map (· ++ digits) := by
  rw [lengthen?, lengthen?, beginsWith, beginsWith, after?_append hshort hdigits,
    after?_append hlong hdigits, Option.isSome_map]
  split
  · rfl
  · simp [Function.comp_def, String.append_assoc]

/-- A name is lengthened before its number. -/
theorem long_append {stem digits : String} (hdigits : Decimal.isNumeral digits.toList) :
    long (stem ++ digits) = long stem ++ digits := by
  rw [long, long, lengthen?_append (by simp) (by simp) hdigits,
    lengthen?_append (by simp) (by simp) hdigits]
  cases lengthen? "Eth" "Ethernet" stem <;> cases lengthen? "Po" "PortChannel" stem <;> rfl

end Name

/-! ### How a range is written -/

namespace InterfaceRange

/-- `item` writes a range: a stem that is not empty and does not end in a digit, digits, a hyphen,
and digits. -/
structure Writes (item stem lo hi : String) : Prop where
  item_eq : item = stem ++ lo ++ "-" ++ hi
  stem_ne : stem ≠ ""
  stem_end : ∀ c ∈ stem.toList.getLast?, c.isDigit = false
  lo_numeral : Decimal.isNumeral lo.toList
  hi_numeral : Decimal.isNumeral hi.toList

variable {item stem lo hi : String}

/-- A stem and the digits after it are found again. -/
theorem takeWhile_reverse_append {stem digits : List Char}
    (hstem : ∀ c ∈ stem.getLast?, c.isDigit = false) (hdigits : ∀ c ∈ digits, c.isDigit) :
    ((stem ++ digits).reverse.takeWhile Char.isDigit).reverse = digits ∧
      ((stem ++ digits).reverse.dropWhile Char.isDigit).reverse = stem := by
  have hall : ∀ c ∈ digits.reverse, c.isDigit = true :=
    fun c hc => hdigits c (List.mem_reverse.1 hc)
  have hstop : stem.reverse.takeWhile Char.isDigit = [] ∧
      stem.reverse.dropWhile Char.isDigit = stem.reverse := by
    cases hrev : stem.reverse with
    | nil => exact ⟨rfl, rfl⟩
    | cons c cs =>
      have hc : c.isDigit = false := by
        refine hstem c ?_
        rw [List.getLast?_eq_head?_reverse, hrev]
        rfl
      exact ⟨List.takeWhile_cons_of_neg (by simp [hc]), List.dropWhile_cons_of_neg (by simp [hc])⟩
  rw [List.reverse_append, List.takeWhile_append_of_pos hall, List.dropWhile_append_of_pos hall,
    hstop.1, hstop.2]
  simp

theorem parts?_of_writes (h : Writes item stem lo hi) :
    parts? item = some (stem, lo.toList, hi.toList) := by
  obtain ⟨rfl, hne, hend, hlo, hhi⟩ := h
  have hhyphen : '-' ∉ hi.toList := Decimal.not_mem_of_isNumeral (by decide) hhi
  have hcut : cutLast? '-' (stem ++ lo ++ "-" ++ hi) = some (stem ++ lo, hi) := by
    refine cutLast?_eq_some_iff.2 ⟨?_, hhyphen⟩
    simp
  obtain ⟨htake, hdrop⟩ := takeWhile_reverse_append hend (Decimal.isNumeral_iff.1 hlo).2
  rw [← String.toList_append] at htake hdrop
  rw [parts?, hcut]
  simp only [Option.bind_eq_bind, Option.bind_some, htake, hdrop]
  simp [hne, hlo, hhi]

theorem writes_of_parts? {lo hi : List Char} (h : parts? item = some (stem, lo, hi)) :
    Writes item stem (String.ofList lo) (String.ofList hi) := by
  obtain ⟨⟨left, after⟩, hcut, h⟩ := Option.bind_eq_some_iff.1 h
  obtain ⟨hitem, -⟩ := cutLast?_eq_some_iff.1 hcut
  have hsplit : (left.toList.reverse.dropWhile Char.isDigit).reverse ++
      (left.toList.reverse.takeWhile Char.isDigit).reverse = left.toList := by
    rw [← List.reverse_append, List.takeWhile_append_dropWhile, List.reverse_reverse]
  dsimp only at h
  split at h
  · cases h
  · next hparts =>
    cases h
    simp only [Bool.or_eq_true, Bool.not_eq_true', not_or, Bool.not_eq_false] at hparts
    obtain ⟨⟨hne, hlo⟩, hhi⟩ := hparts
    refine ⟨?_, ?_, ?_, by simpa using hlo, by simpa using hhi⟩
    · apply String.toList_inj.1
      simp [hitem, hsplit]
    · simpa using hne
    · intro c hc
      have hstop := List.head?_dropWhile_not Char.isDigit left.toList.reverse
      rw [String.toList_ofList, List.getLast?_reverse] at hc
      rw [Option.mem_def.1 hc] at hstop
      exact hstop

theorem parts?_eq_none_iff : parts? item = none ↔ ∀ stem lo hi, ¬ Writes item stem lo hi := by
  constructor
  · intro hnone stem lo hi h
    rw [parts?_of_writes h] at hnone
    cases hnone
  · intro h
    cases hparts : parts? item with
    | none => rfl
    | some parts => exact absurd (writes_of_parts? hparts) (h _ _ _)

/-- A text writes one range at most. -/
theorem Writes.unique {stem' lo' hi' : String} (h : Writes item stem lo hi)
    (h' : Writes item stem' lo' hi') : stem' = stem ∧ lo' = lo ∧ hi' = hi := by
  have hparts := parts?_of_writes h
  rw [parts?_of_writes h'] at hparts
  simpa [String.toList_inj] using hparts

/-- What a text that writes a range is read as: the range, or a refusal when it is empty or a number
is too great. -/
theorem ofItem_of_writes (h : Writes item stem lo hi) :
    ofItem item = if Decimal.value lo.toList ≤ Decimal.value hi.toList ∧
        Decimal.value hi.toList < bound then
      .ok (some ⟨Name.long stem, Decimal.value lo.toList, Decimal.value hi.toList⟩)
    else .error (.config s!"Invalid interface range: {item}") := by
  rw [ofItem, parts?_of_writes h]
  by_cases hfits : Decimal.value lo.toList ≤ Decimal.value hi.toList ∧
      Decimal.value hi.toList < bound
  · obtain ⟨hle, hlt⟩ := hfits
    have hlo := Decimal.ofDigits?_eq_some_iff.2
      ⟨h.lo_numeral, rfl, Nat.lt_of_le_of_lt hle hlt⟩
    have hhi := Decimal.ofDigits?_eq_some_iff.2 ⟨h.hi_numeral, rfl, hlt⟩
    simp only [hlo, hhi, if_pos hle, if_pos (And.intro hle hlt)]
  · rw [if_neg hfits]
    dsimp only
    split
    · next hlo hhi =>
      obtain ⟨-, rfl, -⟩ := Decimal.ofDigits?_eq_some_iff.1 hlo
      obtain ⟨-, rfl, hlt⟩ := Decimal.ofDigits?_eq_some_iff.1 hhi
      rw [if_neg fun hle => hfits ⟨hle, hlt⟩]
    · rfl

theorem ofItem_of_not_writes (h : ∀ stem lo hi, ¬ Writes item stem lo hi) :
    ofItem item = .ok none := by
  rw [ofItem, parts?_eq_none_iff.2 h]

/-! ### What a range holds -/

theorem number?_eq_some_iff {stem name : String} {n : Nat} :
    number? stem name = some n ↔ name = stem ++ toString n ∧ n < bound := by
  have hnumber : number? stem name = (after? stem name).bind fun digits =>
      if 1 < digits.toList.length && digits.toList.head? == some '0' then none
      else Decimal.ofDigits? bound digits.toList := rfl
  have hrest : ∀ digits : String,
      (if 1 < digits.toList.length && digits.toList.head? == some '0' then none
        else Decimal.ofDigits? bound digits.toList) = some n ↔
      digits = toString n ∧ n < bound := by
    intro digits
    split
    · next hzero =>
      constructor
      · nofun
      · rintro ⟨rfl, -⟩
        have hcanonical := Decimal.isCanonical_toDigits n
        rw [← Nat.toList_repr, ← Nat.toString_eq_repr] at hcanonical
        exact absurd (by simpa using hzero) hcanonical.2
    · next hzero =>
      rw [Decimal.ofDigits?_eq_some_iff]
      constructor
      · rintro ⟨hnumeral, rfl, hlt⟩
        have hcanonical := Decimal.isCanonical_iff.1 ⟨hnumeral, by simpa using hzero⟩
        exact ⟨String.toList_inj.1 (by simpa using hcanonical), hlt⟩
      · rintro ⟨rfl, hlt⟩
        refine ⟨?_, ?_, hlt⟩
        · simpa using Decimal.isNumeral_toDigits n
        · simp
  rw [hnumber, Option.bind_eq_some_iff]
  simp only [after?_eq_some_iff, hrest]
  constructor
  · rintro ⟨_, rfl, rfl, hn⟩
    exact ⟨rfl, hn⟩
  · rintro ⟨rfl, hn⟩
    exact ⟨_, rfl, rfl, hn⟩

theorem contains_iff {range : InterfaceRange} {name : String} :
    range.contains name ↔ ∃ n, range.lo ≤ n ∧ n ≤ range.hi ∧ n < bound ∧
      name = range.stem ++ toString n := by
  rw [contains, Option.any_eq_true]
  simp only [number?_eq_some_iff, Bool.and_eq_true, decide_eq_true_eq]
  constructor
  · rintro ⟨n, ⟨hname, hn⟩, hlo, hhi⟩
    exact ⟨n, hlo, hhi, hn, hname⟩
  · rintro ⟨n, hlo, hhi, hn, hname⟩
    exact ⟨n, ⟨hname, hn⟩, hlo, hhi⟩

end InterfaceRange

end InterfaceReport
