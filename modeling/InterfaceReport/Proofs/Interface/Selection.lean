import InterfaceReport.Proofs.Interface.Filter

/-! Selections that come to the same. A list asks for what its items ask for, so neither the order
of the items nor repetitions nor blanks around them matter, lists can be joined, and a range can be
spelled out. -/

namespace InterfaceReport

open Text

namespace Filter

variable {item : String}

/-! ### A range spelled out -/

/-- The names from `stem` and `lo` to `stem` and `hi`, one by one. -/
def spelledOut (stem : String) (lo hi : Nat) : List String :=
  (List.range' lo (hi + 1 - lo)).map fun n => stem ++ toString n

theorem mem_spelledOut {stem : String} {lo hi : Nat} :
    item ∈ spelledOut stem lo hi ↔ ∃ n, lo ≤ n ∧ n ≤ hi ∧ item = stem ++ toString n := by
  simp only [spelledOut, List.mem_map, List.mem_range'_1]
  constructor
  · rintro ⟨n, ⟨hlo, hhi⟩, rfl⟩
    exact ⟨n, hlo, by omega, rfl⟩
  · rintro ⟨n, hlo, hhi, rfl⟩
    exact ⟨n, ⟨hlo, by omega⟩, rfl⟩

theorem isNumeral_toString (n : Nat) : Decimal.isNumeral (toString n).toList := by
  simpa using Decimal.isNumeral_toDigits n

/-- A number at the end of a name makes no range of it, unless a hyphen stands before it: the digits
at the end settle where the stem ends. -/
theorem not_writes_number {stem : String} (hend : ∀ c ∈ stem.toList.getLast?, c.isDigit = false)
    (hhyphen : stem.toList.getLast? ≠ some '-') (n : Nat) (stem' lo hi : String) :
    ¬ InterfaceRange.Writes (stem ++ toString n) stem' lo hi := by
  intro h
  have hnumber := (Decimal.isNumeral_iff.1 (isNumeral_toString n)).2
  have hhi := (Decimal.isNumeral_iff.1 h.hi_numeral).2
  have hleft := (InterfaceRange.takeWhile_reverse_append hend hnumber).2
  have hend' : ∀ c ∈ (stem' ++ lo ++ "-").toList.getLast?, c.isDigit = false := by simp
  have hright := (InterfaceRange.takeWhile_reverse_append hend' hhi).2
  rw [← String.toList_append, h.item_eq, String.toList_append, hright] at hleft
  rw [← hleft] at hhyphen
  simp at hhyphen

theorem asks_number_iff {stem : String} (hend : ∀ c ∈ stem.toList.getLast?, c.isDigit = false)
    (hhyphen : stem.toList.getLast? ≠ some '-') (n : Nat) (name : String) :
    Asks (stem ++ toString n) name ↔ name = Name.long stem ++ toString n := by
  rw [asks_iff_of_not_writes (not_writes_number hend hhyphen n),
    Name.long_append (isNumeral_toString n)]

variable {stem lo hi : String}

/-- A character that is no digit is not in a name made of a stem without it and a number. -/
theorem not_mem_number {c : Char} (hc : c.isDigit = false) (hstem : c ∉ stem.toList) (n : Nat) :
    c ∉ (stem ++ toString n).toList := by
  intro hmem
  rcases List.mem_append.1 (String.toList_append ▸ hmem) with h | h
  · exact hstem h
  · exact Decimal.not_mem_of_isNumeral hc (isNumeral_toString n) h

theorem not_mem_stem {c : Char} (h : InterfaceRange.Writes item stem lo hi)
    (hc : c ∉ item.toList) : c ∉ stem.toList := by
  intro hmem
  apply hc
  rw [h.item_eq]
  simp [hmem]

theorem isItem_number (hitem : IsItem item) (h : InterfaceRange.Writes item stem lo hi) (n : Nat) :
    IsItem (stem ++ toString n) := by
  obtain ⟨hne, hdigits⟩ := Decimal.isNumeral_iff.1 (isNumeral_toString n)
  have hstem : stem.toList ≠ [] := by simpa using h.stem_ne
  refine ⟨⟨fun c hc => hitem.trimmed.head c ?_, fun c hc => isBlank_of_isDigit (hdigits c ?_)⟩, ?_,
    not_mem_number (by decide) (not_mem_stem h hitem.no_comma) n⟩
  · -- the item begins with the stem, as the number's name does
    rw [String.toList_append, List.head?_append_of_ne_nil _ hstem] at hc
    rw [h.item_eq, String.append_assoc, String.append_assoc, String.toList_append,
      List.head?_append_of_ne_nil _ hstem]
    exact hc
  · rw [String.toList_append, List.getLast?_append_of_ne_nil _ hne] at hc
    exact List.mem_of_getLast? hc
  · simp [h.stem_ne]

theorem ne_word_of_numeral {before digits after : String} (h : Decimal.isNumeral digits.toList) :
    before ++ digits ++ after ≠ "subport" := by
  obtain ⟨c, hc⟩ := List.exists_mem_of_ne_nil _ (Decimal.isNumeral_iff.1 h).1
  intro hword
  have hmem : c ∈ "subport".toList := by
    rw [← hword]
    simp [hc]
  have hletters : ∀ c ∈ "subport".toList, c.isDigit = false := by simp
  exact Decimal.not_mem_of_isNumeral (hletters c hmem) h hc

/-- The text can stand in a list and be a list by itself. -/
structure IsListed (item : String) : Prop where
  isItem : IsItem item
  ne_word : item ≠ "subport"
  not_refused : ¬ Refused item

theorem exists_parse_intercalate {list : List String} (hne : list ≠ [])
    (h : ∀ item ∈ list, IsListed item) : ∃ filter, parse (",".intercalate list) = .ok filter ∧
      ∀ name, filter.admits name ↔ ∃ item ∈ list, Asks item name := by
  have hitems : items (",".intercalate list) = list :=
    items_intercalate fun item hitem => (h item hitem).isItem
  have hlist : IsList (",".intercalate list) := by
    refine isList_of_items fun item hitem => ?_
    rw [hitems] at hitem
    exact ⟨(h item hitem).ne_word, fun hsub => (h item hitem).not_refused (.inl hsub)⟩
  obtain ⟨filter, hparse, hadmits⟩ := exists_parse hlist (by rwa [hitems]) fun item hitem =>
    (h item (hitems ▸ hitem)).not_refused
  rw [hitems] at hadmits
  exact ⟨filter, hparse, hadmits⟩

/-- A range is a list by itself. -/
theorem exists_parse_range (hitem : IsItem item) (hgood : ¬ Refused item)
    (h : InterfaceRange.Writes item stem lo hi) : ∃ filter, parse item = .ok filter ∧
      ∀ name, filter.admits name ↔ ∃ n, Decimal.value lo.toList ≤ n ∧
        n ≤ Decimal.value hi.toList ∧ name = Name.long stem ++ toString n := by
  have hword : item ≠ "subport" := by
    rw [h.item_eq, String.append_assoc]
    exact ne_word_of_numeral h.lo_numeral
  have hlisted : ∀ item' ∈ [item], IsListed item' :=
    List.forall_mem_singleton.2 ⟨hitem, hword, hgood⟩
  obtain ⟨filter, hparse, hadmits⟩ := exists_parse_intercalate (List.cons_ne_nil _ _) hlisted
  refine ⟨filter, by simpa using hparse, fun name => ?_⟩
  rw [hadmits, ← asks_iff_of_writes h]
  simp

/-- So are the names of a range one by one, unless its stem ends in a hyphen. -/
theorem exists_parse_spelledOut (hitem : IsItem item) (hgood : ¬ Refused item)
    (h : InterfaceRange.Writes item stem lo hi) (hhyphen : stem.toList.getLast? ≠ some '-') :
    ∃ filter, parse (",".intercalate
        (spelledOut stem (Decimal.value lo.toList) (Decimal.value hi.toList))) = .ok filter ∧
      ∀ name, filter.admits name ↔ ∃ n, Decimal.value lo.toList ≤ n ∧
        n ≤ Decimal.value hi.toList ∧ name = Name.long stem ++ toString n := by
  obtain ⟨hsub, hranges⟩ := not_or.1 hgood
  have hle : Decimal.value lo.toList ≤ Decimal.value hi.toList := by
    by_contra hlt
    exact hranges ⟨stem, lo, hi, h, .inl (Nat.lt_of_not_le hlt)⟩
  have hdot : '.' ∉ stem.toList := not_mem_stem h fun hmem => hsub (has_iff.2 hmem)
  have hlisted : ∀ member ∈ spelledOut stem (Decimal.value lo.toList) (Decimal.value hi.toList),
      IsListed member := by
    intro member hmember
    obtain ⟨n, -, -, rfl⟩ := mem_spelledOut.1 hmember
    refine ⟨isItem_number hitem h n, ?_, ?_⟩
    · rw [← String.append_empty (s := stem ++ toString n)]
      exact ne_word_of_numeral (isNumeral_toString n)
    · rintro (hsub' | ⟨stem', lo', hi', hwrites, -⟩)
      · exact not_mem_number (by decide) hdot n (has_iff.1 hsub')
      · exact not_writes_number h.stem_end hhyphen n _ _ _ hwrites
  have hfirst : stem ++ toString (Decimal.value lo.toList) ∈
      spelledOut stem (Decimal.value lo.toList) (Decimal.value hi.toList) :=
    mem_spelledOut.2 ⟨_, Nat.le_refl _, hle, rfl⟩
  obtain ⟨filter, hparse, hadmits⟩ :=
    exists_parse_intercalate (List.ne_nil_of_mem hfirst) hlisted
  refine ⟨filter, hparse, fun name => ?_⟩
  rw [hadmits]
  constructor
  · rintro ⟨_, hmember, hasks⟩
    obtain ⟨n, hlo, hhi, rfl⟩ := mem_spelledOut.1 hmember
    exact ⟨n, hlo, hhi, (asks_number_iff h.stem_end hhyphen n name).1 hasks⟩
  · rintro ⟨n, hlo, hhi, rfl⟩
    exact ⟨_, mem_spelledOut.2 ⟨n, hlo, hhi, rfl⟩, (asks_number_iff h.stem_end hhyphen n _).2 rfl⟩

/-! ### Selections that come to the same -/

/-- Both are filters, which admit the same names, or neither is one. -/
structure Alike (x y : Except Error Filter) : Prop where
  exists_iff : (∃ filter, x = .ok filter) ↔ ∃ filter, y = .ok filter
  admits_eq {filter filter' : Filter} (name : String) :
    x = .ok filter → y = .ok filter' → filter.admits name = filter'.admits name

variable {selection selection' : String} {filter filter' : Filter}

theorem exists_parse_of_mem_iff (h : IsList selection) (h' : IsList selection')
    (hitems : ∀ item, item ∈ items selection' ↔ item ∈ items selection)
    (hparse : parse selection = .ok filter) : ∃ filter', parse selection' = .ok filter' ∧
      ∀ name, filter'.admits name = filter.admits name := by
  obtain ⟨⟨hne, hgood⟩, hadmits⟩ := of_parse_eq_ok h hparse
  obtain ⟨item, hitem⟩ := List.exists_mem_of_ne_nil _ hne
  have hne' : items selection' ≠ [] := List.ne_nil_of_mem ((hitems item).2 hitem)
  obtain ⟨filter', hparse', hadmits'⟩ :=
    exists_parse h' hne' fun item hitem => hgood item ((hitems item).1 hitem)
  refine ⟨filter', hparse', fun name => ?_⟩
  rw [Bool.eq_iff_iff, hadmits, hadmits']
  exact exists_congr fun item => and_congr_left' (hitems item)

theorem alike_of_mem_iff (h : IsList selection) (h' : IsList selection')
    (hitems : ∀ item, item ∈ items selection' ↔ item ∈ items selection) :
    Alike (parse selection') (parse selection) where
  exists_iff := by
    constructor
    · rintro ⟨filter', hparse'⟩
      obtain ⟨filter, hparse, -⟩ :=
        exists_parse_of_mem_iff h' h (fun item => (hitems item).symm) hparse'
      exact ⟨filter, hparse⟩
    · rintro ⟨filter, hparse⟩
      obtain ⟨filter', hparse', -⟩ := exists_parse_of_mem_iff h h' hitems hparse
      exact ⟨filter', hparse'⟩
  admits_eq name hparse' hparse := by
    obtain ⟨filter, hfilter, hadmits⟩ := exists_parse_of_mem_iff h h' hitems hparse
    rw [hparse'] at hfilter
    cases hfilter
    exact hadmits name

theorem exists_parse_append (h : IsList selection) (h' : IsList selection')
    (hparse : parse selection = .ok filter) (hparse' : parse selection' = .ok filter') :
    ∃ both, parse (selection ++ "," ++ selection') = .ok both ∧
      ∀ name, both.admits name = (filter.admits name || filter'.admits name) := by
  obtain ⟨⟨hne, hgood⟩, hadmits⟩ := of_parse_eq_ok h hparse
  obtain ⟨⟨-, hgood'⟩, hadmits'⟩ := of_parse_eq_ok h' hparse'
  obtain ⟨both, hboth, hadmitsBoth⟩ := exists_parse (isList_append selection selection')
    (by
      rw [items_append]
      exact List.append_ne_nil_of_left_ne_nil hne _)
    (by
      rw [items_append]
      exact List.forall_mem_append.2 ⟨hgood, hgood'⟩)
  refine ⟨both, hboth, fun name => ?_⟩
  rw [Bool.eq_iff_iff, Bool.or_eq_true, hadmits, hadmits', hadmitsBoth, items_append]
  simp only [List.mem_append, or_and_right, exists_or]

/-- A list is refused when it has no items or one of them spoils it. Otherwise it admits the names
that its items ask for. So lists of the same items come to the same, a range by itself to its names
one by one unless its stem ends in a hyphen, and two lists joined to both. -/
theorem list_selects_asked (h : IsList selection) :
    ((∃ e, parse selection = .error e) ↔
        items selection = [] ∨ ∃ item ∈ items selection, Refused item) ∧
      (∀ filter, parse selection = .ok filter → ∀ name,
        filter.admits name ↔ ∃ item ∈ items selection, Asks item name) ∧
      (∀ selection', IsList selection' →
        (∀ item, item ∈ items selection' ↔ item ∈ items selection) →
          Alike (parse selection') (parse selection)) ∧
      (∀ filter, parse selection = .ok filter → ∀ item ∈ items selection, ∀ stem lo hi,
        InterfaceRange.Writes item stem lo hi → stem.toList.getLast? ≠ some '-' →
          ∃ range list, parse item = .ok range ∧
            parse (",".intercalate (spelledOut stem (Decimal.value lo.toList)
              (Decimal.value hi.toList))) = .ok list ∧
            ∀ name, range.admits name = list.admits name) ∧
      ∀ selection' filter filter', IsList selection' → parse selection = .ok filter →
        parse selection' = .ok filter' → ∃ both, parse (selection ++ "," ++ selection') = .ok both ∧
          ∀ name, both.admits name = (filter.admits name || filter'.admits name) := by
  refine ⟨parse_eq_error_iff h, fun filter hparse => (of_parse_eq_ok h hparse).2,
    fun selection' h' => alike_of_mem_iff h h', ?_,
    fun selection' filter filter' h' => exists_parse_append h h'⟩
  intro filter hparse item hitem stem lo hi hwrites hhyphen
  have hgood := (of_parse_eq_ok h hparse).1.2 item hitem
  obtain ⟨range, hrange, hadmits⟩ := exists_parse_range (isItem_of_mem hitem) hgood hwrites
  obtain ⟨list, hlist, hadmits'⟩ :=
    exists_parse_spelledOut (isItem_of_mem hitem) hgood hwrites hhyphen
  refine ⟨range, list, hrange, hlist, fun name => ?_⟩
  rw [Bool.eq_iff_iff, hadmits, hadmits']

/-- Short names, a range with zeros before its numbers, blanks, and an item given twice. -/
theorem list_selects_asked_short :
    (∃ filter, parse " Eth08-10 ,Po1,, Po1" = .ok filter ∧ filter.admits "Ethernet9" ∧
        filter.admits "PortChannel1" ∧ ¬ filter.admits "Ethernet09") ∧
      ∃ range list, parse "Eth08-10" = .ok range ∧ parse "Eth8,Eth9,Eth10" = .ok list ∧
        ∀ name, range.admits name = list.admits name := by
  have hlist : IsList " Eth08-10 ,Po1,, Po1" := ⟨by decide, by decide⟩
  have hitems : items " Eth08-10 ,Po1,, Po1" = ["Eth08-10", "Po1", "Po1"] := by decide
  have hrange : InterfaceRange.Writes "Eth08-10" "Eth" "08" "10" :=
    ⟨by decide, by decide, by simp, by decide, by decide⟩
  have hname : ∀ stem lo hi, ¬ InterfaceRange.Writes "Po1" stem lo hi :=
    InterfaceRange.parts?_eq_none_iff.1 (by decide)
  obtain ⟨-, hselects, -, hspelled, -⟩ := list_selects_asked hlist
  obtain ⟨filter, hparse⟩ : ∃ filter, parse " Eth08-10 ,Po1,, Po1" = .ok filter := ⟨_, rfl⟩
  have hadmits := hselects filter hparse
  have hlo : Decimal.value "08".toList = 8 := by decide
  have hhi : Decimal.value "10".toList = 10 := by decide
  refine ⟨⟨filter, hparse, ?_, ?_, ?_⟩, ?_⟩
  · refine (hadmits _).2 ⟨"Eth08-10", by simp [hitems], ?_⟩
    exact .number (n := 9) hrange (by omega) (by omega)
  · exact (hadmits _).2 ⟨"Po1", by simp [hitems], .name hname⟩
  · rw [hadmits, hitems]
    simp only [List.exists_mem_cons_iff, asks_iff_of_writes hrange, asks_iff_of_not_writes hname,
      hlo, hhi]
    rintro (⟨n, hle, hge, heq⟩ | h | h | h)
    · obtain rfl | rfl | rfl : n = 8 ∨ n = 9 ∨ n = 10 := by omega
      all_goals exact absurd heq (by decide)
    · exact absurd h (by decide)
    · exact absurd h (by decide)
    · simp at h
  · obtain ⟨range, list, hrange', hlist', hsame⟩ :=
      hspelled filter hparse "Eth08-10" (by simp [hitems]) _ _ _ hrange (by decide)
    have hspelling : ",".intercalate (spelledOut "Eth" (Decimal.value "08".toList)
        (Decimal.value "10".toList)) = "Eth8,Eth9,Eth10" := by decide
    exact ⟨range, list, hrange', hspelling ▸ hlist', hsame⟩

end Filter

end InterfaceReport
