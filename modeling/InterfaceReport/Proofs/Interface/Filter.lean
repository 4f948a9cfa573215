import InterfaceReport.Proofs.Interface.Range
import InterfaceReport.Proofs.Steps

/-! What a list of names and ranges selects: when it is read, and which names its items ask for. -/

namespace InterfaceReport

open Text Steps

namespace Filter

variable {selection item : String}

/-! ### Items -/

theorem items_trim (selection : String) : items (trim selection) = items selection := by
  rw [items, items, map_trim_pieces_trim (by decide)]

theorem items_append (first second : String) :
    items (first ++ "," ++ second) = items first ++ items second := by
  rw [items, pieces_append rfl, List.map_append, List.filter_append, items, items]

/-- A text that can be an item of a list: it is not empty, no blank stands around it, and it holds
no comma. -/
structure IsItem (item : String) : Prop where
  trimmed : Trimmed item.toList
  ne_empty : item ≠ ""
  no_comma : ',' ∉ item.toList

theorem isItem_of_mem (h : item ∈ items selection) : IsItem item := by
  obtain ⟨hmem, hne⟩ := List.mem_filter.1 h
  obtain ⟨piece, hpiece, rfl⟩ := List.mem_map.1 hmem
  refine ⟨?_, by simpa using hne, ?_⟩
  · rw [toList_trim]
    exact trimmed_trimChars piece.toList
  · rw [toList_trim, mem_trimChars (by decide)]
    exact not_mem_of_mem_pieces hpiece

theorem items_of_isItem (h : IsItem item) : items item = [item] := by
  have htrim : trim item = item := by
    rw [trim, h.trimmed.trimChars_eq, String.ofList_toList]
  rw [items, pieces_of_not_mem h.no_comma, List.map_singleton, htrim]
  simp [h.ne_empty]

theorem items_intercalate {list : List String} (h : ∀ item ∈ list, IsItem item) :
    items (",".intercalate list) = list := by
  induction list with
  | nil => decide
  | cons item list ih =>
    obtain ⟨hitem, hlist⟩ := List.forall_mem_cons.1 h
    cases list with
    | nil => exact items_of_isItem hitem
    | cons next list =>
      rw [String.intercalate_cons_cons, items_append, items_of_isItem hitem, ih hlist]
      rfl

/-! ### Lists -/

/-- The selection is a list of items: neither the word for every sub-interface nor the name of one
sub-interface. -/
structure IsList (selection : String) : Prop where
  ne_word : trim selection ≠ "subport"
  comma_of_isSub : Name.isSub (trim selection) → has ',' (trim selection)

/-- A selection that is no list is its own single item. -/
theorem isList_of_items (h : ∀ item ∈ items selection, item ≠ "subport" ∧ ¬ Name.isSub item) :
    IsList selection := by
  have hself : IsItem (trim selection) →
      trim selection ≠ "subport" ∧ ¬ Name.isSub (trim selection) := by
    intro hitem
    apply h
    rw [← items_trim, items_of_isItem hitem]
    exact List.mem_singleton_self _
  have htrimmed : Trimmed (trim selection).toList := by
    rw [toList_trim]
    exact trimmed_trimChars selection.toList
  constructor
  · intro hword
    exact (hself ⟨htrimmed, by rw [hword]; decide, by rw [hword]; decide⟩).1 hword
  · intro hsub
    by_contra hcomma
    refine (hself ⟨htrimmed, ?_, fun hmem => hcomma (has_iff.2 hmem)⟩).2 hsub
    intro hempty
    rw [hempty] at hsub
    exact absurd hsub (by decide)

theorem isList_append (first second : String) : IsList (first ++ "," ++ second) := by
  have hcomma : ',' ∈ (trim (first ++ "," ++ second)).toList := by
    rw [toList_trim, mem_trimChars (by decide)]
    simp
  refine ⟨fun hword => ?_, fun _ => has_iff.2 hcomma⟩
  rw [hword] at hcomma
  exact absurd hcomma (by decide)

theorem parse_of_isList (h : IsList selection) :
    parse selection = do
      let wanted ← (items selection).mapM parseItem
      if wanted.isEmpty then throw (.config "Empty interface filter")
      return .names (Std.TreeSet.ofList (wanted.filterMap Sum.getLeft?))
        (wanted.filterMap Sum.getRight?) := by
  have hword : (trim selection == "subport") = false := beq_eq_false_iff_ne.2 h.ne_word
  have hsub : (Name.isSub (trim selection) && !has ',' (trim selection)) = false := by
    rw [Bool.and_eq_false_imp]
    intro hsub
    rw [h.comma_of_isSub hsub]
    rfl
  rw [parse]
  simp only [hword, hsub, Bool.false_eq_true, if_false, items_trim]

/-! ### What items ask for -/

/-- The names that an item asks for: those of a range, or else one name, in their long form. -/
inductive Asks (item : String) : String → Prop
  | name : (∀ stem lo hi, ¬ InterfaceRange.Writes item stem lo hi) → Asks item (Name.long item)
  | number {stem lo hi : String} {n : Nat} : InterfaceRange.Writes item stem lo hi →
      Decimal.value lo.toList ≤ n → n ≤ Decimal.value hi.toList →
      Asks item (Name.long stem ++ toString n)

/-- An item that spoils a list: it is of a sub-interface, or writes a range that is empty or goes
beyond 32 bits. -/
def Refused (item : String) : Prop :=
  Name.isSub item ∨ ∃ stem lo hi, InterfaceRange.Writes item stem lo hi ∧
    (Decimal.value hi.toList < Decimal.value lo.toList ∨
      2 ^ 32 - 1 < Decimal.value lo.toList ∨ 2 ^ 32 - 1 < Decimal.value hi.toList)

/-- What an item is read as asks for the name. -/
def Wants : String ⊕ InterfaceRange → String → Prop
  | .inl listed, name => name = listed
  | .inr range, name => range.contains name

theorem asks_iff_of_writes {stem lo hi : String} (h : InterfaceRange.Writes item stem lo hi)
    (name : String) : Asks item name ↔ ∃ n, Decimal.value lo.toList ≤ n ∧
      n ≤ Decimal.value hi.toList ∧ name = Name.long stem ++ toString n := by
  constructor
  · rintro (hnot | ⟨h', hlo, hhi⟩)
    · exact absurd h (hnot _ _ _)
    · obtain ⟨rfl, rfl, rfl⟩ := h.unique h'
      exact ⟨_, hlo, hhi, rfl⟩
  · rintro ⟨n, hlo, hhi, rfl⟩
    exact .number h hlo hhi

theorem asks_iff_of_not_writes (h : ∀ stem lo hi, ¬ InterfaceRange.Writes item stem lo hi)
    (name : String) : Asks item name ↔ name = Name.long item := by
  constructor
  · rintro (_ | ⟨h', -, -⟩)
    · rfl
    · exact absurd h' (h _ _ _)
  · rintro rfl
    exact .name h

theorem parseItem_of_refused (h : Refused item) : ∃ e, parseItem item = .error e := by
  rw [parseItem]
  split
  · exact ⟨_, rfl⟩
  · next hsub =>
    obtain ⟨stem, lo, hi, hwrites, hbad⟩ := h.resolve_left hsub
    have hunfit : ¬ (Decimal.value lo.toList ≤ Decimal.value hi.toList ∧
        Decimal.value hi.toList < InterfaceRange.bound) := by
      show ¬ (_ ∧ _ < 2 ^ 32)
      omega
    rw [InterfaceRange.ofItem_of_writes hwrites, if_neg hunfit]
    exact ⟨_, rfl⟩

theorem parseItem_of_not_refused (h : ¬ Refused item) :
    ∃ wanted, parseItem item = .ok wanted ∧ ∀ name, Wants wanted name ↔ Asks item name := by
  obtain ⟨hsub, hranges⟩ := not_or.1 h
  rw [parseItem, if_neg hsub]
  by_cases hwrites : ∃ stem lo hi, InterfaceRange.Writes item stem lo hi
  · obtain ⟨stem, lo, hi, hwrites⟩ := hwrites
    have hfit : Decimal.value lo.toList ≤ Decimal.value hi.toList ∧
        Decimal.value hi.toList < InterfaceRange.bound := by
      have hgood : ¬ (Decimal.value hi.toList < Decimal.value lo.toList ∨
          2 ^ 32 - 1 < Decimal.value lo.toList ∨ 2 ^ 32 - 1 < Decimal.value hi.toList) :=
        fun hbad => hranges ⟨stem, lo, hi, hwrites, hbad⟩
      show _ ∧ _ < 2 ^ 32
      omega
    rw [InterfaceRange.ofItem_of_writes hwrites, if_pos hfit]
    refine ⟨_, rfl, fun name => ?_⟩
    rw [Wants, InterfaceRange.contains_iff, asks_iff_of_writes hwrites]
    refine exists_congr fun n => and_congr_right fun _ => and_congr_right fun hhi => ?_
    exact and_iff_right (Nat.lt_of_le_of_lt hhi hfit.2)
  · have hnone : ∀ stem lo hi, ¬ InterfaceRange.Writes item stem lo hi :=
      fun stem lo hi h => hwrites ⟨stem, lo, hi, h⟩
    rw [InterfaceRange.ofItem_of_not_writes hnone]
    exact ⟨_, rfl, fun name => (asks_iff_of_not_writes hnone name).symm⟩

/-! ### What a list selects -/

theorem admits_names {wanted : List (String ⊕ InterfaceRange)} {name : String} :
    (Filter.names (Std.TreeSet.ofList (wanted.filterMap Sum.getLeft?))
      (wanted.filterMap Sum.getRight?)).admits name ↔ ∃ w ∈ wanted, Wants w name := by
  simp only [admits, Bool.or_eq_true, Std.TreeSet.contains_ofList, List.contains_iff_mem,
    List.any_eq_true, List.mem_filterMap, Sum.getLeft?_eq_some_iff, Sum.getRight?_eq_some_iff]
  constructor
  · rintro (⟨_, hmem, rfl⟩ | ⟨range, ⟨_, hmem, rfl⟩, hcontains⟩)
    · exact ⟨_, hmem, rfl⟩
    · exact ⟨_, hmem, hcontains⟩
  · rintro ⟨listed | range, hmem, hwants⟩
    · exact .inl ⟨_, hmem, congrArg Sum.inl hwants.symm⟩
    · exact .inr ⟨range, ⟨_, hmem, rfl⟩, hwants⟩

theorem exists_wants_iff {items : List String} {wanted : List (String ⊕ InterfaceRange)}
    (hall : List.Forall₂ (fun item w => parseItem item = .ok w) items wanted)
    (hgood : ∀ item ∈ items, ¬ Refused item) (name : String) :
    (∃ w ∈ wanted, Wants w name) ↔ ∃ item ∈ items, Asks item name := by
  induction hall with
  | nil => simp
  | cons hitem _ ih =>
    obtain ⟨hfirst, hrest⟩ := List.forall_mem_cons.1 hgood
    obtain ⟨w, hw, hwants⟩ := parseItem_of_not_refused hfirst
    rw [hw] at hitem
    cases hitem
    simp only [List.exists_mem_cons_iff, hwants, ih hrest]

/-- A list is read exactly when it has items and none of them spoils it, and then admits the names
that its items ask for. -/
theorem parse_spec (h : IsList selection) :
    ((items selection = [] ∨ ∃ item ∈ items selection, Refused item) ∧
        ∃ e, parse selection = .error e) ∨
      ((items selection ≠ [] ∧ ∀ item ∈ items selection, ¬ Refused item) ∧
        ∃ filter, parse selection = .ok filter ∧
          ∀ name, filter.admits name ↔ ∃ item ∈ items selection, Asks item name) := by
  rw [parse_of_isList h]
  generalize items selection = items
  by_cases hrefused : ∃ item ∈ items, Refused item
  · left
    obtain ⟨item, hitem, hrefused⟩ := hrefused
    refine ⟨.inr ⟨item, hitem, hrefused⟩, ?_⟩
    obtain ⟨e, he⟩ := parseItem_of_refused hrefused
    cases hitems : items.mapM parseItem with
    | error e => exact ⟨e, rfl⟩
    | ok wanted =>
      obtain ⟨w, hw⟩ := ok_of_mapM_eq_ok hitems hitem
      rw [he] at hw
      cases hw
  · have hgood : ∀ item ∈ items, ¬ Refused item := fun item hitem h => hrefused ⟨item, hitem, h⟩
    obtain ⟨wanted, hwanted⟩ := exists_mapM_eq_ok fun item hitem =>
      (parseItem_of_not_refused (hgood item hitem)).imp fun _ h => h.1
    have hall := mapM_eq_ok_iff.1 hwanted
    have hadmits := fun name => admits_names.trans (exists_wants_iff hall hgood name)
    rw [hwanted, ok_bind]
    cases hall with
    | nil => exact .inl ⟨.inl rfl, _, rfl⟩
    | cons => exact .inr ⟨⟨List.cons_ne_nil _ _, hgood⟩, _, rfl, hadmits⟩

theorem parse_eq_error_iff (h : IsList selection) : (∃ e, parse selection = .error e) ↔
    items selection = [] ∨ ∃ item ∈ items selection, Refused item := by
  rcases parse_spec h with ⟨hbad, herror⟩ | ⟨⟨hne, hgood⟩, filter, hparse, -⟩
  · exact iff_of_true herror hbad
  · refine iff_of_false ?_ ?_
    · rintro ⟨e, he⟩
      rw [hparse] at he
      cases he
    · rintro (hempty | ⟨item, hitem, hrefused⟩)
      · exact hne hempty
      · exact hgood item hitem hrefused

theorem exists_parse (h : IsList selection) (hne : items selection ≠ [])
    (hgood : ∀ item ∈ items selection, ¬ Refused item) :
    ∃ filter, parse selection = .ok filter ∧
      ∀ name, filter.admits name ↔ ∃ item ∈ items selection, Asks item name := by
  rcases parse_spec h with ⟨hempty | ⟨item, hitem, hrefused⟩, -⟩ | ⟨-, hparse⟩
  · exact absurd hempty hne
  · exact absurd hrefused (hgood item hitem)
  · exact hparse

theorem of_parse_eq_ok (h : IsList selection) {filter : Filter}
    (hparse : parse selection = .ok filter) :
    (items selection ≠ [] ∧ ∀ item ∈ items selection, ¬ Refused item) ∧
      ∀ name, filter.admits name ↔ ∃ item ∈ items selection, Asks item name := by
  rcases parse_spec h with ⟨-, e, he⟩ | ⟨hgood, filter', hparse', hadmits⟩
  · rw [hparse] at he
    cases he
  · rw [hparse] at hparse'
    cases hparse'
    exact ⟨hgood, hadmits⟩

end Filter

end InterfaceReport
