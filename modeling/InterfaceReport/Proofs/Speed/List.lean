import InterfaceReport.Proofs.NaturalOrder.Number
import InterfaceReport.Proofs.Steps
import InterfaceReport.Proofs.Text.Pieces
import InterfaceReport.Speed

/-! Lists of speeds. Their items are put in natural order before they are read, so the order in
which they are stored shows neither in the text nor in the failure. Among numerals the natural order
is that of the numbers. -/

namespace InterfaceReport

/-- `first` holds, and it comes before all else that holds in natural order. -/
def Least (holds : String → Prop) (first : String) : Prop :=
  holds first ∧ ∀ name, holds name → naturalLe first name

theorem Least.unique {holds : String → Prop} {a b : String} (ha : Least holds a)
    (hb : Least holds b) : a = b :=
  naturalLe_antisymm (ha.2 b hb.1) (hb.2 a ha.1)

namespace Speed

open Steps Text

variable {raw item optics text : String} {speed : Nat}

/-! ### Items -/

/-- The items of a stored list, in the order in which they are stored. -/
def items (raw : String) : List String := (pieces ',' raw).map trim

/-- The item is no speed. -/
def Refused (item : String) : Prop := ∀ speed, parse item ≠ .ok speed

theorem parse_eq_ok_iff : parse item = .ok speed ↔ ofText? item = some speed := by
  unfold parse
  split <;> simp_all

theorem parse_eq_error_iff {e : Error} :
    parse item = .error e ↔ Refused item ∧ e = .malformedSpeed item := by
  simp only [Refused, ne_eq, parse_eq_ok_iff]
  unfold parse
  cases ofText? item <;> simp [eq_comm]

/-! ### Digits -/

theorem trim_of_digits (h : ∀ c ∈ item.toList, c.isDigit) : trim item = item := by
  have hblank : ∀ c ∈ item.toList, isBlank c = false := fun c hc => isBlank_of_isDigit (h c hc)
  have htrimmed : Trimmed item.toList :=
    ⟨fun c hc => hblank c (List.mem_of_mem_head? hc),
      fun c hc => hblank c (List.mem_of_mem_getLast? hc)⟩
  rw [trim, htrimmed.trimChars_eq, String.ofList_toList]

/-- Digits are read as the number they write. -/
theorem value_of_parse (h : ∀ c ∈ item.toList, c.isDigit) (hparse : parse item = .ok speed) :
    Decimal.isNumeral item.toList ∧ Decimal.value item.toList = speed := by
  rw [parse_eq_ok_iff, ofText?, trim_of_digits h] at hparse
  unfold Decimal.ofText? at hparse
  split at hparse
  · next cs hcs =>
    rw [hcs] at h
    exact absurd (h '+' List.mem_cons_self) (by decide)
  · obtain ⟨hnumeral, hvalue, -⟩ := Decimal.ofDigits?_eq_some_iff.1 hparse
    exact ⟨hnumeral, hvalue⟩

theorem value_le_of_naturalLe {d e : String} (hd : Decimal.isNumeral d.toList)
    (he : Decimal.isNumeral e.toList) (h : naturalLe d e) :
    Decimal.value d.toList ≤ Decimal.value e.toList := by
  have hcompare := naturalCompare_number_append (s := "") (u := "") hd he (by simp) (by simp)
  rw [String.append_empty, String.append_empty] at hcompare
  rw [naturalLe, hcompare, Ordering.isLE_then_iff_and, Ordering.isLE_then_iff_and] at h
  exact Nat.isLE_compare.1 h.1.1

/-- The speeds of items that are digits increase where the items do. -/
theorem pairwise_speeds {arranged : List String} {speeds : List Nat}
    (h : List.Forall₂ (fun item speed => parse item = .ok speed) arranged speeds)
    (hdigits : ∀ item ∈ arranged, ∀ c ∈ item.toList, c.isDigit)
    (hsorted : arranged.Pairwise fun a b => naturalLe a b) : speeds.Pairwise (· ≤ ·) := by
  have hspeeds : speeds = arranged.map fun item => Decimal.value item.toList := by
    clear hsorted
    induction h with
    | nil => rfl
    | cons hitem _ ih =>
      obtain ⟨hdigits, hrest⟩ := List.forall_mem_cons.1 hdigits
      rw [List.map_cons, ← ih hrest, (value_of_parse hdigits hitem).2]
  have hnumeral : ∀ item ∈ arranged, Decimal.isNumeral item.toList := by
    intro item hitem
    obtain ⟨speed, hspeed⟩ := ok_of_mapM_eq_ok (mapM_eq_ok_iff.2 h) hitem
    exact (value_of_parse (hdigits item hitem) hspeed).1
  rw [hspeeds, List.pairwise_map]
  exact hsorted.imp_of_mem fun ha hb => value_le_of_naturalLe (hnumeral _ ha) (hnumeral _ hb)

/-! ### Lists -/

/-- The first item refused on the way along a sorted list comes before the others. -/
theorem least_of_mapM_parse_eq_error {arranged : List String} {e : Error}
    (hsorted : arranged.Pairwise fun a b => naturalLe a b) (h : arranged.mapM parse = .error e) :
    ∃ item, Least (fun item => item ∈ arranged ∧ Refused item) item ∧
      e = .malformedSpeed item := by
  obtain ⟨before, item, after, rfl, hbefore, hitem⟩ := mapM_eq_error_iff.1 h
  obtain ⟨hrefused, rfl⟩ := parse_eq_error_iff.1 hitem
  refine ⟨item, ⟨⟨by simp, hrefused⟩, ?_⟩, rfl⟩
  rintro other ⟨hother, hrefusedOther⟩
  rcases List.mem_append.1 hother with hother | hother
  · obtain ⟨speed, hspeed⟩ := hbefore other hother
    exact absurd hspeed (hrefusedOther speed)
  · rcases List.mem_cons.1 hother with rfl | hother
    · exact naturalLe_refl other
    · exact List.rel_of_pairwise_cons (List.pairwise_append.1 hsorted).2.1 hother

section

variable (hraw : raw ≠ notAvailable) (hall : raw ≠ "all")
include hraw hall

theorem formatList_eq (optics : String) :
    formatList raw optics = ((naturalSort (items raw)).mapM parse).map
      fun speeds => ",".intercalate (speeds.map (format · optics)) := by
  have hsteps : (listItems raw).mapM (formatText · optics) =
      ((naturalSort (items raw)).mapM parse).map (List.map (format · optics)) :=
    mapM_map parse (format · optics) _
  rw [formatList, if_neg (by simp [hraw, hall]), hsteps]
  cases (naturalSort (items raw)).mapM parse <;> rfl

theorem formatList_eq_ok_iff : formatList raw optics = .ok text ↔ ∃ speeds,
    List.Forall₂ (fun item speed => parse item = .ok speed) (naturalSort (items raw)) speeds ∧
      text = ",".intercalate (speeds.map (format · optics)) := by
  rw [formatList_eq hraw hall]
  simp only [← mapM_eq_ok_iff]
  cases (naturalSort (items raw)).mapM parse <;> simp [Except.map, eq_comm]

/-- The failure is that of the first item refused, and the items are read in order. -/
theorem formatList_eq_error_iff {e : Error} : formatList raw optics = .error e ↔
    ∃ item, Least (fun item => item ∈ items raw ∧ Refused item) item ∧
      e = .malformedSpeed item := by
  have hmem (item : String) : item ∈ items raw ↔ item ∈ naturalSort (items raw) :=
    mem_naturalSort.symm
  simp only [hmem]
  rw [formatList_eq hraw hall]
  cases h : (naturalSort (items raw)).mapM parse with
  | error e' =>
    obtain ⟨first, hleast, rfl⟩ := least_of_mapM_parse_eq_error (pairwise_naturalSort _) h
    simp only [Except.map, Except.error.injEq]
    constructor
    · rintro rfl
      exact ⟨first, hleast, rfl⟩
    · rintro ⟨item, hitem, rfl⟩
      rw [hleast.unique hitem]
  | ok speeds =>
    simp only [Except.map, reduceCtorEq, false_iff]
    rintro ⟨item, ⟨⟨hitem, hrefused⟩, -⟩, -⟩
    obtain ⟨speed, hspeed⟩ := ok_of_mapM_eq_ok h hitem
    exact hrefused speed hspeed

end

/-- A list of speeds is shown unless one of its items is no speed; then the least of these is to
blame. Only the items matter, and not the order in which they are stored. All of them are shown, and
numerals by increasing value. -/
theorem formatList_sorted_by_value (raw optics : String) (hraw : raw ≠ notAvailable)
    (hall : raw ≠ "all") :
    ((∃ text, formatList raw optics = .ok text) ↔
      ∀ item ∈ items raw, ∃ speed, parse item = .ok speed) ∧
    (∀ e, formatList raw optics = .error e ↔
      ∃ item, Least (fun item => item ∈ items raw ∧ Refused item) item ∧
        e = .malformedSpeed item) ∧
    (∀ raw', raw' ≠ notAvailable → raw' ≠ "all" → (items raw').Perm (items raw) →
      formatList raw' optics = formatList raw optics) ∧
    ∀ text, formatList raw optics = .ok text → ∃ arranged speeds, arranged.Perm (items raw) ∧
      (arranged.Pairwise fun a b => naturalLe a b) ∧
      List.Forall₂ (fun item speed => parse item = .ok speed) arranged speeds ∧
      text = ",".intercalate (speeds.map (format · optics)) ∧
      ((∀ item ∈ items raw, ∀ c ∈ item.toList, c.isDigit) → speeds.Pairwise (· ≤ ·)) := by
  have hperm := naturalSort_perm (items raw)
  refine ⟨?_, fun e => formatList_eq_error_iff hraw hall, ?_, ?_⟩
  · simp only [formatList_eq_ok_iff hraw hall, ← mapM_eq_ok_iff]
    constructor
    · rintro ⟨_, speeds, hspeeds, -⟩ item hitem
      exact ok_of_mapM_eq_ok hspeeds (hperm.mem_iff.2 hitem)
    · intro h
      obtain ⟨speeds, hspeeds⟩ := exists_mapM_eq_ok fun item hitem => h item (hperm.mem_iff.1 hitem)
      exact ⟨_, speeds, hspeeds, rfl⟩
  · intro raw' hraw' hall' h
    rw [formatList_eq hraw hall, formatList_eq hraw' hall', naturalSort_congr h]
  · intro text h
    obtain ⟨speeds, hspeeds, htext⟩ := (formatList_eq_ok_iff hraw hall).1 h
    have hsorted := pairwise_naturalSort (items raw)
    refine ⟨_, speeds, hperm, hsorted, hspeeds, htext, fun hdigits => ?_⟩
    exact pairwise_speeds hspeeds (fun item hitem => hdigits item (hperm.mem_iff.1 hitem)) hsorted

/-- An item that is empty comes before one that is a word, so the comma at the end is to blame. -/
theorem formatList_sorted_by_value_comma :
    "fast, 0100,25000," ≠ notAvailable ∧ "fast, 0100,25000," ≠ "all" ∧
      formatList "fast, 0100,25000," "RJ45" = .error (.malformedSpeed "") ∧
      formatList ",25000,0100 ,fast" "RJ45" = .error (.malformedSpeed "") := by
  obtain ⟨-, herror, hperm, -⟩ :=
    formatList_sorted_by_value "fast, 0100,25000," "RJ45" (by decide) (by decide)
  have hleast : Least (fun item => item ∈ items "fast, 0100,25000," ∧ Refused item) "" := by
    refine ⟨⟨by decide, fun speed h => ?_⟩, fun name _ => ?_⟩
    · cases h
    · rw [naturalLe, naturalCompare]
      cases runs name <;> rfl
  have hblame := (herror _).2 ⟨"", hleast, rfl⟩
  refine ⟨by decide, by decide, hblame, ?_⟩
  rw [hperm ",25000,0100 ,fast" (by decide) (by decide) (by decide), hblame]

end Speed
end InterfaceReport
