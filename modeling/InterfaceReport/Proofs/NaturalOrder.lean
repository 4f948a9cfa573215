import InterfaceReport.NaturalOrder
import Mathlib.Data.List.SplitBy
import Mathlib.Data.List.TakeWhile

/-! The natural order is a linear order of names: only equal names compare as equal. A sorted list
without repetitions is therefore strictly increasing. -/

namespace InterfaceReport

open Std

/-! ### Runs -/

namespace Run

/-- The characters of a run. -/
def chars : Run → List Char
  | .digits cs | .text cs => cs

@[simp] theorem chars_ofChars (cs : List Char) : (ofChars cs).chars = cs := by
  unfold ofChars
  split <;> rfl

/-- Digits are their leading zeros and the digits that matter. -/
theorem replicate_append_significant (cs : List Char) :
    List.replicate (cs.length - (significant cs).length) '0' ++ significant cs = cs := by
  have hzeros : cs.takeWhile (· == '0') =
      List.replicate (cs.takeWhile (· == '0')).length '0' :=
    List.eq_replicate_of_mem fun c hc => by simpa using List.mem_takeWhile_imp hc
  have hcs : cs.takeWhile (· == '0') ++ significant cs = cs := List.takeWhile_append_dropWhile
  have hlength : cs.length - (significant cs).length = (cs.takeWhile (· == '0')).length := by
    have := congrArg List.length hcs
    rw [List.length_append] at this
    omega
  rw [hlength, ← hzeros, hcs]

/-- The comparison of digits compares three of their parts, one after the other. -/
theorem compareDigits_eq : compareDigits =
    compareLex (compareOn fun cs => (significant cs).length)
      (compareLex (compareOn significant) (compareOn List.length)) := rfl

instance : TransCmp compareDigits := by
  rw [compareDigits_eq]
  infer_instance

instance : LawfulEqCmp compareDigits where
  eq_of_compare {a b} h := by
    simp only [compareDigits, Ordering.then_eq_eq, LawfulEqCmp.compare_eq_iff_eq] at h
    obtain ⟨-, hdigits, hlength⟩ := h
    rw [← replicate_append_significant a, ← replicate_append_significant b, hdigits, hlength]

instance : OrientedCmp Run.compare where
  eq_swap {a b} := by
    cases a <;> cases b <;> simp only [Run.compare]
    · exact OrientedCmp.eq_swap
    · rfl
    · rfl
    · exact OrientedCmp.eq_swap

instance : TransCmp Run.compare where
  isLE_trans {a b c} hab hbc := by
    cases a <;> cases b <;> cases c <;> simp only [Run.compare] at hab hbc ⊢
    · exact TransCmp.isLE_trans hab hbc
    · rfl
    · cases hbc
    · rfl
    · cases hab
    · cases hab
    · cases hbc
    · exact TransCmp.isLE_trans hab hbc

instance : LawfulEqCmp Run.compare where
  eq_of_compare {a b} h := by
    cases a <;> cases b <;> simp only [Run.compare] at h
    · rw [LawfulEqCmp.eq_of_compare h]
    · cases h
    · cases h
    · rw [LawfulEqCmp.eq_of_compare h]

end Run

/-! ### Names -/

/-- The runs of a name are the name. -/
theorem flatMap_chars_runs (s : String) : (runs s).flatMap Run.chars = s.toList := by
  simp only [runs, List.flatMap_map, Run.chars_ofChars, List.flatMap_id', List.flatten_splitBy]

theorem runs_injective : Function.Injective runs := fun a b h =>
  String.toList_inj.1 (by rw [← flatMap_chars_runs a, h, flatMap_chars_runs])

theorem naturalCompare_eq :
    naturalCompare = fun a b => List.compareLex Run.compare (runs a) (runs b) := rfl

instance : TransCmp naturalCompare where
  eq_swap {a b} := by
    rw [naturalCompare_eq]
    exact OrientedCmp.eq_swap
  isLE_trans {a b c} hab hbc := by
    rw [naturalCompare_eq] at *
    exact TransCmp.isLE_trans hab hbc

instance : LawfulEqCmp naturalCompare where
  eq_of_compare {a b} h := by
    rw [naturalCompare_eq] at h
    exact runs_injective (LawfulEqCmp.eq_of_compare h)

theorem naturalCompare_eq_lt {a b : String} (hle : naturalLe a b) (hne : a ≠ b) :
    naturalCompare a b = .lt := by
  cases h : naturalCompare a b with
  | lt => rfl
  | eq => exact absurd (LawfulEqCmp.eq_of_compare h) hne
  | gt => simp [naturalLe, h] at hle

theorem naturalLe_refl (a : String) : naturalLe a a := by
  have hself : naturalCompare a a = .eq := ReflCmp.compare_self
  rw [naturalLe, hself]
  rfl

theorem naturalLe_antisymm {a b : String} (hab : naturalLe a b) (hba : naturalLe b a) : a = b :=
  LawfulEqCmp.eq_of_compare (OrientedCmp.isLE_antisymm hab hba)

theorem naturalLe_trans {a b c : String} (hab : naturalLe a b) (hbc : naturalLe b c) :
    naturalLe a c := by
  unfold naturalLe at *
  exact TransCmp.isLE_trans hab hbc

theorem naturalLe_total (a b : String) : naturalLe a b || naturalLe b a := by
  have hswap : naturalCompare a b = (naturalCompare b a).swap := OrientedCmp.eq_swap
  rw [naturalLe, naturalLe, hswap]
  cases naturalCompare b a <;> rfl

/-! ### Sorted names -/

theorem pairwise_naturalSort (names : List String) :
    (naturalSort names).Pairwise fun a b => naturalLe a b := by
  refine List.pairwise_mergeSort (fun a b c hab hbc => ?_) (fun a b => ?_) names
  · exact naturalLe_trans hab hbc
  · exact naturalLe_total a b

/-- There is one way to put names in order. -/
theorem naturalSort_eq {names sorted : List String} (hperm : sorted.Perm names)
    (hsorted : sorted.Pairwise fun a b => naturalLe a b) : naturalSort names = sorted := by
  apply List.Perm.eq_of_pairwise (fun a b _ _ hab hba => naturalLe_antisymm hab hba)
    (pairwise_naturalSort names) hsorted
  exact (naturalSort_perm names).trans hperm.symm

theorem naturalSort_congr {names names' : List String} (h : names.Perm names') :
    naturalSort names = naturalSort names' :=
  naturalSort_eq ((naturalSort_perm names').trans h.symm) (pairwise_naturalSort names')

/-- The natural order is total on all names and tells any two of them apart, so sorting gives the
one arrangement of the names that is in order. -/
theorem naturalOrder_linear :
    (∀ a b, naturalCompare a b = .eq ↔ a = b) ∧
      (∀ a b, naturalCompare b a = (naturalCompare a b).swap) ∧
      (∀ a b, naturalLe a b ∨ naturalLe b a) ∧
      (∀ a b c, naturalLe a b → naturalLe b c → naturalLe a c) ∧
      (∀ names sorted : List String, sorted = naturalSort names ↔
        sorted.Perm names ∧ sorted.Pairwise fun a b => naturalLe a b) ∧
      ∀ names names' : List String, names.Perm names' → naturalSort names = naturalSort names' := by
  refine ⟨fun a b => LawfulEqCmp.compare_eq_iff_eq, fun a b => OrientedCmp.eq_swap,
    fun a b => Bool.or_eq_true_iff.1 (naturalLe_total a b), fun a b c => naturalLe_trans, ?_,
    fun names names' => naturalSort_congr⟩
  intro names sorted
  constructor
  · rintro rfl
    exact ⟨naturalSort_perm names, pairwise_naturalSort names⟩
  · rintro ⟨hperm, hsorted⟩
    exact (naturalSort_eq hperm hsorted).symm

/-- Zeros before a number tell names apart that write the same number, and lie between the numbers
that differ. -/
theorem naturalOrder_linear_zeros :
    naturalCompare "Ethernet2" "Ethernet02" ≠ .eq ∧ naturalLe "Ethernet2" "Ethernet10" ∧
      naturalSort ["Ethernet10", "Ethernet2", "", "Ethernet02"] =
        ["", "Ethernet2", "Ethernet02", "Ethernet10"] := by
  obtain ⟨heq, -, -, htrans, hsort, -⟩ := naturalOrder_linear
  refine ⟨fun h => absurd ((heq _ _).1 h) (by decide), ?_, ?_⟩
  · exact htrans "Ethernet2" "Ethernet02" "Ethernet10" (by decide +kernel) (by decide +kernel)
  · exact ((hsort _ _).2 ⟨by decide, by decide +kernel⟩).symm

/-- `names` are those for which `holds`, in strictly increasing natural order. -/
structure NaturalListing (holds : String → Prop) (names : List String) : Prop where
  mem_iff (name : String) : name ∈ names ↔ holds name
  increasing : names.Pairwise fun a b => naturalCompare a b = .lt

namespace NaturalListing

variable {holds : String → Prop} {names : List String}

/-- Names without repetitions are listed by sorting them. -/
theorem of_nodup (nodup : names.Nodup) : NaturalListing (· ∈ names) (naturalSort names) where
  mem_iff _ := mem_naturalSort
  increasing :=
    (pairwise_naturalSort names).imp₂ (fun _ _ => naturalCompare_eq_lt)
      ((naturalSort_perm names).nodup_iff.2 nodup)

theorem nodup (h : NaturalListing holds names) : names.Nodup :=
  h.increasing.imp fun hlt heq => by
    have hself : naturalCompare _ _ = .eq := LawfulEqCmp.compare_eq_iff_eq.2 heq
    rw [hlt] at hself
    cases hself

theorem filter (h : NaturalListing holds names) (p : String → Bool) :
    NaturalListing (fun name => holds name ∧ p name) (names.filter p) where
  mem_iff name := by rw [List.mem_filter, h.mem_iff]
  increasing := h.increasing.filter p

theorem congr {holds' : String → Prop} (h : NaturalListing holds names)
    (iff : ∀ name, holds name ↔ holds' name) : NaturalListing holds' names :=
  ⟨fun name => (h.mem_iff name).trans (iff name), h.increasing⟩

end NaturalListing

end InterfaceReport
