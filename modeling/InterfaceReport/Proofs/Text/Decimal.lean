import InterfaceReport.Text.Decimal
import Mathlib.Algebra.Group.Nat.Defs
import Mathlib.Data.List.Basic

/-! Numerals compare like the numbers they write, as long as no zero leads: a longer one writes a
greater number, and numerals of one length compare digit by digit. So a number has one numeral
without a leading zero. -/

namespace InterfaceReport.Text.Decimal

open Std

theorem isNumeral_iff {cs : List Char} : isNumeral cs ↔ cs ≠ [] ∧ ∀ c ∈ cs, c.isDigit := by
  simp [isNumeral]

theorem not_mem_of_isNumeral {c : Char} {cs : List Char} (hc : c.isDigit = false)
    (h : isNumeral cs) : c ∉ cs := by
  intro hmem
  rw [(isNumeral_iff.1 h).2 c hmem] at hc
  cases hc

theorem compare_char (c d : Char) : compare c d = compare c.toNat d.toNat := by
  have hlt : c < d ↔ c.toNat < d.toNat := Iff.rfl
  show compareOfLessAndEq c d = compareOfLessAndEq c.toNat d.toNat
  simp only [compareOfLessAndEq, hlt, Char.toNat_inj]

/-! ### Values -/

theorem value_cons (c : Char) (cs : List Char) :
    value (c :: cs) = (c.toNat - '0'.toNat) * 10 ^ cs.length + value cs := by
  rw [value, Nat.ofDigitChars_cons, Nat.ofDigitChars_eq_ofDigitChars_zero, Nat.mul_zero,
    Nat.zero_add, Nat.mul_comm]
  rfl

theorem ofDigits?_eq_some_iff {bound n : Nat} {cs : List Char} :
    ofDigits? bound cs = some n ↔ isNumeral cs ∧ value cs = n ∧ n < bound := by
  simp only [ofDigits?, Bool.and_eq_true, decide_eq_true_eq]
  split
  · next h =>
    rw [Option.some.injEq]
    constructor
    · rintro rfl
      exact ⟨h.1, rfl, h.2⟩
    · exact fun h => h.2.1
  · next h =>
    constructor
    · intro hnone
      cases hnone
    · rintro ⟨hnumeral, rfl, hlt⟩
      exact absurd ⟨hnumeral, hlt⟩ h

@[simp] theorem value_toDigits (n : Nat) : value (Nat.toDigits 10 n) = n :=
  Nat.ofDigitChars_ten_toDigits

theorem isNumeral_toDigits (n : Nat) : isNumeral (Nat.toDigits 10 n) := by
  refine isNumeral_iff.2 ⟨Nat.toDigits_ne_nil, fun c hc => ?_⟩
  exact Nat.isDigit_of_mem_toDigits (by decide) (by decide) hc

theorem digit_bounds {c : Char} (h : c.isDigit) : '0'.toNat ≤ c.toNat ∧ c.toNat ≤ '0'.toNat + 9 :=
  Char.isDigit_iff_toNat.1 h

theorem value_lt_pow {cs : List Char} (h : ∀ c ∈ cs, c.isDigit) : value cs < 10 ^ cs.length := by
  induction cs with
  | nil => decide
  | cons c cs ih =>
    obtain ⟨hc, hcs⟩ := List.forall_mem_cons.1 h
    have hdigit : c.toNat - '0'.toNat + 1 ≤ 10 := by
      have := digit_bounds hc
      omega
    calc value (c :: cs) = (c.toNat - '0'.toNat) * 10 ^ cs.length + value cs := value_cons c cs
      _ < (c.toNat - '0'.toNat) * 10 ^ cs.length + 10 ^ cs.length :=
        Nat.add_lt_add_left (ih hcs) _
      _ = (c.toNat - '0'.toNat + 1) * 10 ^ cs.length := (Nat.succ_mul _ _).symm
      _ ≤ 10 * 10 ^ cs.length := Nat.mul_le_mul_right _ hdigit
      _ = 10 ^ (c :: cs).length := Nat.pow_succ'.symm

theorem pow_le_value {c : Char} {cs : List Char} (hc : c.isDigit) (hzero : c ≠ '0') :
    10 ^ cs.length ≤ value (c :: cs) := by
  have hpos : 1 ≤ c.toNat - '0'.toNat := by
    have hne : c.toNat ≠ '0'.toNat := fun h => hzero (Char.toNat_inj.1 h)
    have := digit_bounds hc
    omega
  calc 10 ^ cs.length ≤ (c.toNat - '0'.toNat) * 10 ^ cs.length := Nat.le_mul_of_pos_left _ hpos
    _ ≤ (c.toNat - '0'.toNat) * 10 ^ cs.length + value cs := Nat.le_add_right _ _
    _ = value (c :: cs) := (value_cons c cs).symm

theorem value_dropWhile_zero (cs : List Char) : value (cs.dropWhile (· == '0')) = value cs := by
  induction cs with
  | nil => rfl
  | cons c cs ih =>
    by_cases hc : c = '0'
    · subst hc
      rw [List.dropWhile_cons_of_pos (by decide), ih, value_cons]
      simp
    · rw [List.dropWhile_cons_of_neg (by simpa using hc)]

/-! ### Comparison -/

/-- Numbers compare by their leading parts, and by what is left where these are equal. -/
theorem compare_mul_add {b x y v w : Nat} (hv : v < b) (hw : w < b) :
    compare (x * b + v) (y * b + w) = (compare x y).then (compare v w) := by
  have hless : ∀ {x y v w : Nat}, v < b → x < y → x * b + v < y * b + w := by
    intro x y v w hv hxy
    calc x * b + v < x * b + b := Nat.add_lt_add_left hv _
      _ = (x + 1) * b := (Nat.succ_mul _ _).symm
      _ ≤ y * b := Nat.mul_le_mul_right _ hxy
      _ ≤ y * b + w := Nat.le_add_right _ _
  rcases Nat.lt_trichotomy x y with hxy | rfl | hxy
  · rw [Nat.compare_eq_lt.2 hxy, Nat.compare_eq_lt.2 (hless hv hxy)]
    rfl
  · rw [Nat.compare_eq_eq.2 rfl, Ordering.eq_then]
    simp only [Nat.compare_eq_ite_lt, Nat.add_lt_add_iff_left]
  · rw [Nat.compare_eq_gt.2 hxy, Nat.compare_eq_gt.2 (hless hw hxy)]
    rfl

/-- Digits of one length compare like the numbers they write: what follows the first digits is below
the power of ten that these count. -/
theorem compare_eq_compare_value {as bs : List Char} (has : ∀ c ∈ as, c.isDigit)
    (hbs : ∀ c ∈ bs, c.isDigit) (hlength : as.length = bs.length) :
    compare as bs = compare (value as) (value bs) := by
  induction as generalizing bs with
  | nil =>
    rw [List.length_eq_zero_iff.1 hlength.symm]
    rfl
  | cons c as ih =>
    cases bs with
    | nil => cases hlength
    | cons d bs =>
      obtain ⟨hc, has⟩ := List.forall_mem_cons.1 has
      obtain ⟨hd, hbs⟩ := List.forall_mem_cons.1 hbs
      have hlength : as.length = bs.length := Nat.succ.inj hlength
      have hfirst : compare c d = compare (c.toNat - '0'.toNat) (d.toNat - '0'.toNat) := by
        have := digit_bounds hc
        have := digit_bounds hd
        rw [compare_char]
        simp only [Nat.compare_eq_ite_lt]
        grind
      calc compare (c :: as) (d :: bs) = (compare c d).then (compare as bs) :=
            List.compareLex_cons_cons
        _ = (compare (c.toNat - '0'.toNat) (d.toNat - '0'.toNat)).then
              (compare (value as) (value bs)) := by rw [hfirst, ih has hbs hlength]
        _ = compare (value (c :: as)) (value (d :: bs)) := by
            rw [value_cons, value_cons, hlength]
            exact (compare_mul_add (hlength ▸ value_lt_pow has) (value_lt_pow hbs)).symm

theorem value_lt_of_length_lt {as bs : List Char} (has : ∀ c ∈ as, c.isDigit)
    (hbs : ∀ c ∈ bs, c.isDigit) (hzero : ∀ c ∈ bs.head?, c ≠ '0') (h : as.length < bs.length) :
    value as < value bs := by
  cases bs with
  | nil => cases h
  | cons d bs =>
    calc value as < 10 ^ as.length := value_lt_pow has
      _ ≤ 10 ^ bs.length := Nat.pow_le_pow_right (by decide) (Nat.le_of_lt_succ h)
      _ ≤ value (d :: bs) := pow_le_value (hbs d List.mem_cons_self) (hzero d rfl)

theorem compare_value {as bs : List Char} (has : ∀ c ∈ as, c.isDigit) (hbs : ∀ c ∈ bs, c.isDigit)
    (hzeroa : ∀ c ∈ as.head?, c ≠ '0') (hzerob : ∀ c ∈ bs.head?, c ≠ '0') :
    compare (value as) (value bs) = (compare as.length bs.length).then (compare as bs) := by
  rcases Nat.lt_trichotomy as.length bs.length with h | h | h
  · rw [Nat.compare_eq_lt.2 h, Nat.compare_eq_lt.2 (value_lt_of_length_lt has hbs hzerob h)]
    rfl
  · rw [Nat.compare_eq_eq.2 h, Ordering.eq_then, compare_eq_compare_value has hbs h]
  · rw [Nat.compare_eq_gt.2 h, Nat.compare_eq_gt.2 (value_lt_of_length_lt hbs has hzeroa h)]
    rfl

/-! ### The numeral of a number -/

/-- Without leading zeros a number is written in one way. -/
theorem eq_of_value_eq {as bs : List Char} (has : ∀ c ∈ as, c.isDigit) (hbs : ∀ c ∈ bs, c.isDigit)
    (hzeroa : ∀ c ∈ as.head?, c ≠ '0') (hzerob : ∀ c ∈ bs.head?, c ≠ '0')
    (h : value as = value bs) : as = bs := by
  have hcompare := compare_value has hbs hzeroa hzerob
  rw [Nat.compare_eq_eq.2 h, eq_comm, Ordering.then_eq_eq] at hcompare
  exact LawfulEqCmp.eq_of_compare hcompare.2

theorem head?_toDigits {n : Nat} (hn : 0 < n) : ∀ c ∈ (Nat.toDigits 10 n).head?, c ≠ '0' := by
  induction n using Nat.strongRecOn with
  | ind n ih =>
    by_cases hlt : n < 10
    · rw [Nat.toDigits_of_lt_base hlt]
      rintro c ⟨⟩ hzero
      have := Nat.toNat_digitChar_of_lt_ten hlt
      rw [hzero] at this
      simp at this
      omega
    · rw [Nat.toDigits_of_base_le (by decide) (Nat.le_of_not_lt hlt),
        List.head?_append_of_ne_nil _ Nat.toDigits_ne_nil]
      exact ih (n / 10) (Nat.div_lt_self hn (by decide)) (by omega)

/-- A numeral is written without needless zeros. -/
def IsCanonical (cs : List Char) : Prop := isNumeral cs ∧ ¬ (1 < cs.length ∧ cs.head? = some '0')

theorem isCanonical_toDigits (n : Nat) : IsCanonical (Nat.toDigits 10 n) := by
  refine ⟨isNumeral_toDigits n, ?_⟩
  rintro ⟨hlength, hhead⟩
  cases n with
  | zero => cases hlength with | step h => cases h
  | succ n => exact head?_toDigits n.succ_pos '0' hhead rfl

theorem isCanonical_iff {cs : List Char} : IsCanonical cs ↔ cs = Nat.toDigits 10 (value cs) := by
  refine ⟨fun h => ?_, fun h => h ▸ isCanonical_toDigits _⟩
  obtain ⟨hnumeral, hzero⟩ := h
  obtain ⟨hne, hdigits⟩ := isNumeral_iff.1 hnumeral
  obtain ⟨c, cs, rfl⟩ := List.exists_cons_of_ne_nil hne
  by_cases hc : c = '0'
  · subst hc
    cases cs with
    | nil => rfl
    | cons d cs => exact absurd ⟨by simp, rfl⟩ hzero
  · have hpos : 0 < value (c :: cs) :=
      Nat.lt_of_lt_of_le (Nat.pow_pos (by decide)) (pow_le_value (hdigits c List.mem_cons_self) hc)
    have hall := (isNumeral_iff.1 (isNumeral_toDigits (value (c :: cs)))).2
    refine eq_of_value_eq hdigits hall ?_ (head?_toDigits hpos) (value_toDigits _).symm
    rintro _ ⟨⟩
    exact hc

end InterfaceReport.Text.Decimal
