import InterfaceReport.Report.Table
import Mathlib.Algebra.GroupWithZero.Nat
import Mathlib.Data.List.Forall2
import Mathlib.Order.Bounds.Basic

/-! Rendered tables. A column is as wide as its widest cell, the header's among them, so no line has
a cell that is cut off or pushes the cells after it, and a column ends at the same place in every
line. -/

namespace InterfaceReport.Table

variable {lines : List (List String)} {ws : List Nat} {row cells : List String} {cell : String}
  {i : Nat}

/-! ### Widths -/

/-- The lengths of the cells that the lines have in column `i`. -/
def lengthsAt (lines : List (List String)) (i : Nat) : Set Nat :=
  {n | ∃ cells ∈ lines, ∃ cell, cells[i]? = some cell ∧ cell.length = n}

theorem lengthsAt_concat_of_none (h : row[i]? = none) :
    lengthsAt (lines ++ [row]) i = lengthsAt lines i := by
  ext n
  simp [lengthsAt, or_and_right, exists_or, h]

theorem lengthsAt_concat_of_some (h : row[i]? = some cell) :
    lengthsAt (lines ++ [row]) i = insert cell.length (lengthsAt lines i) := by
  ext n
  simp [lengthsAt, or_and_right, exists_or, h, or_comm, eq_comm]

theorem getElem?_widen_of_none (h : row[i]? = none) : (widen ws row)[i]? = ws[i]? := by
  rw [widen, List.getElem?_zipWithAll, h]
  cases ws[i]? <;> simp

theorem getElem?_widen_of_some (h : row[i]? = some cell) :
    (widen ws row)[i]? = some (max cell.length (ws[i]?.getD 0)) := by
  rw [widen, List.getElem?_zipWithAll, h]
  cases ws[i]? <;> simp [max_comm]

/-- There is a width for each column of the lines, and it is that of the widest cell there. -/
structure Fit (lines : List (List String)) (ws : List Nat) : Prop where
  widest {i w : Nat} : ws[i]? = some w → IsGreatest (lengthsAt lines i) w
  columns {i : Nat} : ws[i]? = none → lengthsAt lines i = ∅

theorem Fit.header (header : List String) : Fit [header] (header.map String.length) := by
  constructor
  · intro i w h
    rw [List.getElem?_map] at h
    obtain ⟨cell, hcell, rfl⟩ := Option.map_eq_some_iff.1 h
    have hlengths : lengthsAt [header] i = {cell.length} := by
      ext n
      simp [lengthsAt, hcell, eq_comm]
    rw [hlengths]
    exact isGreatest_singleton
  · intro i h
    rw [List.getElem?_map, Option.map_eq_none_iff] at h
    simp [lengthsAt, h]

/-- A column is opened by the first line that has it, and grows with the cells. -/
theorem Fit.widen (h : Fit lines ws) (row : List String) :
    Fit (lines ++ [row]) (widen ws row) := by
  constructor
  · intro i w hw
    cases hcell : row[i]? with
    | none =>
      rw [getElem?_widen_of_none hcell] at hw
      rw [lengthsAt_concat_of_none hcell]
      exact h.widest hw
    | some cell =>
      rw [getElem?_widen_of_some hcell] at hw
      rw [lengthsAt_concat_of_some hcell]
      cases hold : ws[i]? with
      | none =>
        rw [hold] at hw
        cases hw
        simp [h.columns hold, isGreatest_singleton]
      | some v =>
        rw [hold] at hw
        cases hw
        exact (h.widest hold).insert cell.length
  · intro i hw
    cases hcell : row[i]? with
    | none =>
      rw [getElem?_widen_of_none hcell] at hw
      rw [lengthsAt_concat_of_none hcell]
      exact h.columns hw
    | some cell =>
      rw [getElem?_widen_of_some hcell] at hw
      cases hw

def spaces (n : Nat) : String := String.ofList (.replicate n ' ')

/-- A row opens two columns that the header does not have, and another has no cells. -/
example : render ["Port"] [["Ethernet0", "up", ""], [], ["é", "down"]] =
    "     Port\n---------  ----  \nEthernet0    up  \n\n        é  down\n" := by
  cbv

end InterfaceReport.Table
