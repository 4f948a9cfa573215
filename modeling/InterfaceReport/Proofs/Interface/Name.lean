import InterfaceReport.Interface.Name
import Mathlib.Logic.ExistsUnique

/-! How the name of a port or LAG may be spelled, and which name the parent of a sub-interface
has. -/

namespace InterfaceReport

theorem Text.beginsWith_iff {stem s : String} : beginsWith stem s ↔ ∃ rest, s = stem ++ rest := by
  simp only [beginsWith, Option.isSome_iff_exists, after?_eq_some_iff]

namespace Name

variable {short whole name stem parent : String}

theorem lengthen?_eq_some_iff {full : String} : lengthen? short whole name = some full ↔
    (∀ rest, name ≠ whole ++ rest) ∧ ∃ rest, name = short ++ rest ∧ whole ++ rest = full := by
  rw [lengthen?]
  split
  · next h =>
    obtain ⟨rest, hrest⟩ := Text.beginsWith_iff.1 h
    simp [hrest]
  · next h =>
    rw [Text.beginsWith_iff, not_exists] at h
    simp [h, Text.after?_eq_some_iff]

theorem lengthen?_eq_none_iff : lengthen? short whole name = none ↔
    ∀ rest, name = short ++ rest → ∃ other, name = whole ++ other := by
  rw [Option.eq_none_iff_forall_not_mem]
  simp only [Option.mem_def, lengthen?_eq_some_iff]
  grind

/-- Where the short forms of names begin, and their long forms. -/
def stems : List (String × String) := [("Eth", "Ethernet"), ("Po", "PortChannel")]

/-- The spellings of a long name: a short one, and the name itself, which is none that could be
lengthened. -/
inductive Spells : String → String → Prop
  | short {short whole rest : String} : (short, whole) ∈ stems →
      (∀ other, short ++ rest ≠ whole ++ other) → Spells (short ++ rest) (whole ++ rest)
  | asIs {name : String} : (∀ short whole rest, (short, whole) ∈ stems → name = short ++ rest →
      ∃ other, name = whole ++ other) → Spells name name

theorem eth_ne_po (a b : String) : "Eth" ++ a ≠ "Po" ++ b := by
  intro h
  have hchars := congrArg String.toList h
  simp at hchars

theorem long_eq_of_port {full : String} (h : lengthen? "Eth" "Ethernet" name = some full) :
    long name = full := by
  rw [long, h]
  rfl

theorem long_eq_of_lag {full : String} (h : lengthen? "Po" "PortChannel" name = some full) :
    long name = full := by
  have hport : lengthen? "Eth" "Ethernet" name = none := by
    obtain ⟨-, rest, rfl, -⟩ := lengthen?_eq_some_iff.1 h
    exact lengthen?_eq_none_iff.2 fun other heq => absurd heq.symm (eth_ne_po _ _)
  rw [long, hport, h]
  rfl

theorem spells_iff : Spells stem parent ↔ long stem = parent := by
  constructor
  · rintro (⟨hstem, hwhole⟩ | hnone)
    · simp only [stems, List.mem_cons, Prod.mk.injEq, List.not_mem_nil, or_false] at hstem
      rcases hstem with ⟨rfl, rfl⟩ | ⟨rfl, rfl⟩
      · exact long_eq_of_port (lengthen?_eq_some_iff.2 ⟨hwhole, _, rfl, rfl⟩)
      · exact long_eq_of_lag (lengthen?_eq_some_iff.2 ⟨hwhole, _, rfl, rfl⟩)
    · have hport := lengthen?_eq_none_iff.2 (hnone "Eth" "Ethernet" · (by simp [stems]))
      have hlag := lengthen?_eq_none_iff.2 (hnone "Po" "PortChannel" · (by simp [stems]))
      rw [long, hport, hlag]
      rfl
  · rintro rfl
    cases hport : lengthen? "Eth" "Ethernet" stem with
    | some full =>
      rw [long_eq_of_port hport]
      obtain ⟨hwhole, rest, rfl, rfl⟩ := lengthen?_eq_some_iff.1 hport
      exact .short (by simp [stems]) hwhole
    | none =>
      cases hlag : lengthen? "Po" "PortChannel" stem with
      | some full =>
        rw [long_eq_of_lag hlag]
        obtain ⟨hwhole, rest, rfl, rfl⟩ := lengthen?_eq_some_iff.1 hlag
        exact .short (by simp [stems]) hwhole
      | none =>
        have hself : long stem = stem := by
          rw [long, hport, hlag]
          rfl
        rw [hself]
        refine .asIs fun short whole rest hstem heq => ?_
        simp only [stems, List.mem_cons, Prod.mk.injEq, List.not_mem_nil, or_false] at hstem
        rcases hstem with ⟨rfl, rfl⟩ | ⟨rfl, rfl⟩
        · exact lengthen?_eq_none_iff.1 hport rest heq
        · exact lengthen?_eq_none_iff.1 hlag rest heq

/-! ### The parent of a sub-interface -/

/-- `name` is that of a sub-interface of `parent`, whose name is spelled before the first dot. -/
def Under (name parent : String) : Prop :=
  ∃ stem suffix, name = stem ++ "." ++ suffix ∧ '.' ∉ stem.toList ∧ Spells stem parent

theorem under_iff : Under name parent ↔ ∃ suffix, parent? name = some (parent, suffix) := by
  have hcut : ∀ stem suffix : String, name = stem ++ "." ++ suffix ∧ '.' ∉ stem.toList ↔
      Text.cut? '.' name = some (stem, suffix) := by
    intro stem suffix
    rw [Text.cut?_eq_some_iff, ← String.toList_inj, String.toList_append, String.toList_append,
      List.append_assoc]
    rfl
  simp only [Under, spells_iff, parent?, Option.map_eq_some_iff, Prod.exists, Prod.mk.injEq]
  constructor
  · rintro ⟨stem, suffix, hname, hdot, rfl⟩
    exact ⟨suffix, stem, suffix, (hcut _ _).1 ⟨hname, hdot⟩, rfl, rfl⟩
  · rintro ⟨suffix, stem, suffix', hname, rfl, rfl⟩
    obtain ⟨hname, hdot⟩ := (hcut _ _).2 hname
    exact ⟨stem, suffix', hname, hdot, rfl⟩

/-- Each name with a dot is that of a sub-interface of one parent. -/
theorem existsUnique_under (h : '.' ∈ name.toList) : ∃! parent, Under name parent := by
  obtain ⟨stem, suffix, hname, hdot⟩ := List.eq_append_cons_of_mem h
  have hcut : Text.cut? '.' name = some (String.ofList stem, String.ofList suffix) :=
    Text.cut?_eq_some_iff.2 (by simpa using ⟨hname, hdot⟩)
  refine ⟨long (String.ofList stem), under_iff.2 ⟨_, by rw [parent?, hcut]; rfl⟩, ?_⟩
  intro parent hparent
  obtain ⟨suffix, hsuffix⟩ := under_iff.1 hparent
  rw [parent?, hcut] at hsuffix
  cases hsuffix
  rfl

end Name

end InterfaceReport
