/-! Key patterns: `*` stands for any text and `?` for any character. The matcher commits to the
shortest text for each `*` but the last one met, whose text alone it may lengthen later. -/

namespace InterfaceReport.Text.Glob

/-- What a comparison without choices comes to. -/
inductive Attempt where
  /-- The text is used up; `fits` when the pattern left over holds stars only. -/
  | ended (fits : Bool)
  /-- A star is reached with `pattern` after it and `text` before it to match. -/
  | star (pattern text : List Char)
  /-- The next characters differ. -/
  | differs

/-- Compares character by character up to the first star that does not stand for itself. A text
character equal to the pattern's is taken as it stands, also where both are stars. -/
def attempt : (pattern text : List Char) → Attempt
  | ps, [] => .ended (ps.all (· == '*'))
  | [], _ :: _ => .differs
  | p :: ps, c :: cs =>
    if p == '?' || p == c then attempt ps cs
    else if p == '*' then .star ps (c :: cs)
    else .differs

/-- The pattern after a star is shorter than the one that holds it. -/
theorem length_lt_of_attempt {ps cs ps' cs' : List Char} (h : attempt ps cs = .star ps' cs') :
    ps'.length < ps.length := by
  fun_induction attempt ps cs with
  | case1 => cases h
  | case2 => cases h
  | case3 p ps c cs _ ih => exact Nat.lt_succ_of_lt (ih h)
  | case4 p ps c cs => cases h; exact Nat.lt_succ_self _
  | case5 => cases h

/-- Matches the pattern after a star: at the start of the text or of one of its tails. -/
def search (pattern text : List Char) : Bool :=
  match _h : attempt pattern text with
  | .ended fits => fits
  | .star ps cs => search ps cs
  | .differs =>
    match text with
    | [] => false
    | _ :: cs => search pattern cs
termination_by (pattern.length, text.length)
decreasing_by
  · exact Prod.Lex.left _ _ (length_lt_of_attempt _h)
  · exact Prod.Lex.right _ (Nat.lt_succ_self _)

def matchesChars (pattern text : List Char) : Bool :=
  match attempt pattern text with
  | .ended fits => fits
  | .star ps cs => search ps cs
  | .differs => false

def fits (pattern text : String) : Bool := matchesChars pattern.toList text.toList

end InterfaceReport.Text.Glob
