/-! Results of reading from the beginning of a text. Each comes with a proof that something was
read, which is what ends the loops that read one thing after another. -/

namespace InterfaceReport.Toml

/-- A value read from the beginning of `cs`, and the characters left. -/
structure Read (α : Type) (cs : List Char) where
  value : α
  rest : List Char
  shorter : rest.length < cs.length

namespace Read

variable {α β : Type} {cs : List Char}

def after {ds : List Char} (r : Read α ds) (h : ds.length ≤ cs.length) : Read α cs :=
  ⟨r.value, r.rest, Nat.lt_of_lt_of_le r.shorter h⟩

def map (f : α → β) (r : Read α cs) : Read β cs := ⟨f r.value, r.rest, r.shorter⟩

def first (value : α) (c : Char) (cs : List Char) : Read α (c :: cs) :=
  ⟨value, cs, Nat.lt_succ_self _⟩

def taking (value : α) (n : Nat) (c : Char) (cs : List Char) : Read α (c :: cs) :=
  ⟨value, cs.drop n, Nat.lt_succ_of_le (by simp)⟩

def behind (c : Char) (r : Read α cs) : Read α (c :: cs) := r.after (Nat.le_succ _)

def continued (r : Read α cs) (s : Read β r.rest) : Read β cs :=
  s.after (Nat.le_of_lt r.shorter)

end Read

/-- What is left after something that may be empty has been skipped. -/
abbrev Skipped (cs : List Char) := { rest : List Char // rest.length ≤ cs.length }

namespace Skipped

def nothing (cs : List Char) : Skipped cs := ⟨cs, Nat.le_refl _⟩

def behind {cs : List Char} (c : Char) (s : Skipped cs) : Skipped (c :: cs) :=
  ⟨s.1, Nat.le_succ_of_le s.2⟩

end Skipped

def expect (c : Char) : (cs : List Char) → Option (Read Unit cs)
  | [] => none
  | d :: cs => if d == c then some (.first () d cs) else none

/-! ### Blanks and comments -/

def isSpace (c : Char) : Bool := c == ' ' || c == '\t'

/-- A character that may stand in a comment or string: no control character but the tab. -/
def isPlain (c : Char) : Bool := c == '\t' || (0x20 ≤ c.toNat && c.toNat != 0x7F)

/-- What is left after some characters were dropped is no longer than before. -/
theorem length_dropWhile_le (p : Char → Bool) (cs : List Char) :
    (cs.dropWhile p).length ≤ cs.length :=
  (List.dropWhile_suffix p).length_le

def skipSpaces (cs : List Char) : Skipped cs := ⟨cs.dropWhile isSpace, length_dropWhile_le _ _⟩

/-- A line ends here: with a line feed or with a carriage return before one. -/
def atLineEnd : List Char → Bool
  | '\n' :: _ => true
  | '\r' :: '\n' :: _ => true
  | _ => false

/-- Skips white space, line ends and comments. The flag tells that a comment has begun. -/
def skipGap : Bool → (cs : List Char) → Option (Skipped cs)
  | _, [] => some (.nothing [])
  | inComment, c :: cs =>
    let next (inComment : Bool) : Option (Skipped (c :: cs)) :=
      (skipGap inComment cs).map (.behind c)
    if c == '\n' then next false
    else if atLineEnd (c :: cs) then next inComment
    else if inComment then (if isPlain c then next true else none)
    else if isSpace c then next false
    else if c == '#' then next true
    else some (.nothing (c :: cs))

/-- Skips the rest of a line, which holds nothing but white space and a comment. -/
def skipLine : Bool → (cs : List Char) → Option (Skipped cs)
  | _, [] => some (.nothing [])
  | inComment, c :: cs =>
    let next (inComment : Bool) : Option (Skipped (c :: cs)) :=
      (skipLine inComment cs).map (.behind c)
    if c == '\n' then some (.behind c (.nothing cs))
    else if atLineEnd (c :: cs) then next inComment
    else if inComment then (if isPlain c then next true else none)
    else if isSpace c then next false
    else if c == '#' then next true
    else none

end InterfaceReport.Toml
