import InterfaceReport.Toml.Quoted

/-! Whole documents: keys, values, and the lines that set them. -/

namespace InterfaceReport.Toml

/-- How deep arrays and tables may nest, and how many parts a key may have. -/
def maxDepth : Nat := 80

/-! ### Keys -/

def isBare (c : Char) : Bool := c.isAlphanum || c == '_' || c == '-'

def simpleKey (cs : List Char) : Option (Read String cs) :=
  match h : cs.takeWhile isBare with
  | [] => Quoted.line cs
  | c :: name => some ⟨String.ofList (c :: name), cs.dropWhile isBare, by
      have := congrArg List.length (List.takeWhile_append_dropWhile (p := isBare) (l := cs))
      rw [List.length_append, h, List.length_cons] at this
      omega⟩

/-- Parts of a key, with dots between them, and the white space behind the last. -/
def dotted (cs : List Char) : Option (Read (List String) cs) := do
  let first ← simpleKey cs
  let spaces := skipSpaces first.rest
  match expect '.' spaces.1 with
  | none => return ⟨[first.value], spaces.1, Nat.lt_of_le_of_lt spaces.2 first.shorter⟩
  | some dot =>
    let gap := skipSpaces dot.rest
    have : gap.1.length < cs.length :=
      Nat.lt_of_le_of_lt gap.2 (Nat.lt_trans dot.shorter
        (Nat.lt_of_le_of_lt spaces.2 first.shorter))
    let others ← dotted gap.1
    return (others.map (first.value :: ·)).after (Nat.le_of_lt this)
termination_by cs.length

/-- The parts of a key, which are not too many. -/
def key (cs : List Char) : Option (Read (List String) cs) :=
  (dotted cs).filter (·.value.length ≤ maxDepth)

/-! ### Values -/

/-- A character of a value without quotes. Others end it, whether they have a meaning there or
not. -/
def isWordChar (c : Char) : Bool :=
  !isSpace c && !(['=', ',', '[', ']', '\x7b', '\x7d', '#', '\r', '\n'].contains c)

/-- A character that goes on with a word after white space. -/
def resumesWord (c : Char) : Bool :=
  isWordChar c && c != '.' && c != '"' && c != Quoted.apostrophe

/-- The length of the word at the beginning of `cs`. White space is part of it if more of the word
follows, as in a date with a time. -/
def wordLength (cs : List Char) : Nat :=
  let rest := cs.dropWhile isWordChar
  let next := rest.dropWhile isSpace
  let length := cs.length - rest.length
  if _h : next.length < rest.length then
    if next.head?.any resumesWord then cs.length - next.length + wordLength next else length
  else length
termination_by cs.length
decreasing_by exact Nat.lt_of_lt_of_le _h (length_dropWhile_le _ _)

def word (cs : List Char) : Option (Read Node cs) :=
  match cs, wordLength cs with
  | _, 0 => none
  | [], _ => none
  | c :: cs, n + 1 =>
    (Scalar.node? ((c :: cs).take (n + 1))).map (.taking · n c cs)

/-- The items of an array after its opening bracket. A comma may follow the last one. -/
def items (item : (cs : List Char) → Option (Read Node cs)) (cs : List Char) :
    Option (Read (List Node) cs) := do
  let gap ← skipGap false cs
  match expect ']' gap.1 with
  | some r => return (r.map fun _ => []).after gap.2
  | none =>
    let first ← item gap.1
    let tail ← skipGap false first.rest
    have : tail.1.length < cs.length :=
      Nat.lt_of_le_of_lt tail.2 (Nat.lt_of_lt_of_le first.shorter gap.2)
    match expect ']' tail.1 with
    | some r => return (r.map fun _ => [first.value]).after (Nat.le_of_lt this)
    | none =>
      let comma ← expect ',' tail.1
      have : comma.rest.length < cs.length := Nat.lt_trans comma.shorter this
      let others ← items item comma.rest
      return (others.map (first.value :: ·)).after (Nat.le_of_lt this)
termination_by cs.length

/-- What may be skipped on either side of an equals sign. -/
abbrev Skip := (cs : List Char) → Option (Skipped cs)

def setting (skip : Skip) (item : (cs : List Char) → Option (Read Node cs)) (cs : List Char) :
    Option (Read (List String × Node) cs) := do
  let path ← key cs
  let before ← skip path.rest
  let equals ← expect '=' before.1
  let after ← skip equals.rest
  let value ← item after.1
  return (value.map (path.value, ·)).after
    (Nat.le_of_lt (Nat.lt_of_le_of_lt after.2 (Nat.lt_trans equals.shorter
      (Nat.lt_of_le_of_lt before.2 path.shorter))))

/-- The entries of a table in braces after its opening brace, added to those already read. A comma
may follow the last one. -/
def braced (item : (cs : List Char) → Option (Read Node cs)) (entries : Entries)
    (cs : List Char) : Option (Read Entries cs) := do
  let gap ← skipGap false cs
  match expect '\x7d' gap.1 with
  | some r => return (r.map fun _ => entries).after gap.2
  | none =>
    let first ← setting (skipGap false) item gap.1
    let entries ← entries.assign first.value.2 first.value.1
    let tail ← skipGap false first.rest
    have : tail.1.length < cs.length :=
      Nat.lt_of_le_of_lt tail.2 (Nat.lt_of_lt_of_le first.shorter gap.2)
    match expect '\x7d' tail.1 with
    | some r => return (r.map fun _ => entries).after (Nat.le_of_lt this)
    | none =>
      let comma ← expect ',' tail.1
      have : comma.rest.length < cs.length := Nat.lt_trans comma.shorter this
      let all ← braced item entries comma.rest
      return all.after (Nat.le_of_lt this)
termination_by cs.length

/-- A value in which arrays and tables nest to the given depth. -/
def value : Nat → (cs : List Char) → Option (Read Node cs)
  | depth, c :: cs =>
    if c == '"' || c == Quoted.apostrophe then
      (Quoted.string (c :: cs)).map (·.map .text)
    else
      match depth with
      | 0 => word (c :: cs)
      | depth + 1 =>
        if c == '[' then
          (items (value depth) cs).map fun r => (r.map .array).after (Nat.le_succ _)
        else if c == '\x7b' then
          (braced (value depth) [] cs).map fun r => (r.map (.table .inline)).after (Nat.le_succ _)
        else word (c :: cs)
  | _, [] => none

/-! ### Lines -/

/-- A document as far as it has been read: all entries, and the header under which further keys are
set. -/
structure Draft where
  entries : Entries
  path : List String

/-- What a line does to the document. -/
inductive Line where
  | assign (path : List String) (node : Node)
  | table (path : List String)
  | item (path : List String)

namespace Draft

def add (d : Draft) : Line → Option Draft
  | .assign path node => do
    return { d with entries := ← d.entries.within (·.assign node path) d.path }
  | .table path => do
    let last ← path.getLast?
    return ⟨← d.entries.within (·.openTable last) path.dropLast, path⟩
  | .item path => do
    let last ← path.getLast?
    return ⟨← d.entries.within (·.openItem last) path.dropLast, path⟩

end Draft

def headerLine (cs : List Char) : Option (Read Line cs) :=
  match expect '[' cs with
  | some second => do
    let spaces := skipSpaces second.rest
    let path ← key spaces.1
    let first ← expect ']' path.rest
    let last ← expect ']' first.rest
    return ⟨.item path.value, last.rest, Nat.lt_trans last.shorter (Nat.lt_trans first.shorter
      (Nat.lt_of_lt_of_le path.shorter (Nat.le_trans spaces.2 (Nat.le_of_lt second.shorter))))⟩
  | none => do
    let spaces := skipSpaces cs
    let path ← key spaces.1
    let last ← expect ']' path.rest
    return ⟨.table path.value, last.rest, Nat.lt_trans last.shorter
      (Nat.lt_of_lt_of_le path.shorter spaces.2)⟩

def anyLine (cs : List Char) : Option (Read Line cs) :=
  match expect '[' cs with
  | some bracket => (headerLine bracket.rest).map (·.after (Nat.le_of_lt bracket.shorter))
  | none =>
    (setting (fun cs => some (skipSpaces cs)) (value maxDepth) cs).map
      (·.map fun (path, node) => .assign path node)

def lines (draft : Draft) (cs : List Char) : Option Draft := do
  let gap ← skipGap false cs
  if gap.1.isEmpty then return draft
  else
    let first ← anyLine gap.1
    let draft ← draft.add first.value
    let next ← skipLine false first.rest
    have : next.1.length < cs.length :=
      Nat.lt_of_le_of_lt next.2 (Nat.lt_of_lt_of_le first.shorter gap.2)
    lines draft next.1
termination_by cs.length

/-- The entries of a document. A byte order mark at its beginning is no part of it. -/
def parse? (document : String) : Option Entries :=
  let cs := document.toList
  let cs := if cs.head? == some (Char.ofNat 0xFEFF) then cs.tail else cs
  (lines ⟨[], []⟩ cs).map (·.entries)

end InterfaceReport.Toml
