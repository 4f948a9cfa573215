import InterfaceReport.Toml.Read
import InterfaceReport.Toml.Scalar

/-! Strings in quotes, on one line or on several, with and without escapes. -/

namespace InterfaceReport.Toml.Quoted

/-- The mark of strings in which nothing is escaped. -/
def apostrophe : Char := Char.ofNat 39

/-! ### Escapes -/

def simple? : Char → Option Char
  | 'b' => some '\x08'
  | 't' => some '\t'
  | 'n' => some '\n'
  | 'f' => some '\x0c'
  | 'r' => some '\r'
  | 'e' => some '\x1b'
  | '"' => some '"'
  | '\\' => some '\\'
  | _ => none

/-- How many hexadecimal digits follow a character after a backslash. -/
def width? : Char → Option Nat
  | 'x' => some 2
  | 'u' => some 4
  | 'U' => some 8
  | _ => none

/-- The character with the code point that hexadecimal digits write. -/
def ofCode? (digits : List Char) : Option Char :=
  let n := Scalar.valueIn 16 digits
  if h : n.isValidChar then
    if digits.all (Scalar.digitValue · < 16) then some (Char.ofNatAux n h) else none
  else none

/-- The character that an escape stands for, read after the backslash. -/
def escape : (cs : List Char) → Option (Read Char cs)
  | [] => none
  | c :: cs =>
    match width? c with
    | none => (simple? c).map (.first · c cs)
    | some n =>
      if cs.length < n then none
      else (ofCode? (cs.take n)).map (.taking · n c cs)

/-! ### Strings on one line -/

def character : (cs : List Char) → Option (Read Char cs)
  | [] => none
  | c :: cs =>
    if c == '\\' then (escape cs).map (.behind c)
    else if isPlain c then some (.first c c cs)
    else none

/-- A string with escapes up to the quote that ends it. -/
def basic (cs : List Char) : Option (Read (List Char) cs) :=
  match cs with
  | [] => none
  | '"' :: cs => some (.first [] '"' cs)
  | c :: cs => do
    let first ← character (c :: cs)
    let others ← basic first.rest
    return (first.continued others).map (first.value :: ·)
termination_by cs.length
decreasing_by exact first.shorter

/-- A string without escapes up to the apostrophe that ends it. -/
def literal : (cs : List Char) → Option (Read (List Char) cs)
  | [] => none
  | c :: cs =>
    if c == apostrophe then some (.first [] c cs)
    else if isPlain c then (literal cs).map fun r => (r.map (c :: ·)).behind c
    else none

/-! ### Strings on several lines -/

/-- The end of a string in threefold marks: three marks, with up to two more before them that belong
to the string. -/
def closing? (mark : Char) (cs : List Char) : Option (Read (List Char) cs) :=
  let marks := (cs.takeWhile (· == mark)).length
  if h : 3 ≤ marks then
    some ⟨.replicate (min (marks - 3) 2) mark, cs.drop (min marks 5), by
      have : marks ≤ cs.length := (List.takeWhile_prefix _).length_le
      simp only [List.length_drop]
      omega⟩
  else none

/-- A backslash at the end of a line takes away all white space up to the next character. -/
def isFold (cs : List Char) : Bool := atLineEnd (cs.dropWhile isSpace)

def skipFold : (cs : List Char) → Skipped cs
  | [] => .nothing []
  | c :: cs =>
    if isSpace c || atLineEnd (c :: cs) then (skipFold cs).behind c
    else .nothing (c :: cs)

/-- A piece of a string on several lines. Line ends stand for themselves. -/
def piece (escapes : Bool) : (cs : List Char) → Option (Read (List Char) cs)
  | [] => none
  | c :: cs =>
    if atLineEnd (c :: cs) then some (.first [c] c cs)
    else if escapes && c == '\\' && isFold cs then
      let s := skipFold cs
      some ⟨[], s.1, Nat.lt_succ_of_le s.2⟩
    else if escapes then (character (c :: cs)).map (·.map ([·]))
    else if isPlain c then some (.first [c] c cs)
    else none

/-- A string on several lines up to the three marks that end it. -/
def multiline (escapes : Bool) (mark : Char) (cs : List Char) : Option (Read (List Char) cs) :=
  match closing? mark cs with
  | some r => some r
  | none => do
    let first ← piece escapes cs
    let others ← multiline escapes mark first.rest
    return (first.continued others).map (first.value ++ ·)
termination_by cs.length
decreasing_by exact first.shorter

def dropFirstLineEnd : (cs : List Char) → Skipped cs
  | '\n' :: cs => .behind '\n' (.nothing cs)
  | '\r' :: '\n' :: cs => .behind '\r' (.behind '\n' (.nothing cs))
  | cs => .nothing cs

def line : (cs : List Char) → Option (Read String cs)
  | [] => none
  | c :: cs =>
    (if c == '"' then basic cs else if c == apostrophe then literal cs else none).map fun r =>
      (r.map String.ofList).behind c

def string : (cs : List Char) → Option (Read String cs)
  | c :: d :: e :: cs =>
    if (c == '"' || c == apostrophe) && d == c && e == c then
      let body := dropFirstLineEnd cs
      (multiline (c == '"') c body.1).map fun r =>
        (r.map String.ofList).after (by have := body.2; simp; omega)
    else line (c :: d :: e :: cs)
  | cs => line cs

end InterfaceReport.Toml.Quoted
