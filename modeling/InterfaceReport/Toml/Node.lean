/-! Settings documents as trees, and the rules by which the lines of a document make one. Every key
is set once, and what was written in one piece cannot be added to. -/

namespace InterfaceReport.Toml

/-- How a table came to be, which decides on what may be added to it. -/
inductive Origin where
  /-- Written in braces; nothing is added. -/
  | inline
  /-- Named by a longer header; a header of its own may follow. -/
  | implied
  /-- Named by a dotted key; more dotted keys may follow. -/
  | dotted
  /-- Named by a header. -/
  | header
deriving DecidableEq

/-- The values of a document. Only what settings can hold keeps its content. -/
inductive Node where
  | text (s : String)
  /-- A whole number, or `none` for a word that has the form of one and writes none in range. -/
  | integer (n : Option Int)
  /-- A real number. -/
  | real (isFinite : Bool)
  | boolean (b : Bool)
  /-- A date, a time, or both. -/
  | moment
  /-- Written in brackets. -/
  | array (items : List Node)
  | table (origin : Origin) (entries : List (String × Node))
  /-- Tables under one double-bracketed header; the latest one can still be added to. -/
  | tables (latest : List (String × Node)) (earlier : List (List (String × Node)))

/-- The entries of a table in the order in which their keys appeared. -/
abbrev Entries := List (String × Node)

mutual

/-- Every number in the value, however deep, is in range. -/
def Node.inRange : Node → Bool
  | .integer n => n.isSome
  | .real isFinite => isFinite
  | .array items => Node.allInRange items
  | .table _ entries => Node.entriesInRange entries
  | .tables latest earlier => Node.entriesInRange latest && Node.tablesInRange earlier
  | .text _ | .boolean _ | .moment => true

def Node.allInRange : List Node → Bool
  | [] => true
  | node :: rest => node.inRange && Node.allInRange rest

def Node.entriesInRange : List (String × Node) → Bool
  | [] => true
  | (_, node) :: rest => node.inRange && Node.entriesInRange rest

def Node.tablesInRange : List (List (String × Node)) → Bool
  | [] => true
  | entries :: rest => Node.entriesInRange entries && Node.tablesInRange rest

end

namespace Entries

/-- Puts another node in the place of the one under `key`. -/
def replace (entries : Entries) (key : String) (node : Node) : Entries :=
  entries.map fun (k, n) => if k == key then (k, node) else (k, n)

/-- Changes the table at the end of a header's path. Tables on the way that are missing are implied,
and of the tables under a double-bracketed header the latest is meant. -/
def within (change : Entries → Option Entries) : List String → Entries → Option Entries
  | [], entries => change entries
  | key :: path, entries =>
    match entries.lookup key with
    | none => do return entries ++ [(key, .table .implied (← within change path []))]
    | some (.table origin inner) =>
      if origin = .inline then none
      else do return entries.replace key (.table origin (← within change path inner))
    | some (.tables latest earlier) => do
      return entries.replace key (.tables (← within change path latest) earlier)
    | some _ => none

def set (key : String) (node : Node) (entries : Entries) : Option Entries :=
  if (entries.lookup key).isSome then none else some (entries ++ [(key, node)])

/-- Sets a dotted key. Its tables are made by dotted keys only, up to those that a longer header
implies on the way. -/
def assign (node : Node) : List String → Entries → Option Entries
  | [], _ => none
  | [key], entries => entries.set key node
  | key :: path, entries =>
    match entries.lookup key with
    | none => do return entries ++ [(key, .table .dotted (← assign node path []))]
    | some (.table origin inner) =>
      if origin = .dotted || (origin = .implied && 1 < path.length) then do
        return entries.replace key (.table origin (← assign node path inner))
      else none
    | some (.tables latest earlier) =>
      if 1 < path.length then do
        return entries.replace key (.tables (← assign node path latest) earlier)
      else none
    | some _ => none

/-- Opens the table that a header names by its last key. -/
def openTable (key : String) (entries : Entries) : Option Entries :=
  match entries.lookup key with
  | none => some (entries ++ [(key, .table .header [])])
  | some (.table .implied inner) => some (entries.replace key (.table .header inner))
  | some _ => none

/-- Opens a further table under a double-bracketed header. -/
def openItem (key : String) (entries : Entries) : Option Entries :=
  match entries.lookup key with
  | none => some (entries ++ [(key, .tables [] [])])
  | some (.tables latest earlier) => some (entries.replace key (.tables [] (latest :: earlier)))
  | some _ => none

end Entries
end InterfaceReport.Toml
