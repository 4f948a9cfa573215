/-! Bytes read as UTF-8. Every byte counts: those that are no part of a character show as faults. -/

namespace InterfaceReport.Text.Utf8

/-- A character of which some bytes have been read. -/
structure Pending where
  /-- The bytes that are still to come. -/
  owed : Nat
  /-- The bounds of the next byte. -/
  lo : Nat
  hi : Nat
  /-- What the bytes so far contribute to the code point. -/
  value : Nat
deriving DecidableEq

/-- What a first byte announces: the whole character, a character of several bytes, or nothing. -/
def start (b : Nat) : List (Option Char) × Option Pending :=
  if b < 0x80 then ([some (Char.ofNat b)], none)
  else if 0xC2 ≤ b && b < 0xE0 then ([], some ⟨1, 0x80, 0xBF, b - 0xC0⟩)
  else if 0xE0 ≤ b && b < 0xF0 then
    ([], some ⟨2, if b == 0xE0 then 0xA0 else 0x80, if b == 0xED then 0x9F else 0xBF, b - 0xE0⟩)
  else if 0xF0 ≤ b && b < 0xF5 then
    ([], some ⟨3, if b == 0xF0 then 0x90 else 0x80, if b == 0xF4 then 0x8F else 0xBF, b - 0xF0⟩)
  else ([none], none)

/-- Reads one more byte. A byte that does not go on with the pending character makes a fault of what
there is of it and is read as a first byte. -/
def step (b : Nat) : Option Pending → List (Option Char) × Option Pending
  | none => start b
  | some p =>
    if p.lo ≤ b && b ≤ p.hi then
      let value := p.value * 64 + (b - 0x80)
      if p.owed ≤ 1 then ([some (Char.ofNat value)], none)
      else ([], some ⟨p.owed - 1, 0x80, 0xBF, value⟩)
    else
      let (read, pending) := start b
      (none :: read, pending)

/-- The characters and faults of bytes after a pending character. -/
def decodeFrom : Option Pending → List UInt8 → List (Option Char)
  | none, [] => []
  | some _, [] => [none]
  | pending, b :: bytes =>
    let (read, pending) := step b.toNat pending
    read ++ decodeFrom pending bytes

def decode (bytes : List UInt8) : List (Option Char) := decodeFrom none bytes

def isValid (bytes : List UInt8) : Bool := (decode bytes).all Option.isSome

/-- The text of `bytes`, in which a replacement character stands for each fault. -/
def text (bytes : List UInt8) : String :=
  String.ofList ((decode bytes).map (·.getD (Char.ofNat 0xFFFD)))

def encode (s : String) : List UInt8 := s.toList.flatMap String.utf8EncodeChar

end InterfaceReport.Text.Utf8
