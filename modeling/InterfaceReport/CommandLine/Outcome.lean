import InterfaceReport.Settings.Basic

/-! What the tools leave behind, and how the one that clears watermarks ends under given settings. -/

namespace InterfaceReport.CommandLine

variable {ε : Type}

/-- A message that a tool has published, and what tells the database it went to from others. -/
structure Publication (ε : Type) where
  endpoint : ε
  message : Message
deriving DecidableEq

/-- What a tool leaves behind. The text of misuse is settled where it is printed. -/
structure Outcome (ε : Type) where
  status : Nat
  output : String
  errors : Option String
  published : List (Publication ε)
deriving DecidableEq

/-- The end after a failure: its message, followed by those of its causes. -/
def Outcome.failed (messages : List String) : Outcome ε :=
  ⟨1, "", some ("Error: " ++ ": ".intercalate messages ++ "\n"), []⟩

/-- What has been published on the counters of a namespace. -/
def publications (c : Contact ε) : List (Publication ε) :=
  match c.result with
  | .ok connection => connection.database.published.map (⟨connection.endpoint, ·⟩)
  | .error _ => []

/-- The end after namespaces have been asked in turn. Requests that were published before a failure
stay published. -/
def Outcome.ofContacts (contacts : List (Contact ε)) : Outcome ε :=
  let published := contacts.flatMap publications
  match contacts.findSome? Contact.failure? with
  | none => ⟨0, "", some "", published⟩
  | some failure => { (Outcome.failed failure.messages : Outcome ε) with published }

/-- Clears a watermark under settings that have been read. -/
def clearing (s : Settings) (client : Namespace → Client ε) (name : Option String)
    (w : Watermark) : Outcome ε :=
  match s.clearWatermark (s.connectCounters client) name w with
  | .ok contacts => .ofContacts contacts
  | .error e => .failed e.messages

end InterfaceReport.CommandLine
