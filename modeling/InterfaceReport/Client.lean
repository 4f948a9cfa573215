import InterfaceReport.Store.Database

/-! Clients, which look for databases under URIs. What tells databases apart is theirs to say. -/

namespace InterfaceReport

/-- A database that a client has found, and what tells it from others. -/
structure Link (ε : Type) where
  endpoint : ε
  hashes : Std.TreeMap String Hash
  outage : Option Outage

/-- What comes of looking for a database under a URI: the database, or why there is none. -/
abbrev Client (ε : Type) := String → Except String (Link ε)

/-- An open database, and what tells it from others. -/
structure Connection (ε : Type) where
  endpoint : ε
  database : Database

/-- Opens a database that has been found. Nothing has been published on it so far. -/
def Connection.ofLink {ε : Type} (kind : DatabaseKind) (link : Link ε) : Connection ε where
  endpoint := link.endpoint
  database := ⟨kind, link.hashes, [], link.outage⟩

end InterfaceReport
