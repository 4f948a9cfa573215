import InterfaceReport.Client
import InterfaceReport.Endpoint

/-! Servers, each of which keeps numbered databases. -/

namespace InterfaceReport

/-- One server, known by its port. -/
structure Server where
  port : Nat
  /-- The hashes of each database that has any. -/
  hashes : List (Int × Std.TreeMap String Hash)
  /-- The databases that refuse commands. -/
  outages : List (Int × Outage)

/-- The server that answers at an endpoint, or why none does. -/
abbrev Network := Endpoint → Except String Server

namespace Server

/-- The database of the server that an endpoint names. -/
def link (server : Server) (endpoint : Endpoint) : Link Endpoint where
  endpoint
  hashes := (server.hashes.lookup endpoint.number).getD ∅
  outage := server.outages.lookup endpoint.number

/-- Of several servers with one port the first answers. -/
def network (servers : List Server) : Network := fun endpoint =>
  match servers.find? (·.port == endpoint.port) with
  | some server => .ok server
  | none => .error "Connection refused (os error 111)"

end Server

/-- The client that goes to the endpoint which a URI names. The host's name stands in the URI as it
is, so that it can name more than a host. -/
def Network.client (network : Network) : Client Endpoint := fun uri => do
  let endpoint ← (Endpoint.ofUri uri).mapError (·.message)
  return (← network endpoint).link endpoint

end InterfaceReport
