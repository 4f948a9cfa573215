import Std.Data.TreeMap
import InterfaceReport.Store.Error
import InterfaceReport.Store.Kind
import InterfaceReport.Text.Glob
import InterfaceReport.Text.Pieces

/-! One database: hashes under full keys, the messages published on it, and the commands it refuses.
Tables are a reading of the full keys and are not stored as such. -/

namespace InterfaceReport

abbrev Hash := Std.TreeMap String String

abbrev Record := List (String × String)

/-- The commands that can fail. -/
inductive Command where
  | hget
  | hgetall
  | keys
  | publish
deriving DecidableEq

namespace Command

def name : Command → String
  | .hget => "hget"
  | .hgetall => "hgetall"
  | .keys => "keys"
  | .publish => "publish"

def all : List Command := [.hget, .hgetall, .keys, .publish]

end Command

/-- Commands that a database refuses, and the text with which it does. -/
structure Outage where
  commands : List Command
  reason : String
deriving DecidableEq

/-- The database is gone: no command reaches it. -/
def Outage.total : Outage := ⟨Command.all, "Connection refused"⟩

/-- A message on a channel. -/
structure Message where
  channel : String
  payload : String
deriving DecidableEq

/-- One database of a switch. -/
structure Database where
  kind : DatabaseKind
  hashes : Std.TreeMap String Hash
  /-- The messages published so far, in order. -/
  published : List Message
  outage : Option Outage

namespace Database

def empty (kind : DatabaseKind) : Database := ⟨kind, ∅, [], none⟩

/-- Takes the database away or brings it back; what it holds stays. -/
def setAvailable (db : Database) (available : Bool) : Database :=
  { db with outage := if available then none else some Outage.total }

/-! ### Writing -/

/-- The hash under `key`; a key that is not stored has no fields. -/
def hash (db : Database) (key : String) : Hash := (db.hashes[key]?).getD ∅

/-- Sets one field of the hash under the full key `key`. -/
def setField (db : Database) (key field value : String) : Database :=
  { db with hashes := db.hashes.insert key ((db.hash key).insert field value) }

@[simp] theorem kind_setField (db : Database) (key field value : String) :
    (db.setField key field value).kind = db.kind := rfl

@[simp] theorem outage_setField (db : Database) (key field value : String) :
    (db.setField key field value).outage = db.outage := rfl

theorem hash_setField (db : Database) (key field value k : String) :
    (db.setField key field value).hash k =
      if k = key then (db.hash key).insert field value else db.hash k := by
  unfold hash setField
  simp only [Std.TreeMap.getElem?_insert, Std.LawfulEqCmp.compare_eq_iff_eq, eq_comm (a := key)]
  split <;> simp [hash]

/-- Sets fields of an entry, one after the other. An entry without fields is stored with the field
`NULL`. -/
def putEntry (db : Database) (table key : String) (fields : Record) : Database :=
  let fullKey := db.kind.fullKey table key
  let fields := if fields.isEmpty then [("NULL", "NULL")] else fields
  fields.foldl (fun db (field, value) => db.setField fullKey field value) db

/-! ### Commands -/

def accept (db : Database) (command : Command) : Except StoreError Unit :=
  match db.outage with
  | some outage =>
    if outage.commands.contains command then
      .error (.command db.kind.name command.name outage.reason)
    else .ok ()
  | none => .ok ()

def hget (db : Database) (key field : String) : Except StoreError (Option String) := do
  db.accept .hget
  return (db.hash key)[field]?

/-- The fields of the hash under a full key, in the order of their names. -/
def hgetall (db : Database) (key : String) : Except StoreError Record := do
  db.accept .hgetall
  return (db.hash key).toList

def keys (db : Database) (pattern : String) : Except StoreError (List String) := do
  db.accept .keys
  return db.hashes.keys.filter (Text.Glob.fits pattern)

def publish (db : Database) (message : Message) : Except StoreError Database := do
  db.accept .publish
  return { db with published := db.published ++ [message] }

/-! ### Tables -/

def field (db : Database) (table key field : String) : Except StoreError (Option String) :=
  db.hget (db.kind.fullKey table key) field

def entry (db : Database) (table key : String) : Except StoreError Record :=
  db.hgetall (db.kind.fullKey table key)

/-- The keys of a table's entries, in the order of the full keys. -/
def entryKeys (db : Database) (table : String) : Except StoreError (List String) := do
  let stem := db.kind.fullKey table ""
  return (← db.keys (stem ++ "*")).filterMap (Text.after? stem)

def entries (db : Database) (table : String) : Except StoreError (Std.TreeMap String Record) := do
  let entries ← (← db.entryKeys table).mapM fun key => return (key, ← db.entry table key)
  return Std.TreeMap.ofList entries

end Database
end InterfaceReport
