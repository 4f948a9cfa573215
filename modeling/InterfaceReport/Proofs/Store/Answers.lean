import InterfaceReport.Proofs.Store.Listing

/-! What the tables of a database are made from: the answers to the two commands that list keys and
read whole hashes. A server may answer either in any order. -/

namespace InterfaceReport

open Steps

/-- The answers of a server: the full keys that fit a pattern, and the fields of a hash. -/
structure Answers where
  keys : String → List String
  hgetall : String → Record

namespace Answers

variable (a : Answers) (kind : DatabaseKind) (table : String)

/-- The keys of a table's entries, in the order in which the server lists their full keys. -/
def entryKeys : List String :=
  (a.keys (kind.fullKey table "" ++ "*")).filterMap (Text.after? (kind.fullKey table ""))

def entry (key : String) : Record := a.hgetall (kind.fullKey table key)

def entries : Std.TreeMap String Record :=
  Std.TreeMap.ofList ((a.entryKeys kind table).map fun key => (key, a.entry kind table key))

/-- The tables of a configuration. -/
def tables : Tables where
  ports := a.entries kind Schema.portConfig
  lags := a.entries kind Schema.lagConfig
  lagMemberKeys := a.entryKeys kind Schema.lagMembers
  vlanMemberKeys := a.entryKeys kind Schema.vlanMembers
  subInterfaceKeys := a.entryKeys kind Schema.subInterfaces

variable {a kind table}

theorem mem_entries {key : String} :
    key ∈ a.entries kind table ↔ key ∈ a.entryKeys kind table := by
  rw [entries, Std.TreeMap.mem_ofList, List.map_map, List.contains_iff_mem]
  exact iff_of_eq (congrArg (key ∈ ·) (List.map_id _))

theorem getElem?_entries (nodup : (a.entryKeys kind table).Nodup) {key : String}
    (hkey : key ∈ a.entryKeys kind table) :
    (a.entries kind table)[key]? = some (a.entry kind table key) := by
  have hself : compare key key = .eq := Std.LawfulEqCmp.compare_eq_iff_eq.2 rfl
  apply Std.TreeMap.getElem?_ofList_of_mem hself
  · rw [List.pairwise_map]
    exact nodup.imp fun hne heq => hne (Std.LawfulEqCmp.eq_of_compare heq)
  · exact List.mem_map.2 ⟨key, hkey, rfl⟩

end Answers

namespace Database

/-- What the database answers, with keys and fields in order. -/
def answers (db : Database) : Answers where
  keys pattern := db.hashes.keys.filter (Text.Glob.fits pattern)
  hgetall key := (db.hash key).toList

variable {db : Database} (available : db.outage = none)
include available

theorem accept_of_available (command : Command) : db.accept command = .ok () := by
  rw [accept, available]

theorem entryKeys_eq (table : String) :
    db.entryKeys table = .ok (db.answers.entryKeys db.kind table) := by
  rw [entryKeys, keys, accept_of_available available]
  rfl

theorem entry_eq (table key : String) :
    db.entry table key = .ok (db.answers.entry db.kind table key) := by
  rw [entry, hgetall, accept_of_available available]
  rfl

theorem entries_eq (table : String) :
    db.entries table = .ok (db.answers.entries db.kind table) := by
  simp only [entries, entryKeys_eq available, entry_eq available, ok_bind]
  rw [List.mapM_pure]
  rfl

theorem nodup_answers (table : String) : (db.answers.entryKeys db.kind table).Nodup :=
  nodup_entryKeys (entryKeys_eq available table)

theorem read_eq : Tables.read db = .ok (db.answers.tables db.kind) := by
  rw [Tables.read_eq_ok_iff]
  exact ⟨entries_eq available _, entries_eq available _, entryKeys_eq available _,
    entryKeys_eq available _, entryKeys_eq available _⟩

end Database
end InterfaceReport
