import InterfaceReport.Catalog.Basic
import InterfaceReport.Proofs.NaturalOrder
import InterfaceReport.Proofs.Steps
import Mathlib.Data.List.Nodup

/-! The keys of a table: each is listed once, and the catalog lists the ports, LAGs and
sub-interfaces that they write. -/

namespace InterfaceReport

open Steps

namespace Database

/-- `key` is one of the keys that the database lists for a table. -/
def Lists (db : Database) (table key : String) : Prop :=
  ∃ keys, db.entryKeys table = .ok keys ∧ key ∈ keys

variable {db : Database} {table : String} {keys : List String}

theorem lists_iff (h : db.entryKeys table = .ok keys) (key : String) :
    db.Lists table key ↔ key ∈ keys := by
  constructor
  · rintro ⟨keys', hkeys', hkey⟩
    rw [h] at hkeys'
    cases hkeys'
    exact hkey
  · intro hkey
    exact ⟨keys, h, hkey⟩

/-- Full keys are stored once, and a key is what is left of a full key. -/
theorem nodup_entryKeys (h : db.entryKeys table = .ok keys) : keys.Nodup := by
  obtain ⟨fullKeys, hfull, hkeys⟩ := bind_eq_ok_iff.1 h
  obtain ⟨_, -, hfull⟩ := bind_eq_ok_iff.1 hfull
  cases hfull
  cases hkeys
  refine List.Nodup.filterMap ?_ (List.Nodup.filter _ db.hashes.nodup_keys)
  intro a a' key ha ha'
  rw [Option.mem_def, Text.after?_eq_some_iff] at ha ha'
  rw [ha, ha']

theorem map_fst_of_mapM_entry {pairs : List (String × Record)}
    (h : (keys.mapM fun key => do return (key, ← db.entry table key)) = .ok pairs) :
    pairs.map Prod.fst = keys := by
  have hall := mapM_eq_ok_iff.1 h
  clear h
  induction hall with
  | nil => rfl
  | cons hpair _ ih =>
    obtain ⟨_, -, hpair⟩ := bind_eq_ok_iff.1 hpair
    cases hpair
    rw [List.map_cons, ih]

theorem mem_entries_iff {entries : Std.TreeMap String Record}
    (h : db.entries table = .ok entries) (key : String) :
    key ∈ entries ↔ db.Lists table key := by
  obtain ⟨keys, hkeys, h⟩ := bind_eq_ok_iff.1 h
  obtain ⟨pairs, hpairs, h⟩ := bind_eq_ok_iff.1 h
  cases h
  rw [lists_iff hkeys, ← map_fst_of_mapM_entry hpairs, Std.TreeMap.mem_ofList,
    List.contains_iff_mem]

end Database

namespace Tables

theorem read_eq_ok_iff {config : Database} {tables : Tables} :
    Tables.read config = .ok tables ↔
      config.entries Schema.portConfig = .ok tables.ports ∧
      config.entries Schema.lagConfig = .ok tables.lags ∧
      config.entryKeys Schema.lagMembers = .ok tables.lagMemberKeys ∧
      config.entryKeys Schema.vlanMembers = .ok tables.vlanMemberKeys ∧
      config.entryKeys Schema.subInterfaces = .ok tables.subInterfaceKeys := by
  simp only [read, bind_eq_ok_iff, pure_eq_ok, Except.ok.injEq]
  constructor
  · rintro ⟨_, hports, _, hlags, _, hmembers, _, hvlans, _, hsubs, rfl⟩
    exact ⟨hports, hlags, hmembers, hvlans, hsubs⟩
  · rintro ⟨hports, hlags, hmembers, hvlans, hsubs⟩
    exact ⟨_, hports, _, hlags, _, hmembers, _, hvlans, _, hsubs, rfl⟩

end Tables

namespace Catalog

theorem nodup_eraseDups (names : List String) : names.eraseDups.Nodup := by
  match names with
  | [] => exact List.nodup_nil
  | name :: rest =>
    have hrest : (rest.filter fun other => !other == name).length < rest.length + 1 :=
      Nat.lt_succ_of_le (List.length_filter_le ..)
    rw [List.eraseDups_cons, List.nodup_cons]
    exact ⟨by simp, nodup_eraseDups _⟩
termination_by names.length

variable {config : Database} {tables : Tables}

theorem portNames_listing (h : Tables.read config = .ok tables) :
    NaturalListing (config.Lists Schema.portConfig) (ofTables tables).portNames := by
  obtain ⟨hports, -⟩ := Tables.read_eq_ok_iff.1 h
  refine (NaturalListing.of_nodup tables.ports.nodup_keys).congr fun name => ?_
  rw [Std.TreeMap.mem_keys, Database.mem_entries_iff hports]

/-- The LAGs are those of the catalog. -/
theorem lagNames_listing (c : Catalog) : NaturalListing (c.isLag ·) c.lagNames := by
  refine (NaturalListing.of_nodup (nodup_eraseDups _)).congr fun name => ?_
  rw [List.mem_eraseDups, List.mem_append, Std.TreeMap.mem_keys, isLag, Bool.or_eq_true,
    Std.TreeMap.contains_iff_mem, List.any_eq_true]
  simp

theorem subInterfaces_listing (h : Tables.read config = .ok tables) :
    NaturalListing (fun name => config.Lists Schema.subInterfaces name ∧ '|' ∉ name.toList)
      (ofTables tables).subInterfaces := by
  obtain ⟨-, -, -, -, hsubs⟩ := Tables.read_eq_ok_iff.1 h
  have hnodup : (tables.subInterfaceKeys.filter (!Text.has '|' ·)).Nodup :=
    (Database.nodup_entryKeys hsubs).filter _
  refine (NaturalListing.of_nodup hnodup).congr fun name => ?_
  rw [List.mem_filter, Database.lists_iff hsubs, Bool.not_eq_true', ← Bool.not_eq_true,
    Text.has_iff]

end Catalog

end InterfaceReport
