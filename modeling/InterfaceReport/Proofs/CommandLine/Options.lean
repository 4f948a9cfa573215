import InterfaceReport.CommandLine.Tool
import InterfaceReport.Proofs.Steps
import Mathlib.Data.List.Nodup

/-! Command lines of long options. Such options are read back as they were written out, so that each
request to clear a watermark is read from some arguments; the tool then clears it as asked. -/

namespace InterfaceReport.CommandLine

open Steps

/-! ### Reading -/

theorem Opt.long_injective : Function.Injective Opt.long := by
  intro a b
  cases a <;> cases b <;> decide

theorem Opt.equals_not_mem_long (opt : Opt) : '=' ∉ opt.long.toList := by
  cases opt <;> decide

/-- The argument that gives an option under its long name. -/
def Given.write (g : Given) : String :=
  "--" ++ if g.opt.takesValue then g.opt.long ++ "=" ++ g.value else g.opt.long

/-- The option is known, and has no value unless it takes one. -/
structure Given.Writable (known : List Opt) (g : Given) : Prop where
  known : g.opt ∈ known
  value : g.opt.takesValue = false → g.value = ""

variable {known : List Opt} {allowed : Given → Bool} {seen : List Opt} {g : Given}
  {gs : List Given}

theorem options_write (h : g.Writable known) : options known g.write = ([g], .proceed) := by
  have hafter : ∀ text, Text.after? "--" ("--" ++ text) = some text := fun text =>
    Text.after?_eq_some_iff.2 rfl
  have hfind : known.find? (·.long == g.opt.long) = some g.opt :=
    find?_key h.known fun _ _ hlong => Opt.long_injective hlong
  rw [options, Given.write, hafter]
  cases htakes : g.opt.takesValue with
  | true =>
    have hcut : Text.cut? '=' (g.opt.long ++ "=" ++ g.value) = some (g.opt.long, g.value) :=
      Text.cut?_eq_some_iff.2 ⟨by simp, g.opt.equals_not_mem_long⟩
    simp only [if_true, longOption, hcut, hfind, htakes]
  | false =>
    have hcut : Text.cut? '=' g.opt.long = none := by
      rw [Option.eq_none_iff_forall_not_mem]
      rintro ⟨a, b⟩ hab
      have hlong := (Text.cut?_eq_some_iff.1 hab).1
      exact g.opt.equals_not_mem_long (by simp [hlong])
    simp only [Bool.false_eq_true, if_false, longOption, hcut, hfind, htakes,
      ← h.value htakes]

theorem write_ne_hyphens (g : Given) : g.write ≠ "--" := by
  intro h
  have hempty : (if g.opt.takesValue then g.opt.long ++ "=" ++ g.value else g.opt.long) = "" := by
    simpa [Given.write] using congrArg String.toList h
  revert hempty
  cases g.opt <;> simp [Opt.takesValue, Opt.long]

theorem scan_write (h : ∀ g ∈ gs, g.Writable known) :
    scan known (gs.map Given.write) = ⟨gs, .complete⟩ := by
  induction gs with
  | nil => rfl
  | cons g gs ih =>
    rw [List.forall_mem_cons] at h
    rw [List.map_cons, scan, if_neg (by simp [write_ne_hyphens g]), options_write h.1]
    simp only [ih h.2]
    rfl

/-- The option asks neither for the version nor for help, and its value is allowed. -/
structure Given.Admitted (allowed : Given → Bool) (g : Given) : Prop where
  version : g.opt ≠ .version
  help : g.opt ≠ .help
  allowed : allowed g

theorem check_cons_eq_ok_iff : check allowed seen (g :: gs) = .ok () ↔
    g.Admitted allowed ∧ g.opt ∉ seen ∧ check allowed (g.opt :: seen) gs = .ok () := by
  rw [check]
  split_ifs with hversion hhelp hbad
  · exact ⟨nofun, fun h => absurd hversion h.1.version⟩
  · exact ⟨nofun, fun h => absurd hhelp h.1.help⟩
  · refine ⟨nofun, ?_⟩
    rintro ⟨hadmitted, hseen, -⟩
    simp [hseen, hadmitted.allowed] at hbad
  · obtain ⟨hseen, hallowed⟩ : g.opt ∉ seen ∧ allowed g := by simpa using hbad
    exact ⟨fun h => ⟨⟨hversion, hhelp, hallowed⟩, hseen, h⟩, fun h => h.2.2⟩

/-- The options are in order if each is admitted and given once. -/
theorem check_eq_ok_iff : check allowed seen gs = .ok () ↔
    (∀ g ∈ gs, g.Admitted allowed) ∧ (gs.map (·.opt)).Disjoint seen ∧
      (gs.map (·.opt)).Nodup := by
  induction gs generalizing seen with
  | nil => simp [check]
  | cons g gs ih =>
    rw [check_cons_eq_ok_iff, ih, List.forall_mem_cons, List.map_cons, List.disjoint_cons_left,
      List.disjoint_cons_right, List.nodup_cons]
    tauto

theorem read_write (hwritable : ∀ g ∈ gs, g.Writable known)
    (hadmitted : ∀ g ∈ gs, g.Admitted allowed) (hnodup : (gs.map (·.opt)).Nodup) :
    read known allowed (gs.map Given.write) = .ok gs := by
  have hcheck : check allowed [] gs = .ok () :=
    check_eq_ok_iff.2 ⟨hadmitted, List.disjoint_nil_right _, hnodup⟩
  rw [read, scan_write hwritable]
  simp only [hcheck, ok_bind, if_true]
  rfl

theorem allowed_of_read {args : List String} (h : read known allowed args = .ok gs) (hg : g ∈ gs) :
    allowed g := by
  obtain ⟨_, hcheck, hfinish⟩ := bind_eq_ok_iff.1 h
  split at hfinish
  · cases hfinish
    exact ((check_eq_ok_iff.1 hcheck).1 g hg).allowed
  · cases hfinish

theorem mem_of_value?_eq_some {opt : Opt} {value : String} (h : value? gs opt = some value) :
    ⟨opt, value⟩ ∈ gs := by
  obtain ⟨g, hg, rfl⟩ := Option.map_eq_some_iff.1 h
  obtain rfl : g.opt = opt := by simpa using List.find?_some hg
  exact List.mem_of_find?_eq_some hg

/-! ### Requests -/

namespace ClearArgs

/-- The options that give the arguments. -/
def given (a : ClearArgs) : List Given :=
  ⟨.clear, a.watermark.group.name⟩ :: (if a.watermark.persistent then [⟨.persistent, ""⟩] else []) ++
    (a.ns.map (⟨.ns, ·⟩)).toList ++ (a.settings.map (⟨.settings, ·⟩)).toList

variable {a : ClearArgs}

theorem mem_given (h : g ∈ a.given) :
    g = ⟨.clear, a.watermark.group.name⟩ ∨ g = ⟨.persistent, ""⟩ ∨ (∃ ns, g = ⟨.ns, ns⟩) ∨
      ∃ path, a.settings = some path ∧ g = ⟨.settings, path⟩ := by
  obtain ⟨⟨group, persistent⟩, ns, settings⟩ := a
  cases persistent <;> cases ns <;> cases settings <;> simp [given] at h ⊢ <;> tauto

theorem nodup_given (a : ClearArgs) : (a.given.map (·.opt)).Nodup := by
  obtain ⟨⟨group, persistent⟩, ns, settings⟩ := a
  cases persistent <;> cases ns <;> cases settings <;> simp [given]

theorem parse_write (h : a.settings ≠ some "") : parse (a.given.map Given.write) = .ok a := by
  have hwritable : ∀ g ∈ a.given, g.Writable known := by
    intro g hg
    rcases mem_given hg with rfl | rfl | ⟨ns, rfl⟩ | ⟨path, -, rfl⟩ <;>
      exact ⟨by simp [known], by simp [Opt.takesValue]⟩
  have hadmitted : ∀ g ∈ a.given, g.Admitted isAllowed := by
    intro g hg
    rcases mem_given hg with rfl | rfl | ⟨ns, rfl⟩ | ⟨path, hpath, rfl⟩
    · exact ⟨nofun, nofun, by simp [isAllowed, WatermarkGroup.ofName?_name]⟩
    · exact ⟨nofun, nofun, rfl⟩
    · exact ⟨nofun, nofun, rfl⟩
    · rw [hpath] at h
      exact ⟨nofun, nofun, by simpa [isAllowed] using h⟩
  rw [parse, read_write hwritable hadmitted a.nodup_given]
  obtain ⟨⟨group, persistent⟩, ns, settings⟩ := a
  cases persistent <;> cases ns <;> cases settings <;>
    simp [given, value?, WatermarkGroup.ofName?_name]

/-- Every request is read from some arguments, as long as a settings file that is named has a
name. -/
theorem exists_parse_iff {a : ClearArgs} :
    (∃ args, parse args = .ok a) ↔ a.settings ≠ some "" := by
  constructor
  · rintro ⟨args, h⟩ hsettings
    obtain ⟨gs, hread, hgs⟩ := bind_eq_ok_iff.1 h
    split at hgs
    · cases hgs
    · cases hgs
      exact absurd (allowed_of_read hread (mem_of_value?_eq_some hsettings)) (by decide)
  · exact fun h => ⟨_, parse_write h⟩

end ClearArgs

/-! ### The tool -/

theorem published_of_loadSettings_eq_error {ε : Type} {file : String → SettingsFile}
    {path : Option String} {outcome : Outcome ε} (h : loadSettings file path = .error outcome) :
    outcome.published = [] := by
  unfold loadSettings at h
  simp only [orFail, mapError_error] at h
  split at h
  · cases h
  · split at h
    · cases h
    · cases h
      rfl
  · cases h
    rfl

/-- The tool clears the watermark asked for under the settings of the file, or it publishes nothing
as the arguments or the file cannot be read. -/
theorem run_watermarks (servers : List Server) (file : String → SettingsFile)
    (args : List String) : let outcome := Tool.watermarks.run servers file args
    (∃ a s, ClearArgs.parse args = .ok a ∧
      loadSettings (ε := Endpoint) file a.settings = .ok s ∧
      outcome = clearing s (fun _ => (Server.network servers).client) a.ns a.watermark) ∨
    outcome.published = [] ∧ ∀ a, ClearArgs.parse args = .ok a →
      ∀ s, loadSettings (ε := Endpoint) file a.settings ≠ .ok s := by
  intro outcome
  have houtcome : outcome =
      .of (clearWatermarks (Server.network servers).client file args) := rfl
  rw [houtcome, clearWatermarks]
  cases hparse : ClearArgs.parse args with
  | error refusal =>
    right
    refine ⟨?_, by simp⟩
    cases refusal <;> rfl
  | ok a =>
    cases hload : loadSettings (ε := Endpoint) file a.settings with
    | error refused =>
      right
      simp only [mapError_ok, ok_bind, hload, error_bind, Except.ok.injEq]
      refine ⟨published_of_loadSettings_eq_error hload, ?_⟩
      rintro _ rfl s
      simp [hload]
    | ok s =>
      left
      simp only [mapError_ok, ok_bind, hload]
      exact ⟨a, s, rfl, hload, rfl⟩

end InterfaceReport.CommandLine
