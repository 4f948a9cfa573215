import InterfaceReport.CommandLine.Options
import InterfaceReport.CommandLine.Outcome
import InterfaceReport.Report.Basic
import InterfaceReport.Server
import InterfaceReport.Settings.Decode

/-! The two tools: one reports interfaces, the other clears watermarks. What they do is a function
of their arguments, the settings file and the servers. -/

namespace InterfaceReport.CommandLine

/-- The tools. -/
inductive Tool where
  | interfaces
  | watermarks
deriving DecidableEq

namespace Tool

def name : Tool → String
  | .interfaces => "intfutil"
  | .watermarks => "watermarkstat"

def versionText (tool : Tool) : String := s!"{tool.name} 0.1.0\n"

def helpText (tool : Tool) : String :=
  match tool with
  | .interfaces =>
    s!"Usage: {tool.name} [-c REPORT] [-i INTERFACES] [-n NAMESPACE] [-d all|frontend] " ++
      "[--config FILE] [-l LEVEL]\n"
  | .watermarks =>
    s!"Usage: {tool.name} -c GROUP [-p] [-n NAMESPACE] [--config FILE] [-l LEVEL]\n"

end Tool

/-- What reading the settings file comes to. -/
inductive SettingsFile where
  | missing
  | content (document : String)
  | unreadable (reason : String)
deriving DecidableEq

variable {ε : Type}

namespace Outcome

/-- The end of a tool that does not get to its work. -/
def refused (tool : Tool) : Refusal → Outcome ε
  | .misused => ⟨2, "", none, []⟩
  | .version => ⟨0, tool.versionText, some "", []⟩
  | .help => ⟨0, tool.helpText, some "", []⟩

/-- The end after a settings file that describes no settings. The message stays open behind the
file's name. -/
def malformedSettings (path : String) : Outcome ε :=
  ⟨1, "", some s!"Error: Configuration error: Failed to parse config file {path}", []⟩

end Outcome

/-- Where the settings are unless an argument tells. -/
def defaultPath : String := "/etc/sonic/intfutil.toml"

/-- A result whose error ends the tool. -/
def orFail {α : Type} (r : Except Error α) : Except (Outcome ε) α :=
  r.mapError fun e => .failed e.messages

/-- The settings. A file that is missing leaves them as they are without one. -/
def loadSettings (file : String → SettingsFile) (path : Option String) :
    Except (Outcome ε) Settings :=
  let path := path.getD defaultPath
  match file path with
  | .missing => .ok .standard
  | .content document =>
    match Settings.ofText? document with
    | some settings => .ok settings
    | none => .error (.malformedSettings path)
  | .unreadable reason => orFail (.error (.config s!"Failed to read {path}: {reason}"))

/-- Reports interfaces. A report that lacks a namespace is printed and counts as a failure. -/
def reportInterfaces (client : Client ε) (file : String → SettingsFile)
    (args : List String) : Except (Outcome ε) (Outcome ε) := do
  let args ← (ReportArgs.parse args).mapError (.refused .interfaces)
  let settings ← loadSettings file args.settings
  let namespaces ← orFail (settings.visited args.ns)
  let query ← orFail (Query.parse args.kind args.selection)
  let hides := (args.display.getD settings.displayMode).hides
  let platform : Platform := ⟨settings.connectStores client, settings.copperPorts⟩
  match platform.run query hides namespaces with
  | .ok report => return ⟨if report.isComplete then 0 else 1, report.render, some "", []⟩
  | .error .speedOverflow => throw ⟨101, "", some (Error.speedOverflow.message ++ "\n"), []⟩
  | .error e => throw (.failed (s!"Failed to build the {args.kind.name} report" :: e.messages))

/-- Clears a watermark as the arguments and the settings file ask. -/
def clearWatermarks (client : Client ε) (file : String → SettingsFile) (args : List String) :
    Except (Outcome ε) (Outcome ε) := do
  let args ← (ClearArgs.parse args).mapError (.refused .watermarks)
  let settings ← loadSettings file args.settings
  return clearing settings (fun _ => client) args.ns args.watermark

/-- The end of a tool, whether it got to the end of its work or not. -/
def Outcome.of : Except (Outcome ε) (Outcome ε) → Outcome ε
  | .ok outcome | .error outcome => outcome

def Tool.run (tool : Tool) (servers : List Server) (file : String → SettingsFile)
    (args : List String) : Outcome Endpoint :=
  let client := Network.client (Server.network servers)
  .of <| match tool with
    | .interfaces => reportInterfaces client file args
    | .watermarks => clearWatermarks client file args

end InterfaceReport.CommandLine
