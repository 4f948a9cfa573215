import InterfaceReport.CommandLine.Snapshot
import InterfaceReport.CommandLine.Tool

/-! The command line of both tools. The first argument names the tool; the servers come as a
snapshot on standard input, and requests that are published are printed behind the tool's own
output. -/

namespace InterfaceReport.CommandLine

def readSettingsFile (path : String) : IO SettingsFile := do
  try
    match String.fromUTF8? (← IO.FS.readBinFile path) with
    | some document => return .content document
    | none => return .unreadable "stream did not contain valid UTF-8"
  catch
    | .noFileOrDirectory .. => return .missing
    | e => return .unreadable (toString e)

def report (tool : Tool) (outcome : Outcome Endpoint) : IO UInt32 := do
  (← IO.getStdout).putStr outcome.output
  for p in outcome.published do
    IO.println s!"{p.endpoint.port} {p.endpoint.number} {p.message.channel} {p.message.payload}"
  (← IO.getStderr).putStr (outcome.errors.getD tool.helpText)
  return outcome.status.toUInt32

end InterfaceReport.CommandLine

open InterfaceReport.CommandLine in
def main (args : List String) : IO UInt32 := do
  match args with
  | name :: args =>
    match [Tool.interfaces, .watermarks].find? (·.name == name) with
    | some tool =>
      let path := (value? (scan (ReportArgs.known ++ ClearArgs.known) args).given .settings).getD
        defaultPath
      let file ← readSettingsFile path
      let servers := serversOf (← (← IO.getStdin).readToEnd)
      report tool (tool.run servers (fun _ => file) args)
    | none =>
      IO.eprintln s!"There is no tool {name}."
      return 2
  | [] =>
    IO.eprint (Tool.interfaces.helpText ++ Tool.watermarks.helpText)
    return 2
