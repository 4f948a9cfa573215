import InterfaceReport.Report.Display
import InterfaceReport.Report.Query
import InterfaceReport.Text.Pieces
import InterfaceReport.Watermark

/-! Command lines. An option has a long name and mostly a short one; its value stands in the
argument itself or in the next one. Each option is given at most once, and there are no other
arguments. -/

namespace InterfaceReport.CommandLine

/-- The options of both tools. -/
inductive Opt where
  | command
  | interface
  | ns
  | display
  | settings
  | logLevel
  | clear
  | persistent
  | version
  | help
deriving DecidableEq

namespace Opt

def long : Opt → String
  | .command => "command"
  | .interface => "interface"
  | .ns => "namespace"
  | .display => "display"
  | .settings => "config"
  | .logLevel => "log-level"
  | .clear => "clear"
  | .persistent => "persistent"
  | .version => "version"
  | .help => "help"

/-- The character after one hyphen. No tool has two options of one character. -/
def short? : Opt → Option Char
  | .command => some 'c'
  | .interface => some 'i'
  | .ns => some 'n'
  | .display => some 'd'
  | .settings => none
  | .logLevel => some 'l'
  | .clear => some 'c'
  | .persistent => some 'p'
  | .version => some 'V'
  | .help => some 'h'

def takesValue : Opt → Bool
  | .persistent | .version | .help => false
  | _ => true

end Opt

/-- An option that was given, with the value it takes. -/
structure Given where
  opt : Opt
  value : String
deriving DecidableEq

/-- How the reading of arguments ends. -/
inductive End where
  | complete
  /-- An argument that is not understood. -/
  | misused
deriving DecidableEq

/-- What arguments come to: the options given, up to the end or to the first argument that is not
understood. -/
structure Scan where
  given : List Given
  finish : End
deriving DecidableEq

namespace Scan

def cons (g : Given) (s : Scan) : Scan := { s with given := g :: s.given }

/-- Nothing is understood from here on. -/
def stop : Scan := ⟨[], .misused⟩

end Scan

/-- Something that is not an option, so that it can be the value of the option before it. -/
def isOperand (arg : String) : Bool := arg == "-" || !Text.beginsWith "-" arg

/-- What is left to do after the options of one argument. -/
inductive Next where
  /-- Go on with the next argument. -/
  | proceed
  /-- The next argument is the value of an option. -/
  | valueOf (opt : Opt)
  /-- The argument is not understood from here on. -/
  | unknown
deriving DecidableEq

/-- An argument of one hyphen: short options without values, and at most one with a value at the
end, which may follow an equals sign or be missing. -/
def cluster (known : List Opt) : List Char → List Given × Next
  | [] => ([], .proceed)
  | c :: cs =>
    match known.find? (·.short? == some c) with
    | none => ([], .unknown)
    | some opt =>
      if opt.takesValue then
        match cs with
        | [] => ([], .valueOf opt)
        | '=' :: value => ([⟨opt, String.ofList value⟩], .proceed)
        | value => ([⟨opt, String.ofList value⟩], .proceed)
      else
        let (given, next) := cluster known cs
        (⟨opt, ""⟩ :: given, next)

/-- An argument of two hyphens: an option, with its value after an equals sign or missing. -/
def longOption (known : List Opt) (text : String) : List Given × Next :=
  let (name, value) := match Text.cut? '=' text with
    | some (name, value) => (name, some value)
    | none => (text, none)
  match known.find? (·.long == name) with
  | none => ([], .unknown)
  | some opt =>
    match opt.takesValue, value with
    | true, some value => ([⟨opt, value⟩], .proceed)
    | true, none => ([], .valueOf opt)
    | false, none => ([⟨opt, ""⟩], .proceed)
    | false, some _ => ([], .unknown)

def options (known : List Opt) (arg : String) : List Given × Next :=
  match Text.after? "--" arg with
  | some text => longOption known text
  | none => if isOperand arg then ([], .unknown) else cluster known (arg.toList.drop 1)

/-- Reads arguments in order. Two hyphens alone end the options, and nothing may follow them. -/
def scan (known : List Opt) : List String → Scan
  | [] => ⟨[], .complete⟩
  | arg :: rest =>
    if arg == "--" then (if rest.isEmpty then ⟨[], .complete⟩ else .stop)
    else
      match options known arg with
      | (given, .proceed) => given.foldr Scan.cons (scan known rest)
      | (given, .unknown) => given.foldr Scan.cons .stop
      | (given, .valueOf opt) =>
        match rest with
        | [] => given.foldr Scan.cons .stop
        | value :: rest =>
          given.foldr Scan.cons
            (if isOperand value then (scan known rest).cons ⟨opt, value⟩ else .stop)

/-! ### The tools -/

/-- Why a tool does not get to its work. -/
inductive Refusal where
  | misused
  | version
  | help
deriving DecidableEq

/-- Goes through the options in order. The first that asks for the version or for help, that is
given for the second time, or whose value is not allowed, decides. -/
def check (allowed : Given → Bool) (seen : List Opt) : List Given → Except Refusal Unit
  | [] => .ok ()
  | g :: rest =>
    if g.opt = .version then .error .version
    else if g.opt = .help then .error .help
    else if seen.contains g.opt || !allowed g then .error .misused
    else check allowed (g.opt :: seen) rest

/-- The options that arguments give, if every one is in order. -/
def read (known : List Opt) (allowed : Given → Bool) (args : List String) :
    Except Refusal (List Given) := do
  let s := scan known args
  check allowed [] s.given
  if s.finish = .complete then return s.given else throw .misused

def value? (given : List Given) (opt : Opt) : Option String :=
  (given.find? (·.opt = opt)).map (·.value)

def isAllowed (g : Given) : Bool :=
  match g.opt with
  | .command => (ReportKind.ofName? g.value).isSome
  | .display => (DisplayMode.ofName? g.value).isSome
  | .clear => (WatermarkGroup.ofName? g.value).isSome
  | .settings => !g.value.isEmpty
  | _ => true

/-- The arguments of the tool that reports interfaces. -/
structure ReportArgs where
  kind : ReportKind
  selection : Option String
  ns : Option String
  display : Option DisplayMode
  settings : Option String
deriving DecidableEq

namespace ReportArgs

def known : List Opt :=
  [.command, .interface, .ns, .display, .settings, .logLevel, .version, .help]

/-- Without another command the status is reported. -/
def parse (args : List String) : Except Refusal ReportArgs := do
  let given ← read known isAllowed args
  return {
    kind := ((value? given .command).bind ReportKind.ofName?).getD .status
    selection := value? given .interface
    ns := value? given .ns
    display := (value? given .display).bind DisplayMode.ofName?
    settings := value? given .settings }

end ReportArgs

/-- The arguments of the tool that clears watermarks. -/
structure ClearArgs where
  watermark : Watermark
  ns : Option String
  settings : Option String
deriving DecidableEq

namespace ClearArgs

def known : List Opt := [.clear, .persistent, .ns, .settings, .logLevel, .version, .help]

/-- A group must be given. -/
def parse (args : List String) : Except Refusal ClearArgs := do
  let given ← read known isAllowed args
  match (value? given .clear).bind WatermarkGroup.ofName? with
  | none => throw .misused
  | some group =>
    return {
      watermark := ⟨group, (value? given .persistent).isSome⟩
      ns := value? given .ns
      settings := value? given .settings }

end ClearArgs
end InterfaceReport.CommandLine
