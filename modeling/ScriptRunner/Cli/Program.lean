import ScriptRunner.Cli.Args
import ScriptRunner.Cli.Console
import ScriptRunner.Cli.HostReport
import ScriptRunner.Config
import ScriptRunner.Posix.Machine

namespace ScriptRunner.Cli

open Posix

/-- The end of the program, with all that it has sent to its output streams. -/
structure Finished where
  code : Nat
  stdout : List Piece
  stderr : List Piece

namespace Finished

def ofText (code : Nat) (stdout stderr : String) : Finished :=
  ⟨code, [.own (utf8Bytes stdout)], [.own (utf8Bytes stderr)]⟩

def after (f : Finished) (stdout stderr : List Piece) : Finished := ⟨f.code, stdout ++ f.stdout, stderr ++ f.stderr⟩

end Finished

def version (hash : String) : String := "fx 0.2.0 (" ++ hash ++ ")\n"

def help : String :=
  "Run scripts and collect the values they print\n\nUsage: fx [OPTIONS] <COMMAND>\n\n" ++
    "Commands:\n  run    Run a command and print the values it sets\n" ++
    "  parse  Extract `::set-output` values from a file or stdin\n" ++
    "  host   Show the detected shell and output encoding\n"

def timeoutVariable : String := "FX_SCRIPT_TIMEOUT_MS"

def colors (m : Machine) : Bool :=
  (⟨m.envText? "NO_COLOR", m.envText? "COLOR"⟩ : ColorSettings).enabled false

def banner (colors : Bool) (message : String) : String :=
  if message.isEmpty then "" else Role.error.paint colors "error:" ++ " " ++ message ++ "\n"

def failed (colors : Bool) (message : String) : Finished :=
  .ofText ExitStatus.generalFailure "" (banner colors message)

def readConfig (path : Option String) (m : Machine) : Except LoadError Config :=
  match path with
  | none => .ok .default
  | some p => Config.load p (m.readText p)

def conclude (result : Except RunError Outputs) (format : OutputFormat) (colors : Bool) : Finished :=
  match result with
  | .ok outputs => .ofText 0 (renderOutputs outputs format) ""
  | .error e =>
    let document := match format, e.failure? with
      | .json, some f => renderFailure f
      | _, _ => ""
    let status := ExitStatus.ofError e
    .ofText status.code document (banner colors status.message)

def runScript {σ : Type} (sys : System σ) (ui : Ui σ) (x : Executor) (a : RunArgs) (format : OutputFormat)
    (colors : Bool) (s : σ) : Finished × σ :=
  let (report, s) := Driver.execute sys x (a.context ui) a.scriptArgs s
  let console : Console := ⟨a.quiet, colors⟩
  ((conclude report.result format colors).after (report.notices.flatMap Console.stdout)
    (report.notices.flatMap console.stderr), s)

def parseText (name : String) (text : Except String String) (format : OutputFormat) (colors : Bool) : Finished :=
  match text with
  | .ok t => .ofText 0 (renderOutputs (Outputs.parse t) format) ""
  | .error cause => failed colors ("failed to read " ++ name ++ ": " ++ cause)

def showHost (command : String) (config : Config) (format : OutputFormat) (m : Machine) : Finished × Machine :=
  let (report, _, after) :=
    Machine.host.answer (HostReport.inquire Machine.host.platform config.table command) m
  (.ofText 0 (report.render (colors m) format) "", after)

def awaitTerminal (f : Finished) (m : Machine) : Finished × Machine :=
  let (late, m) := m.settle
  let stderr := (⟨true, false⟩ : Console).stderr
  (⟨f.code, f.stdout ++ late.flatMap Console.stdout, f.stderr ++ late.flatMap stderr⟩, m)

/-- Does what the command line asks for. The output of children is read by decoders of the type. -/
def carryOut (δ : Type) [BufferedDecoder δ] (c : CommandLine) (m : Machine) : Finished × Machine :=
  match readConfig c.config m with
  | .error e => (failed (colors m) (e.message ++ ": " ++ e.cause), m)
  | .ok config =>
    match c.command with
    | .run a =>
      let executor := config.executor (m.envText? timeoutVariable)
      let (finished, after) := runScript (Machine.system δ) Machine.ui executor a c.format (colors m) m
      if a.interactive then awaitTerminal finished after else (finished, after)
    | .parse (some path) => (parseText path (m.readText path) c.format (colors m), m)
    | .parse none => (parseText "stdin" m.readInput c.format (colors m), m)
    | .host command => showHost command config c.format m

def run (δ : Type) [BufferedDecoder δ] (hash : String) (words : List String) (m : Machine) : Finished × Machine :=
  match CommandLine.parse words with
  | .error .usage => (.ofText 2 "" (banner (colors m) "unexpected arguments"), m)
  | .error .help => (.ofText 0 help "", m)
  | .error .version => (.ofText 0 (version hash) "", m)
  | .ok c => carryOut δ c m

end ScriptRunner.Cli
