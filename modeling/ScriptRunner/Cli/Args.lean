import ScriptRunner.Cli.Options
import ScriptRunner.Cli.Render
import ScriptRunner.Driver
import ScriptRunner.Timeout

namespace ScriptRunner.Cli

def anyText (_ : String) : Bool := true

def isPath (s : String) : Bool := !s.isEmpty

def millis? (s : String) : Option Nat := Text.signedDecimalBelow? Text.wordBound s.toList

namespace EnvPair

def split (s : List Char) : Option (List Char × List Char) :=
  match s.dropWhile (· != '=') with
  | [] => none
  | _ :: value =>
    match s.takeWhile (· != '=') with
    | [] => none
    | key => some (key, value)

def parse? (text : String) : Option (String × String) :=
  (split text.toList).map fun (k, v) => (String.ofList k, String.ofList v)

def error (text : String) : String := "expected KEY=VALUE, got '" ++ text ++ "'"

end EnvPair

structure RunArgs where
  command : List String
  cwd : Option String
  shell : Option String
  timeout : Option Nat
  env : List (String × String)
  redirectTo : Option String
  project : Option String
  interactive : Bool
  quiet : Bool
  deriving DecidableEq, Repr

namespace RunArgs

def helpRule : OptionRule := ⟨"help", some 'h', .refuse .help⟩

def rules : List OptionRule :=
  [⟨"cwd", some 'C', .single isPath⟩, ⟨"shell", none, .single anyText⟩,
    ⟨"timeout", none, .single fun s => (millis? s).isSome⟩,
    ⟨"env", some 'e', .repeated fun s => (EnvPair.parse? s).isSome⟩, ⟨"redirect-to", none, .single isPath⟩,
    ⟨"project", none, .single isPath⟩, ⟨"interactive", some 'i', .flag⟩, ⟨"quiet", some 'q', .flag⟩, helpRule]

def grammar : Grammar := ⟨rules, .command⟩

def ofFound (f : Found) : RunArgs :=
  { command := f.words
    cwd := f.value? "cwd"
    shell := f.value? "shell"
    timeout := (f.value? "timeout").bind millis?
    env := (f.values "env").filterMap EnvPair.parse?
    redirectTo := f.value? "redirect-to"
    project := f.value? "project"
    interactive := f.has "interactive"
    quiet := f.has "quiet" }

def accept (f : Found) : Except Refusal RunArgs := if f.words.isEmpty then .error .usage else .ok (ofFound f)

def parse (words : List String) : Except Refusal RunArgs := (grammar.read words).bind accept

def scriptArgs (a : RunArgs) : ScriptArgs :=
  ⟨{ command := " ".intercalate a.command
     cwd := a.cwd.getD "."
     timeout := Timeout.ofFlag a.timeout
     shell := a.shell
     env := .ofPairs a.env }, a.redirectTo⟩

def context {σ : Type} (a : RunArgs) (ui : Ui σ) : Context σ :=
  ⟨if a.interactive then some ui else none, !a.quiet, a.project⟩

end RunArgs

inductive Command where
  | run (args : RunArgs)
  | parse (file : Option String)
  | host (command : String)

structure CommandLine where
  config : Option String
  format : OutputFormat
  command : Command

namespace CommandLine

def globalRules : List OptionRule :=
  [⟨"config", none, .single isPath⟩, ⟨"output", some 'o', .single fun s => (OutputFormat.ofName? s).isSome⟩]

def grammar : Grammar :=
  ⟨globalRules ++ [RunArgs.helpRule, ⟨"version", some 'V', .refuse .version⟩],
    .subcommand ["run", "parse", "host", "help"]⟩

def runGrammar : Grammar := ⟨RunArgs.rules ++ globalRules, .command⟩

def parseGrammar : Grammar := ⟨RunArgs.helpRule :: globalRules, .one isPath⟩

def hostGrammar : Grammar := ⟨⟨"command", none, .single anyText⟩ :: RunArgs.helpRule :: globalRules, .none⟩

def readSubcommand (name : String) (words : List String) : Except Refusal (Command × Found) :=
  if name = "run" then do
    let f ← runGrammar.read words
    return (.run (← RunArgs.accept f), f)
  else if name = "parse" then do
    let f ← parseGrammar.read words
    return (.parse f.words.head?, f)
  else if name = "host" then do
    let f ← hostGrammar.read words
    return (.host ((f.value? "command").getD ""), f)
  else
    match words with
    | [] | ["run"] | ["parse"] | ["host"] | ["help"] => .error .help
    | _ => .error .usage

/-- A general option counts where it stands last, behind the subcommand rather than in front of it. -/
def parse (words : List String) : Except Refusal CommandLine := do
  let f ← grammar.read words
  match f.subcommand with
  | none => .error .usage
  | some (name, rest) =>
    let (command, g) ← readSubcommand name rest
    return ⟨g.value? "config" <|> f.value? "config",
      ((g.value? "output" <|> f.value? "output").bind OutputFormat.ofName?).getD .default, command⟩

end CommandLine

end ScriptRunner.Cli
