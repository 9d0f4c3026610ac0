import ScriptRunner.Posix.Sh.Eval
import ScriptRunner.Posix.Tools

namespace ScriptRunner.Posix.Programs

open Act

def shells : List String := ["sh", "dash", "bash"]

def becomeFound (start : Sh.Starter) (environment : List Octets) (program : Octets) (argv : List Octets) :
    Act Nat := do
  let searchPath := (Tools.valueOf? environment "PATH").getD FileTree.defaultSearchPath
  let rec go : List Octets → Errno → Act Nat
    | [], e => do
      Tools.complain "setsid" ("failed to execute " ++ program ++ ": " ++ e.text)
      return if e = .noEntry then 127 else 126
    | path :: paths, e => do
      match ← call (.load path argv) with
      | .ok image =>
        call (.become path)
        Act.become (start image.program image.argv environment)
      | .error .denied => go paths .denied
      | .error _ => go paths e
  go (FileTree.candidates searchPath program) .noEntry

/-- Starts a program in a session of its own. A process that leads its group leaves that to a child. -/
def setsid (start : Sh.Starter) (environment : List Octets) (args : List Octets) : Act Nat := do
  match args with
  | [] =>
    Tools.complain "setsid" "no command specified\nTry 'setsid --help' for more information."
    return 1
  | program :: _ =>
    match ← call .newSession with
    | .ok () => becomeFound start environment program args
    | .error _ =>
      discard (Act.fork (Act.run do
        discard (call .newSession)
        becomeFound start environment program args))
      return 0

def start : Nat → Sh.Starter
  | 0, _, _, _ => .exit 126
  | n + 1, name, argv, environment =>
    if shells.contains name then Sh.run (start n) argv environment
    else if name == "setsid" then Act.run (setsid (start n) environment (argv.drop 1))
    else
      match (Tools.table environment).lookup name with
      | some tool => Act.run (tool (argv.drop 1))
      | none => .exit 127

def depth : Nat := 10000

def names : List String := shells ++ "setsid" :: (Tools.table []).map Prod.fst

def files : FileTree := .plain names

end ScriptRunner.Posix.Programs
