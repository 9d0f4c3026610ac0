import ScriptRunner.Host
import ScriptRunner.Shell.Flavor

namespace ScriptRunner

namespace Shell

def macosCandidates : List String := ["/bin/zsh", "/bin/bash"]

def posixFallback : String := "/bin/sh"

/-- The interpreter of Windows when its variable is unset. It is not probed. -/
def windowsFallback : String := "cmd.exe"

def firstExisting : List String → Inquiry (Option String)
  | [] => .done none
  | c :: cs => .path c fun found => if found then .done (some c) else firstExisting cs

def resolve (platform : Platform) : Inquiry (Option String) :=
  .env "SHELL" fun
    | some shell => .done (some shell)
    | none =>
      match platform with
      | .macos => firstExisting macosCandidates
      | .windows => .env "ComSpec" fun v => .done (some (v.getD windowsFallback))
      | .linux | .other => firstExisting [posixFallback]

def platformDefault : Platform → String
  | .windows => windowsFallback
  | _ => posixFallback

end Shell

/-- A command line. `verbatim` asks that the arguments reach the program unquoted. -/
structure Invocation where
  program : String
  args : List String
  verbatim : Bool
  deriving DecidableEq, Repr

namespace Invocation

def of (shell : Option String) (command : String) (platform : Platform) : Invocation :=
  let program := shell.getD (Shell.platformDefault platform)
  match ShellFlavor.of program with
  | .cmd => ⟨program, ["/d", "/s", "/c", "\"" ++ command ++ "\""], true⟩
  | .powershell => ⟨program, ["-NoProfile", "-NonInteractive", "-Command", command], false⟩
  | .posix => ⟨program, ["-c", command], false⟩

end Invocation

end ScriptRunner
