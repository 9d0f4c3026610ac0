import ScriptRunner.Posix.Machine

namespace ScriptRunner.BuildStamp

open Posix

def variableName : String := "FX_BUILD_HASH"

def ask (args : List String) (m : Machine) : Option String × Machine :=
  let (result, m) := m.capture "git" args none
  let text := match result with
    | .ok (some (.exited 0), out) => ((utf8Strict? out).map Text.trim).filter (!·.isEmpty)
    | _ => none
  (text, m)

/-- The mark: what the variable says, else the current revision, else that it is unknown. -/
def mark (m : Machine) : String × Machine :=
  match (m.envText? variableName).filter (!·.isEmpty) with
  | some text => (text, m)
  | none =>
    let (revision, m) := ask ["rev-parse", "--short", "HEAD"] m
    (revision.getD "unknown", m)

def directives (m : Machine) : String × Machine :=
  let (text, m) := mark m
  let (dir, m) := ask ["rev-parse", "--git-dir"] m
  let head := match dir with
    | some d => "cargo:rerun-if-changed=" ++ d ++ "/HEAD\n"
    | none => ""
  ("cargo:rerun-if-env-changed=" ++ variableName ++ "\ncargo:rustc-env=" ++ variableName ++ "=" ++ text ++ "\n" ++
    head, m)

end ScriptRunner.BuildStamp
