import ScriptRunner.Text.Blank

namespace ScriptRunner

inductive FailureKind where
  | timeout
  | nonZeroExit
  | spawnFailure
  | userCancelled
  deriving DecidableEq, Repr

namespace FailureKind

def text : FailureKind → String
  | .timeout => "timeout"
  | .nonZeroExit => "non-zero exit"
  | .spawnFailure => "spawn failure"
  | .userCancelled => "user cancelled"

def tag : FailureKind → String
  | .timeout => "timeout"
  | .nonZeroExit => "non_zero_exit"
  | .spawnFailure => "spawn_failure"
  | .userCancelled => "user_cancelled"

def all : List FailureKind := [.timeout, .nonZeroExit, .spawnFailure, .userCancelled]

def ofTag? (tag : String) : Option FailureKind := all.find? (·.tag == tag)

end FailureKind

structure ExitInfo where
  code : Option Int32
  signal : Option Int32
  killed : Bool
  spawnError : Option String
  deriving DecidableEq, Repr

namespace ExitInfo

def unknown : ExitInfo := ⟨none, none, false, none⟩

def exited (code : Int32) : ExitInfo := ⟨some code, none, false, none⟩

def signalled (signal : Int32) : ExitInfo := ⟨none, some signal, false, none⟩

def timedOut : ExitInfo := ⟨none, none, true, none⟩

def spawnFailed (error : String) : ExitInfo := ⟨none, none, false, some error⟩

def success (e : ExitInfo) : Bool := e.code == some 0 && !e.killed && e.spawnError.isNone

def kind (e : ExitInfo) : FailureKind :=
  if e.killed then .timeout else if e.spawnError.isSome then .spawnFailure else .nonZeroExit

def placeholder (e : ExitInfo) : String :=
  match e.signal, e.code with
  | some signal, _ => "process terminated by signal " ++ toString signal.toInt
  | none, some code => "process exited with code " ++ toString code.toInt
  | none, none => "process failed without output"

end ExitInfo

structure Failure where
  kind : FailureKind
  message : String
  command : String
  exit : ExitInfo
  deriving DecidableEq, Repr

inductive UiError where
  | cancelled
  | timeout
  | failed (text : String)
  deriving DecidableEq, Repr

namespace UiError

def message : UiError → String
  | .cancelled => "cancelled by user"
  | .timeout => "timed out"
  | .failed text => text

end UiError

namespace Failure

def text (f : Failure) : String := f.kind.text ++ ": " ++ f.message

/-- The output to show: what was written to standard error, else what was written to standard output, without
white space at its end. -/
def captured (stderr stdout : String) : Option String :=
  if !Text.blank stderr then some (Text.trimEnd stderr)
  else if !Text.blank stdout then some (Text.trimEnd stdout)
  else none

def messageOf (exit : ExitInfo) (stderr stdout : String) : String :=
  match exit.kind with
  | .timeout =>
    match captured stderr stdout with
    | some output => "command timed out\n" ++ output
    | none => "command timed out"
  | .spawnFailure => "failed to start command: " ++ exit.spawnError.getD "unknown error"
  | .nonZeroExit | .userCancelled => (captured stderr stdout).getD exit.placeholder

def ofExit (command : String) (exit : ExitInfo) (stderr stdout : String) : Failure :=
  ⟨exit.kind, messageOf exit stderr stdout, command, exit⟩

def ofUi (command : String) (e : UiError) : Failure :=
  match e with
  | .cancelled => ⟨.userCancelled, e.message, command, .unknown⟩
  | .timeout => ⟨.timeout, e.message, command, .timedOut⟩
  | .failed _ => ⟨.nonZeroExit, e.message, command, .unknown⟩

end Failure

inductive RunError where
  | script (f : Failure)
  /-- The script succeeded but its output could not be appended to the file. -/
  | redirect (path cause : String)
  deriving DecidableEq, Repr

namespace RunError

def message : RunError → String
  | .script f => "failed to run `" ++ f.command ++ "`: " ++ f.text
  | .redirect path cause => "failed to append output to " ++ path ++ ": " ++ cause

def failure? : RunError → Option Failure
  | .script f => some f
  | .redirect _ _ => none

def kind? (e : RunError) : Option FailureKind := e.failure?.map Failure.kind

def isUserCancel (e : RunError) : Bool := e.kind? == some .userCancelled

end RunError

structure ExitStatus where
  code : Nat
  message : String
  deriving DecidableEq, Repr

namespace ExitStatus

def generalFailure : Nat := 1

def codeOf : FailureKind → Nat
  | .timeout => 124
  | .nonZeroExit => generalFailure
  | .spawnFailure => 127
  | .userCancelled => 130

def ofError (e : RunError) : ExitStatus :=
  let code := (e.kind?.map codeOf).getD generalFailure
  if e.isUserCancel then ⟨code, ""⟩ else ⟨code, e.message⟩

end ExitStatus

end ScriptRunner
