import ScriptRunner.Failure
import ScriptRunner.Json.Value

namespace ScriptRunner

open Json

namespace ExitInfo

def ofInt32 (n : Int32) : Value := .int n.toInt

def toJson (e : ExitInfo) : Value :=
  .object [("code", .ofOption ofInt32 e.code), ("signal", .ofOption ofInt32 e.signal), ("killed", .bool e.killed),
    ("spawn_error", .ofOption .string e.spawnError)]

def toSortedJson (e : ExitInfo) : Value :=
  .object [("code", .ofOption ofInt32 e.code), ("killed", .bool e.killed), ("signal", .ofOption ofInt32 e.signal),
    ("spawn_error", .ofOption .string e.spawnError)]

end ExitInfo

namespace Failure

def toJson (f : Failure) : Value :=
  .object [("kind", .string f.kind.tag), ("message", .string f.message), ("command", .string f.command),
    ("exit", f.exit.toJson)]

def toSortedJson (f : Failure) : Value :=
  .object [("command", .string f.command), ("exit", f.exit.toSortedJson), ("kind", .string f.kind.tag),
    ("message", .string f.message)]

end Failure

namespace Json

def member? (members : List (String × Value)) (key : String) : Option (Option Value) :=
  match members.filter (·.1 == key) with
  | [] => some none
  | [(_, v)] => some (some v)
  | _ => none

def required? (members : List (String × Value)) (key : String) : Option Value := (member? members key).join

def optional? {α : Type} (read : Value → Option α) (members : List (String × Value)) (key : String) :
    Option (Option α) :=
  match member? members key with
  | none => none
  | some none | some (some .null) => some none
  | some (some v) => (read v).map some

def text? : Value → Option String
  | .string s => some s
  | _ => none

def bool? : Value → Option Bool
  | .bool b => some b
  | _ => none

def int32? : Value → Option Int32
  | .number (.int n) => if -0x80000000 ≤ n ∧ n < 0x80000000 then some (Int32.ofInt n) else none
  | _ => none

def nullable? {α : Type} (read : Value → Option α) : Value → Option (Option α)
  | .null => some none
  | v => (read v).map some

end Json

namespace FailureKind

/-- A kind is written as its tag, or as the only key of an object that holds null. -/
def ofJson? : Value → Option FailureKind
  | .string tag => ofTag? tag
  | .object [(tag, .null)] => ofTag? tag
  | _ => none

end FailureKind

namespace ExitInfo

def ofJson? : Value → Option ExitInfo
  | .object members => do
    return ⟨← optional? int32? members "code", ← optional? int32? members "signal",
      ← required? members "killed" >>= bool?, ← optional? text? members "spawn_error"⟩
  | .array [code, signal, killed, spawnError] => do
    return ⟨← nullable? int32? code, ← nullable? int32? signal, ← bool? killed, ← nullable? text? spawnError⟩
  | _ => none

end ExitInfo

namespace Failure

def ofJson? : Value → Option Failure
  | .object members => do
    return ⟨← required? members "kind" >>= FailureKind.ofJson?, ← required? members "message" >>= text?,
      ← required? members "command" >>= text?, ← required? members "exit" >>= ExitInfo.ofJson?⟩
  | .array [kind, message, command, exit] => do
    return ⟨← FailureKind.ofJson? kind, ← text? message, ← text? command, ← ExitInfo.ofJson? exit⟩
  | _ => none

def ofText? (text : String) : Option Failure := Value.ofText? text >>= ofJson?

end Failure

end ScriptRunner
