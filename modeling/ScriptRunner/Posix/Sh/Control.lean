import ScriptRunner.Posix.Sh.Shell

namespace ScriptRunner.Posix.Sh

open Execution (ChildStatus)

namespace Run

def statusOf : ChildStatus → Nat
  | .exited code => code.toInt.toNat
  | .signalled signal => 128 + signal.toInt.toNat

def await (child : Nat) (interruptible : Bool) : Run Nat := do
  match ← call (.await (some child) interruptible) with
  | .ended _ status =>
    match status with
    | .signalled signal =>
      let n := signal.toInt.toNat
      if n != Signal.interrupt && n != Signal.brokenPipe then
        discard (act (Act.print 2 (Signal.description n ++ "\n")))
    | .exited _ => pure ()
    return statusOf status
  | .noChild => return 127
  | .interrupted signal => return 128 + signal

/-- What a child of the shell leaves behind: scripts for signals do not concern it, and it starts no job anew. -/
def enterChild : Run Unit := do
  let s ← get
  for (signal, script) in s.traps do
    if script != "" && signal != 0 then call (.arrange signal .byDefault)
  modify fun s => { s with traps := s.traps.filter (·.2 == ""), collected := [] }

end Run

open Run

namespace Interpreter

def gaveUp : Run Flow := do
  setStatus 2
  return .next

mutual

/-- Carries commands out one after the other. The last can be the last thing the process does. -/
def items (r : Interpreter) (last : Bool) : List Item → Run Flow
  | [] => return .next
  | [i] => item r last i
  | i :: more => do
    let flow ← item r false i
    if flow = .next then items r last more else return flow

def item (r : Interpreter) (last : Bool) : Item → Run Flow
  | .mk c false => r.command last c
  | .mk c true => do
    let child ← fork do
      enterChild
      call (.arrange Signal.interrupt .ignored)
      call (.arrange Signal.quit .ignored)
      discard (call (.openPath 0 "/dev/null" .read))
      discard (rescue (r.command true c) gaveUp)
      let s ← get
      if s.traps.any (·.1 == 0) then discard (r.command true (.simple s.line [] [[.plain "exit"]] []))
      return s.status
    modify fun s => { s with lastBackground := some child, status := 0 }
    return .next

end

/-- Carries a script out, line by line. The status of a script without commands is zero; `idle` says that there was
none so far. -/
def source (r : Interpreter) : Nat → Bool → Source → Run Flow
  | 0, _, _ => return .next
  | n + 1, idle, src => do
    match nextLine src with
    | .error f =>
      modify ({ · with line := f.line })
      die f.text
    | .ok none =>
      if idle then setStatus 0
      return .next
    | .ok (some (is, src)) =>
      modify fun s => { s with bodies := src.bodies ++ s.bodies, nextBody := src.nextBody }
      let flow ← items r false is
      if flow = .next then source r n (idle && is.isEmpty) { src with bodies := [] } else return flow

def script (r : Interpreter) (text : Octets) : Run Flow := do
  source r (text.length + 1) true (.ofText text (← get).nextBody)

def leave {α : Type} (r : Interpreter) (status : Nat) : Run α := do
  let s ← get
  match s.traps.lookup 0 with
  | none => Run.exit status
  | some text =>
    modify fun s =>
      { s with traps := s.traps.filter (·.1 != 0), status := status, speaker := "", tested := true }
    discard (rescue (script r text) (Run.exit 2))
    Run.exit status

/-- Carries the scripts for signals that arrived out. They do not change the status. -/
def signals (r : Interpreter) : Run Unit := do
  let s ← get
  if s.traps.any fun t => t.1 != 0 && t.2 != "" then
    for signal in ← call .arrived do
      match (← get).traps.lookup signal with
      | some action =>
        let status := (← get).status
        discard (script r action)
        setStatus status
      | none => pure ()

def inChild (r : Interpreter) (m : Run Flow) : Run Nat := do
  enterChild
  discard (rescue m (leave r 2))
  leave r (← get).status

def capture (r : Interpreter) (is : List Item) : Run Octets := do
  let (reader, writer) ← call .pipe
  let child ← fork do
    discard (call (.duplicate writer 1))
    call (.close reader)
    call (.close writer)
    inChild r (items r true is)
  call (.close writer)
  let out ← collect reader "" 1000000
  call (.close reader)
  let status ← Run.await child false
  modify ({ · with substituted := status })
  return out
where
  collect (reader : Nat) (acc : Octets) : Nat → Run Octets
    | 0 => return acc
    | n + 1 => do
      match ← call (.read reader 65536) with
      | .ok data => if data == "" then return acc else collect reader (acc ++ data) n
      | .error _ => return acc

end Interpreter

end ScriptRunner.Posix.Sh
