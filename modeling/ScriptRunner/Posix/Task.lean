import ScriptRunner.Execution
import ScriptRunner.Posix.FileTree

namespace ScriptRunner.Posix

open Execution (ChildStatus)

inductive OpenMode where
  | read
  | truncate
  | append
  | update
  deriving DecidableEq, Repr

inductive Disposition where
  | byDefault | ignored | caught
  deriving DecidableEq, Repr

structure FileInfo where
  isDir : Bool
  isFile : Bool
  isDevice : Bool
  executable : Bool
  size : Nat

inductive Awaited where
  | ended (child : Nat) (status : ChildStatus)
  | noChild
  | interrupted (signal : Nat)

inductive Call where
  | tick
  | identity
  | openPath (handle : Nat) (path : Octets) (mode : OpenMode)
  | pipe
  | duplicate (source target : Nat)
  | save (handle : Nat)
  | close (handle : Nat)
  | read (handle limit : Nat)
  | write (handle : Nat) (data : Octets)
  | await (child : Option Nat) (interruptible : Bool)
  /-- Sends a signal to a process, or to a group by its negated number. -/
  | kill (target : Int) (signal : Nat)
  | arrange (signal : Nat) (d : Disposition)
  | arrived
  | sleep (micros : Nat)
  | enter (path : Octets)
  | place
  | inspect (path : Octets)
  | list (path : Octets)
  | makeDir (path : Octets)
  | unlink (path : Octets)
  | removeDir (path : Octets)
  | load (path : Octets) (argv : List Octets)
  /-- Becomes another program: takes its name, and drops the handles that were put out of the way. -/
  | become (title : Octets)
  | newSession

@[reducible] def Call.Reply : Call → Type
  | .tick | .close _ | .arrange _ _ | .sleep _ | .become _ => Unit
  | .identity => Nat × Nat
  | .pipe => Nat × Nat
  | .save _ => Except Errno Nat
  | .read _ _ => Except Errno Octets
  | .await _ _ => Awaited
  | .arrived => List Nat
  | .place => Octets
  | .inspect _ => Except Errno FileInfo
  | .list _ => List Octets
  | .load _ _ => Except Errno FileTree.Image
  | .openPath _ _ _ | .duplicate _ _ | .write _ _ | .kill _ _ | .enter _ | .makeDir _ | .unlink _
  | .removeDir _ | .newSession => Except Errno Unit

inductive Task where
  | exit (status : Nat)
  | call (c : Call) (next : c.Reply → Task)
  | fork (child : Task) (parent : Nat → Task)

def Act (α : Type) : Type := (α → Task) → Task

namespace Act

instance : Monad Act where
  pure a := fun k => k a
  bind m f := fun k => m fun a => f a k

def call (c : Call) : Act c.Reply := fun k => .call c k

def become {α : Type} (t : Task) : Act α := fun _ => t

def exit {α : Type} (status : Nat) : Act α := become (.exit status)

def fork (child : Task) : Act Nat := fun k => .fork child k

def run (m : Act Nat) : Task := m .exit

def print (handle : Nat) (data : Octets) : Act Bool := do
  if data == "" then return true
  match ← call (.write handle data) with
  | .ok () => return true
  | .error _ => return false

def drain (handle : Nat) (each : Octets → Act Bool) : Nat → Act Bool
  | 0 => return true
  | n + 1 => do
    match ← call (.read handle 65536) with
    | .error _ => return false
    | .ok "" => return true
    | .ok data => if ← each data then drain handle each n else return false

end Act

end ScriptRunner.Posix
