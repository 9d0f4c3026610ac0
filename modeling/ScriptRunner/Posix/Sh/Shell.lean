import ScriptRunner.Posix.Sh.Parse
import ScriptRunner.Posix.Signal
import ScriptRunner.Posix.Task

namespace ScriptRunner.Posix.Sh

structure Variable where
  value : Option Octets
  exported : Bool
  readOnly : Bool

structure Shell where
  name : Octets
  args : List Octets
  vars : List (Octets × Variable)
  functions : List (Octets × Command)
  hidden : List (List (Octets × Option Variable))
  status : Nat
  substituted : Nat
  lastBackground : Option Nat
  number : Nat
  parent : Nat
  loops : Nat
  mask : Nat
  options : List Char
  /-- Scripts for signals, and for the end under zero. -/
  traps : List (Nat × Octets)
  bodies : List (Nat × Word)
  nextBody : Nat
  line : Nat
  /-- Who speaks in messages, with a colon behind: the builtin command that is running, if there is one. -/
  speaker : Octets
  /-- The status of what runs is asked for, so that a failure does not end the shell. -/
  tested : Bool
  collected : List (Nat × Nat)

namespace Shell

def lookup (s : Shell) (name : Octets) : Option Variable := s.vars.lookup name

def value? (s : Shell) (name : Octets) : Option Octets := s.lookup name >>= Variable.value

def setVariable (s : Shell) (name : Octets) (v : Variable) : Shell :=
  { s with vars := (name, v) :: s.vars.filter (·.1 != name) }

def dropVariable (s : Shell) (name : Octets) : Shell :=
  { s with vars := s.vars.filter (·.1 != name) }

def assign (s : Shell) (name value : Octets) : Shell :=
  match s.lookup name with
  | some v => s.setVariable name { v with value := some value }
  | none => s.setVariable name ⟨some value, s.options.contains 'a', false⟩

def environment (s : Shell) : List Octets :=
  s.vars.reverse.filterMap fun (name, v) => if v.exported then v.value.map (name ++ "=" ++ ·) else none

def separators (s : Shell) : List Char := ((s.value? "IFS").getD " \t\n").toList

def start (name : Octets) (args : List Octets) (environment : List Octets) (number parent : Nat) : Shell :=
  let blank : Shell :=
    { name, args, vars := [], functions := [], hidden := [], status := 0, substituted := 0, lastBackground := none, number, parent
      loops := 0, mask := 18
      options := [], traps := [], bodies := [], nextBody := 0, line := 1, speaker := "", tested := false, collected := [] }
  environment.foldl (fun s entry =>
    match entry.splitAt? '=' with
    | some (key, value) => if isName key.toList then s.setVariable key ⟨some value, true, false⟩ else s
    | none => s) blank

end Shell

/-- What comes of expanding a word, before it is split into fields. -/
inductive Mark where
  | char (c : Char) (quoted splits : Bool)
  | hold
  /-- The field is not there for what came before this, if that was nothing. -/
  | vanish
  | cut

inductive Flow where
  | next
  | leave (loops : Nat)
  | again (loops : Nat)
  | back
  deriving DecidableEq, Inhabited

def Run (α : Type) : Type := Shell → (Shell → Task) → (α → Shell → Task) → Task

namespace Run

instance : Monad Run where
  pure a := fun s _ k => k a s
  bind m f := fun s up k => m s up fun a s => f a s up k

def get : Run Shell := fun s _ k => k s s

def modify (f : Shell → Shell) : Run Unit := fun s _ k => k () (f s)

def call (c : Call) : Run c.Reply := fun s _ k => .call c fun r => k r s

def act {α : Type} (m : Act α) : Run α := fun s _ k => m fun a => k a s

def fork (child : Run Nat) : Run Nat := fun s _ k =>
  .fork (child s (fun _ => .exit 2) fun status _ => .exit status) fun n => k n s

def exit {α : Type} (status : Nat) : Run α := fun _ _ _ => .exit status

def giveUp {α : Type} : Run α := fun s up _ => up s

def rescue {α : Type} (m otherwise : Run α) : Run α := fun s up k => m s (fun s => otherwise s up k) k

def setStatus (status : Nat) : Run Unit := modify ({ · with status := status })

def print (text : Octets) : Run Bool := act (Act.print 1 text)

def complain (text : Octets) : Run Unit := do
  let s ← get
  discard (act (Act.print 2 (s.name ++ ": " ++ toString s.line ++ ": " ++ s.speaker ++ text ++ "\n")))

def die {α : Type} (text : Octets) : Run α := do
  complain text
  giveUp

def speaking {α : Type} (name : Octets) (m : Run α) : Run α := do
  let before := (← get).speaker
  modify ({ · with speaker := name ++ ": " })
  let a ← m
  modify ({ · with speaker := before })
  return a

end Run

structure Interpreter where
  command : Bool → Command → Run Flow
  word : Word → Run (List Mark)
  start : String → List Octets → List Octets → Task

end ScriptRunner.Posix.Sh
