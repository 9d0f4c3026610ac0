import ScriptRunner.Posix.Signal
import ScriptRunner.Posix.Task

namespace ScriptRunner.Posix

open Execution (ChildStatus Event)

inductive Target where
  | null | zero | full
  | dir
  | file (node : Nat)
  | pipe (number : Nat) (writes : Bool)
  | text (content : Octets)
  | runner (toStderr : Bool)
  | terminal (toStderr : Bool)
  /-- A pipe whose other end is gone for good. -/
  | broken
  deriving DecidableEq, Repr, Inhabited

/-- An open file with its position. Handles of several processes can share one. -/
structure Channel where
  target : Target
  position : Nat
  appends : Bool
  deriving Inhabited

structure Process where
  number : Nat
  parent : Nat
  group : Nat
  session : Nat
  title : Octets
  cwd : Place
  handles : List (Nat × Nat)
  ignored : List Nat
  caught : List Nat
  arrived : List Nat
  stopped : Bool
  wakes : Option Nat
  task : Task
  ended : Option ChildStatus

structure Kernel where
  files : FileTree
  /-- In the order in which they get to work. -/
  processes : List Process
  channels : Array Channel
  pipes : Array Octets
  current : Option Nat
  /-- In microseconds. -/
  clock : Nat
  nextNumber : Nat
  interrupts : List Nat
  /-- What the runner learned, latest first. -/
  events : List Event
  /-- What was written to the terminal, latest first. -/
  shown : List (Bool × Octets)

namespace Kernel

def runner : Nat := 4000

def initial : Nat := 1

def start (files : FileTree) : Kernel := ⟨files, [], #[], #[], none, 0, runner + 1, [], [], []⟩

def process? (k : Kernel) (number : Nat) : Option Process := k.processes.find? (·.number == number)

def alive (k : Kernel) (number : Nat) : Bool :=
  match k.process? number with
  | some p => p.ended.isNone
  | none => number == runner

def modify (k : Kernel) (number : Nat) (f : Process → Process) : Kernel :=
  { k with processes := k.processes.map fun p => if p.number == number then f p else p }

def holds (k : Kernel) (p : Target → Bool) : Bool :=
  k.processes.any fun q => q.handles.any fun h => p (k.channels[h.2]?.getD default).target

def channel? (k : Kernel) (p : Process) (handle : Nat) : Option (Nat × Channel) :=
  p.handles.lookup handle >>= fun i => k.channels[i]?.map ((i, ·))

def setChannel (k : Kernel) (i : Nat) (c : Channel) : Kernel :=
  { k with channels := k.channels.setIfInBounds i c }

def dropHandle (handle : Nat) (p : Process) : Process :=
  { p with handles := p.handles.filter (·.1 != handle) }

def setHandle (handle channel : Nat) (p : Process) : Process :=
  { p with handles := (handle, channel) :: (dropHandle handle p).handles }

def attach (k : Kernel) (number handle : Nat) (target : Target) (appends : Bool) : Kernel :=
  { k with channels := k.channels.push ⟨target, 0, appends⟩ }.modify number (setHandle handle k.channels.size)

def freeHandle (p : Process) : Nat :=
  ((List.range 1000).map (· + 10)).find? (fun h => (p.handles.lookup h).isNone) |>.getD 1010

def bury (k : Kernel) : Kernel :=
  { k with processes := k.processes.filter fun p => p.ended.isNone || k.alive p.parent }

def finish (k : Kernel) (number : Nat) (status : ChildStatus) : Kernel :=
  let k := k.modify number fun p => { p with ended := some status, handles := [], arrived := [] }
  bury { k with processes := k.processes.map fun p => if p.parent == number then { p with parent := initial } else p }

def deliver (signal : Nat) (k : Kernel) (p : Process) : Kernel :=
  if signal == 0 || p.ended.isSome then k
  else if signal == Signal.kill then k.finish p.number (.signalled (Int32.ofNat signal))
  else if signal == Signal.proceed then
    k.modify p.number fun p =>
      { p with stopped := false, arrived := if p.caught.contains signal then p.arrived ++ [signal] else p.arrived }
  else if p.caught.contains signal then
    k.modify p.number fun p => { p with arrived := (p.arrived.filter (· != signal)) ++ [signal] }
  else if p.ignored.contains signal || Signal.harmless signal then k
  else if Signal.suspends signal then k.modify p.number fun p => { p with stopped := true }
  else k.finish p.number (.signalled (Int32.ofNat signal))

def send (k : Kernel) (sender : Process) (target : Int) (signal : Nat) : Except Errno Kernel :=
  let chosen := fun p : Process =>
    if target > 0 then p.number == target.toNat
    else if target == 0 then p.group == sender.group
    else if target == -1 then p.number != sender.number
    else p.group == (-target).toNat
  if signal > Signal.last then .error .invalid
  else if target == (runner : Int) then
    .ok (if signal == 0 then k else { k with interrupts := k.interrupts ++ [signal] })
  else
    match k.processes.filter chosen with
    | [] => .error .noProcess
    | ps => .ok (ps.foldl (deliver signal) k)

def describe (p : Process) : Octets :=
  let state := if p.ended.isSome then "Z" else if p.stopped then "T" else "S"
  toString p.number ++ " (" ++ p.title ++ ") " ++ state ++ " " ++ toString p.parent ++ " " ++
    toString p.group ++ " " ++ toString p.session ++ "\n"

inductive Special where
  | handle (n : Nat)
  | process (number : Nat)

def special? (path : Octets) : Option Special :=
  match path with
  | "/dev/stdin" => some (.handle 0)
  | "/dev/stdout" => some (.handle 1)
  | "/dev/stderr" => some (.handle 2)
  | _ =>
    match path.splitOn '/' with
    | ["", "dev", "fd", n] => n.nat?.map .handle
    | ["", "proc", n, "stat"] => n.nat?.map .process
    | _ => none

def openPath (k : Kernel) (p : Process) (handle : Nat) (path : Octets) (mode : OpenMode) : Except Errno Kernel :=
  match special? path with
  | some (.handle n) =>
    match p.handles.lookup n with
    | some i => .ok (k.modify p.number (setHandle handle i))
    | none => .error .noEntry
  | some (.process number) =>
    match k.process? number with
    | some q => .ok (k.attach p.number handle (.text (describe q)) false)
    | none => .error .noEntry
  | none =>
    if mode = .read then
      (k.files.find p.cwd path).bind fun (place, n) =>
        let target := match n with
          | .dir => Target.dir
          | .device .null => .null
          | .device .zero => .zero
          | .device .full => .full
          | .program _ => .null
          | .file _ _ => .file ((k.files.number? place).getD 0)
        .ok (k.attach p.number handle target false)
    else
      (k.files.create p.cwd path).bind fun (files, i) =>
        let k := { k with files := files }
        match files.nodes[i]? with
        | some (.file _ executable) =>
          let k := if mode = .truncate then { k with files := files.update i (.file "" executable) } else k
          .ok (k.attach p.number handle (.file i) (mode = .append))
        | some (.device .full) => .ok (k.attach p.number handle .full false)
        | some (.device .zero) => .ok (k.attach p.number handle .zero false)
        | some (.device .null) => .ok (k.attach p.number handle .null false)
        | _ => .error .denied

def pipeCapacity : Nat := 65536

abbrev Attempt (α : Type) := Option (Kernel × α)

def read (k : Kernel) (p : Process) (handle limit : Nat) : Attempt (Except Errno Octets) :=
  match k.channel? p handle with
  | none => some (k, .error .badHandle)
  | some (i, c) =>
    let part := fun content : Octets =>
      let data := (content.drop c.position).take limit
      some (k.setChannel i { c with position := c.position + data.length }, .ok data)
    match c.target with
    | .null => some (k, .ok "")
    | .zero | .full => some (k, .ok ("".pushn '\x00' limit))
    | .dir => some (k, .error .isDirectory)
    | .text content => part content
    | .file n =>
      match k.files.nodes[n]? with
      | some (.file content _) => part content
      | _ => some (k, .ok "")
    | .pipe n false =>
      let buffer := k.pipes[n]?.getD ""
      if buffer == "" then
        if k.holds (· == .pipe n true) then none else some (k, .ok "")
      else some ({ k with pipes := k.pipes.setIfInBounds n (buffer.drop limit) }, .ok (buffer.take limit))
    | .pipe _ true | .runner _ | .terminal _ | .broken => some (k, .error .badHandle)

def breakPipe (k : Kernel) (p : Process) : Kernel × Except Errno Unit :=
  (if p.ignored.contains Signal.brokenPipe then k else deliver Signal.brokenPipe k p, .error .brokenPipe)

def write (k : Kernel) (p : Process) (handle : Nat) (data : Octets) : Attempt (Except Errno Unit) :=
  match k.channel? p handle with
  | none => some (k, .error .badHandle)
  | some (i, c) =>
    match c.target with
    | .null | .zero => some (k, .ok ())
    | .full => some (k, .error .noSpace)
    | .dir | .text _ | .pipe _ false => some (k, .error .badHandle)
    | .file n =>
      match k.files.nodes[n]? with
      | some (.file content executable) =>
        let offset := if c.appends then content.length else c.position
        let gap := "".pushn '\x00' (offset - content.length)
        let content := content.take offset ++ gap ++ data ++ content.drop (offset + data.length)
        let k := { k with files := k.files.update n (.file content executable) }
        some (k.setChannel i { c with position := offset + data.length }, .ok ())
      | _ => some (k, .error .badHandle)
    | .pipe n true =>
      let buffer := k.pipes[n]?.getD ""
      if !k.holds (· == .pipe n false) then some (k.breakPipe p)
      else if buffer != "" && buffer.length + data.length > pipeCapacity then none
      else some ({ k with pipes := k.pipes.setIfInBounds n (buffer ++ data) }, .ok ())
    | .runner toStderr =>
      let bytes := Octets.toBytes data
      some ({ k with events := (if toStderr then .stderr bytes else .stdout bytes) :: k.events }, .ok ())
    | .terminal toStderr => some ({ k with shown := (toStderr, data) :: k.shown }, .ok ())
    | .broken => some (k.breakPipe p)

def await (k : Kernel) (p : Process) (child : Option Nat) (interruptible : Bool) : Attempt Awaited :=
  let children := k.processes.filter fun q => q.parent == p.number && (child.getD q.number) == q.number
  match children.findSome? fun q => q.ended.map ((q.number, ·)) with
  | some (number, status) =>
    some ({ k with processes := k.processes.filter (·.number != number) }, .ended number status)
  | none =>
    if children.isEmpty then some (k, .noChild)
    else if interruptible then p.arrived.head?.map fun signal => (k, .interrupted signal)
    else none

def tickLength : Nat := 10

def yieldTurn (k : Kernel) (number : Nat) : Kernel :=
  { k with
    processes := k.processes.filter (·.number != number) ++ k.processes.filter (·.number == number)
    current := none }

def arrange (signal : Nat) (d : Disposition) (p : Process) : Process :=
  let without := fun l : List Nat => l.filter (· != signal)
  { p with
    ignored := if d = .ignored then signal :: without p.ignored else without p.ignored
    caught := if d = .caught then signal :: without p.caught else without p.caught }

def info : Node → FileInfo
  | .dir => ⟨true, false, false, true, 4096⟩
  | .file content executable => ⟨false, true, false, executable, content.length⟩
  | .device _ => ⟨false, false, true, false, 0⟩
  | .program _ => ⟨false, true, false, true, 1⟩

def inspect (k : Kernel) (p : Process) (path : Octets) : Except Errno FileInfo :=
  match special? path with
  | some (.handle n) => if (p.handles.lookup n).isSome then .ok ⟨false, false, true, false, 0⟩ else .error .noEntry
  | some (.process n) => if (k.process? n).isSome then .ok ⟨false, true, false, false, 0⟩ else .error .noEntry
  | none => (k.files.find p.cwd path).map fun r => info r.2

def duplicate (k : Kernel) (p : Process) (source target : Nat) : Kernel × Except Errno Unit :=
  match p.handles.lookup source with
  | some i => (k.modify p.number (setHandle target i), .ok ())
  | none => (k, .error .badHandle)

def keepFiles (k : Kernel) (r : Except Errno FileTree) : Kernel × Except Errno Unit :=
  match r with
  | .ok files => ({ k with files := files }, .ok ())
  | .error e => (k, .error e)

def perform (k : Kernel) (p : Process) : (c : Call) → Attempt c.Reply
  | .tick => some (yieldTurn { k with clock := k.clock + tickLength } p.number, ())
  | .identity => some (k, (p.number, p.parent))
  | .openPath handle path mode =>
    match k.openPath p handle path mode with
    | .ok k => some (k, .ok ())
    | .error e => some (k, .error e)
  | .pipe =>
    let n := k.pipes.size
    let r := freeHandle p
    let k := { k with pipes := k.pipes.push "" }.attach p.number r (.pipe n false) false
    let w := ((k.process? p.number).map freeHandle).getD 0
    some (k.attach p.number w (.pipe n true) false, (r, w))
  | .duplicate source target => some (k.duplicate p source target)
  | .save handle =>
    let free := freeHandle p
    let (k, r) := k.duplicate p handle free
    some (k, r.map fun _ => free)
  | .close handle => some (k.modify p.number (dropHandle handle), ())
  | .read handle limit => k.read p handle limit
  | .write handle data => k.write p handle data
  | .await child interruptible => k.await p child interruptible
  | .kill target signal =>
    match k.send p target signal with
    | .ok k => some (k, .ok ())
    | .error e => some (k, .error e)
  | .arrange signal d => some (k.modify p.number (arrange signal d), ())
  | .arrived => some (k.modify p.number fun p => { p with arrived := [] }, p.arrived)
  | .sleep _ => if (p.wakes.getD 0) ≤ k.clock then some (k.modify p.number ({ · with wakes := none }), ()) else none
  | .enter path =>
    match k.files.find p.cwd path with
    | .ok (place, .dir) => some (k.modify p.number ({ · with cwd := place }), .ok ())
    | .ok _ => some (k, .error .notDirectory)
    | .error e => some (k, .error e)
  | .place => some (k, "/" ++ "/".intercalate p.cwd)
  | .inspect path => some (k, k.inspect p path)
  | .list path =>
    match k.files.find p.cwd path with
    | .ok (place, .dir) => some (k, k.files.children place)
    | _ => some (k, [])
  | .makeDir path => some (k.keepFiles (k.files.makeDir p.cwd path))
  | .unlink path => some (k.keepFiles (k.files.unlink p.cwd path))
  | .removeDir path => some (k.keepFiles (k.files.removeDir p.cwd path))
  | .load path argv => some (k, k.files.load p.cwd path argv)
  | .become title =>
    let fresh := fun p : Process =>
      { p with title := title, handles := p.handles.filter (·.1 < 10), caught := [], arrived := [] }
    some (k.modify p.number fresh, ())
  | .newSession =>
    if k.processes.any (·.group == p.number) then some (k, .error .notPermitted)
    else some (k.modify p.number fun p => { p with session := p.number, group := p.number }, .ok ())

def resume (k : Kernel) (number : Nat) (t : Task) : Kernel :=
  k.modify number fun p => if p.ended.isSome then p else { p with task := t }

def sleepBegins? (p : Process) : Call → Option Nat
  | .sleep micros => if p.wakes.isNone then some micros else none
  | _ => none

def move (k : Kernel) (p : Process) : Option Kernel :=
  if p.ended.isSome || p.stopped then none
  else
    match p.task with
    | .exit status => some (k.finish p.number (.exited (Int32.ofNat (status % 256))))
    | .fork child parent =>
      let number := k.nextNumber
      let q := { p with number := number, parent := p.number, task := child, arrived := [], wakes := none }
      some ({ k with processes := k.processes ++ [q], nextNumber := number + 1 }.resume p.number (parent number))
    | .call c next =>
      match sleepBegins? p c with
      | some micros => some (k.modify p.number ({ · with wakes := some (k.clock + micros) }))
      | none => (k.perform p c).map fun r => r.1.resume p.number (next r.2)

def moveFirst (k : Kernel) : List Process → Option Kernel
  | [] => none
  | p :: ps =>
    match { k with current := some p.number }.move p with
    | some k => some k
    | none => moveFirst k ps

def moveNext (k : Kernel) : Option Kernel :=
  match k.current >>= k.process? >>= k.move with
  | some k => some k
  | none => k.moveFirst k.processes

def nextWake (k : Kernel) : Option Nat :=
  (k.processes.filterMap fun p => if p.ended.isSome || p.stopped then none else p.wakes).min?

structure Watch where
  child : Nat
  deadline : Option Nat
  pipes : Bool
  interruptible : Bool

inductive Ending where
  | complete | deadline | interrupted
  deriving DecidableEq, Repr

structure Told where
  stdoutEnd : Bool
  stderrEnd : Bool
  exited : Bool

def tell (w : Watch) (k : Kernel) (told : Told) : Kernel × Told :=
  let note := fun (k : Kernel) (due : Bool) (e : Event) => if due then { k with events := e :: k.events } else k
  let out := w.pipes && !told.stdoutEnd && !k.holds (· == .runner false)
  let err := w.pipes && !told.stderrEnd && !k.holds (· == .runner true)
  let status := (k.process? w.child).bind Process.ended
  let k := note (note k out .stdoutEnd) err .stderrEnd
  let k := match status, told.exited with
    | some status, false => note k true (.exited status)
    | _, _ => k
  (k, ⟨told.stdoutEnd || out, told.stderrEnd || err, told.exited || status.isSome⟩)

def settled (w : Watch) (told : Told) : Bool := told.exited && (!w.pipes || (told.stdoutEnd && told.stderrEnd))

/-- Lets the processes work until the watch is over. Without fuel, or when nothing can happen any more, it is
over too. -/
def run (w : Watch) : Nat → Kernel → Told → Kernel × Ending
  | 0, k, _ => (k, .deadline)
  | n + 1, k, told =>
    let (k, told) := tell w k told
    if settled w told then (k, .complete)
    else if w.interruptible && k.interrupts.contains Signal.interrupt then (k, .interrupted)
    else if w.deadline.any (· ≤ k.clock) then (k, .deadline)
    else
      match k.moveNext with
      | some k => run w n k told
      | none =>
        match k.nextWake, w.deadline with
        | some t, some d => run w n { k with clock := max k.clock (min t d) } told
        | some t, none => run w n { k with clock := max k.clock t } told
        | none, some d => ({ k with clock := max k.clock d }, .deadline)
        | none, none => (k, .deadline)

def fuel : Nat := 20000000

end Kernel

end ScriptRunner.Posix
