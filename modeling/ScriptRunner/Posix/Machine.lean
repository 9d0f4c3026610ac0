import ScriptRunner.Driver
import ScriptRunner.Posix.Kernel
import ScriptRunner.Posix.Programs

namespace ScriptRunner.Posix

open Execution (ChildStatus Event Child Finished Order terminate)

structure Machine where
  kernel : Kernel
  environment : List (Octets × Octets)
  cwd : Place
  input : Octets

def nulInPath : String := "file name contained an unexpected NUL byte"
def nulInCommand : String := "nul byte found in provided data"

inductive SpawnError where
  | nul
  | system (e : Errno)
  deriving DecidableEq

namespace SpawnError

def message : SpawnError → String
  | .nul => nulInCommand
  | .system e => e.message

def asQueryError (e : SpawnError) : QueryError :=
  match e with
  | .nul => .invalid e.message
  | .system .noEntry => .notFound e.message
  | .system .denied => .permissionDenied e.message
  | .system .notDirectory => .notDirectory e.message
  | .system _ => .unclassified e.message

end SpawnError

def describeStatus : ChildStatus → String
  | .exited code => "exit status: " ++ toString code.toInt
  | .signalled signal => "signal: " ++ Signal.label signal.toInt.toNat

namespace Machine

def start (environment : List (String × String)) (cwd : String) : Machine :=
  let place := (FileTree.trimSlashes (Octets.ofText cwd)).splitOn '/' |>.filter (· != "")
  { kernel := .start (Programs.files.makePlace place)
    environment := environment.map fun p => (Octets.ofText p.1, Octets.ofText p.2)
    cwd := place
    input := "" }

def withFiles (m : Machine) (files : FileTree) : Machine := { m with kernel := { m.kernel with files := files } }

def files (m : Machine) : FileTree := m.kernel.files

/-- The place that a path names, if there are only directories on the way. -/
def placeOf (m : Machine) (path : String) : Place :=
  let p := Octets.ofText path
  ((p.splitOn '/').foldl FileTree.child (if p.startsWith "/" then [] else m.cwd))

def addDir (m : Machine) (path : String) : Machine := m.withFiles (m.files.makePlace (m.placeOf path))

def addFile (m : Machine) (path : String) (content : List UInt8) (executable : Bool) : Machine :=
  m.withFiles (m.files.install (m.placeOf path) (.file (.ofBytes content) executable))

def setVariable (m : Machine) (name : String) (value : Option String) : Machine :=
  let others := m.environment.filter (·.1 != Octets.ofText name)
  match value with
  | some v => { m with environment := others ++ [(Octets.ofText name, Octets.ofText v)] }
  | none => { m with environment := others }

def listFiles (m : Machine) : List (String × List UInt8) :=
  ((m.files.filesBelow m.cwd).mergeSort fun a b => decide (a.1 ≤ b.1)).map fun (path, content) =>
    (Octets.toText path, Octets.toBytes content)

def envText? (m : Machine) (name : String) : Option String :=
  (m.environment.lookup (Octets.ofText name)).bind fun v => utf8Strict? (Octets.toBytes v)

def pathExists (m : Machine) (path : String) : Bool :=
  let p := Octets.ofText path
  !p.hasNul && (m.files.find m.cwd p).isOk

def asText (o : Octets) : Except String String :=
  match utf8Strict? (Octets.toBytes o) with
  | some text => .ok text
  | none => .error "stream did not contain valid UTF-8"

def readText (m : Machine) (path : String) : Except String String :=
  let p := Octets.ofText path
  if p.hasNul then .error nulInPath
  else
    match m.files.read m.cwd p with
    | .error e => .error e.message
    | .ok content => asText content

def readInput (m : Machine) : Except String String := asText m.input

/-- The output stream of the runner that a path leads to: standard error or standard output. -/
def stream? (path : String) (m : Machine) : Option Bool :=
  let place := m.placeOf path
  -- Nothing lies below a stream, so its name stands last in the path.
  if ((Octets.ofText path).splitOn '/').getLast? != place.getLast? then none
  else
    match place with
    | ["dev", "stdout"] | ["dev", "fd", "1"] | ["proc", "self", "fd", "1"] => some false
    | ["dev", "stderr"] | ["dev", "fd", "2"] | ["proc", "self", "fd", "2"] => some true
    | _ => none

/-- A file that is open for adding: an output stream of the runner, or a node of the tree. -/
inductive Handle where
  | stream (toStderr : Bool)
  | node (number : Nat)
  deriving DecidableEq

def openAppend (path : String) (m : Machine) : Except String Handle × Machine :=
  let p := Octets.ofText path
  if p.hasNul then (.error nulInPath, m)
  else
    match m.stream? path with
    | some toStderr => (.ok (.stream toStderr), m)
    | none =>
      match m.files.create m.cwd p with
      | .ok (files, i) => (.ok (.node i), m.withFiles files)
      | .error e => (.error e.message, m)

/-- Takes all bytes at once, or none. -/
def write (h : Handle) (bytes : List UInt8) (m : Machine) : Except String Nat × Machine :=
  match h with
  | .stream _ => (.ok bytes.length, m)
  | .node i =>
    match m.files.extend i (.ofBytes bytes) with
    | .ok files => (.ok bytes.length, m.withFiles files)
    | .error e => (.error e.message, m)

def access : Files Machine where
  Handle := Handle
  openAppend := openAppend
  write := write
  flush _ m := (.ok (), m)
  stream?
    | .stream toStderr => some toStderr
    | .node _ => none

def overlay (inherited : List (Octets × Octets)) (b : Bindings) : List (Octets × Octets) :=
  if b.entries.isEmpty then inherited
  else
    let added := b.entries.map fun p => (Octets.ofText p.1, Octets.ofText p.2)
    ((inherited.filter fun p => (added.lookup p.1).isNone) ++ added).mergeSort fun a b => decide (a.1 ≤ b.1)

structure Launch where
  program : Octets
  args : List Octets
  environment : List (Octets × Octets)
  cwd : Octets
  targets : List Target
  leads : Bool

def hasNul (l : Launch) : Bool :=
  l.program.hasNul || l.args.any Octets.hasNul || l.cwd.hasNul ||
    l.environment.any fun p => p.1.hasNul || p.2.hasNul

def enter (m : Machine) (path : Octets) : Except Errno Place :=
  (m.files.find m.cwd path).bind fun (place, n) => if n == .dir then .ok place else .error .notDirectory

def launch (m : Machine) (l : Launch) : Except SpawnError (Nat × Machine) :=
  if hasNul l then .error .nul
  else
    let searchPath := (l.environment.lookup "PATH").getD FileTree.defaultSearchPath
    let image := (m.enter l.cwd).bind fun place =>
      (m.files.search place searchPath l.program (l.program :: l.args)).map ((place, ·))
    match image with
    | .error e => .error (.system e)
    | .ok (place, image) =>
      let k := m.kernel
      let number := k.nextNumber
      let group := if l.leads then number else Kernel.runner
      let environment := l.environment.map fun p => p.1 ++ "=" ++ p.2
      let p : Process :=
        { number, parent := Kernel.runner, group, session := Kernel.runner, title := l.program, cwd := place
          handles := (List.range l.targets.length).map fun i => (i, k.channels.size + i)
          ignored := [], caught := [], arrived := [], stopped := false, wakes := none
          task := Programs.start Programs.depth image.program image.argv environment, ended := none }
      let channels := k.channels ++ (l.targets.map fun t => (⟨t, 0, false⟩ : Channel)).toArray
      .ok (number, { m with kernel := { k with
        processes := k.processes ++ [p], channels := channels, nextNumber := number + 1, events := [], shown := []
        interrupts := [] } })

def killWhere (m : Machine) (chosen : Process → Bool) : Machine :=
  { m with kernel := (m.kernel.processes.filter chosen).foldl (Kernel.deliver Signal.kill) m.kernel }

def release (m : Machine) (child : Nat) : Machine :=
  let closed := fun c : Channel => match c.target with
    | .runner _ => { c with target := .broken }
    | _ => c
  let k := m.kernel
  { m with kernel := Kernel.bury { k with
    processes := k.processes.filter fun p => p.number != child || p.ended.isNone
    channels := k.channels.map closed } }

def watch (m : Machine) (w : Kernel.Watch) : Machine × Kernel.Ending :=
  let (k, ending) := m.kernel.run w Kernel.fuel ⟨false, false, false⟩
  ({ m with kernel := k }, ending)

def deadline (m : Machine) (limit : Option Nat) : Option Nat := limit.map fun ms => m.kernel.clock + 1000 * ms

/-- Starts a child with both outputs captured, and tells its number and its events up to its completion or the limit. -/
def follow (m : Machine) (l : Launch) (limit : Option Nat) : Except SpawnError (Nat × List Event) × Machine :=
  match m.launch l with
  | .error e => (.error e, m)
  | .ok (number, m) =>
    let (m, _) := m.watch ⟨number, m.deadline limit, true, false⟩
    (.ok (number, m.kernel.events.reverse), m)

def obey (order : Order) (number : Nat) (m : Machine) : Machine :=
  match order with
  | .killGroup => m.killWhere (·.group == number)
  | .kill => m.killWhere (·.number == number)
  | .reap => m.release number

def spawn (i : Invocation) (r : Request) (limit : Option Nat) (m : Machine) : Except String Child × Machine :=
  let l : Launch :=
    { program := .ofText i.program, args := i.args.map Octets.ofText, environment := overlay m.environment r.env
      cwd := .ofText r.cwd, targets := [.null, .runner false, .runner true], leads := true }
  match m.follow l limit with
  | (.error e, m) => (.error e.message, m)
  | (.ok (number, events), m) =>
    if finished : Finished events then (.ok ⟨number, events, .inr finished⟩, m.release number)
    else if limit.isSome then (.ok ⟨number, events ++ [.deadline], .inl (by simp)⟩, m)
    else
      -- Without a limit the wait would go on for ever, as nothing can happen any more. The machine stops the child.
      let killed := Int32.ofNat Signal.kill
      (.ok (.ending number events (.signalled killed)), terminate.foldl (fun m order => m.obey order number) m)

def queryLimit : Nat := 5000

def capture (program : String) (args : List String) (limit : Option Nat) (m : Machine) :
    Except SpawnError (Option ChildStatus × List UInt8) × Machine :=
  let l : Launch :=
    { program := .ofText program, args := args.map Octets.ofText, environment := m.environment, cwd := "."
      targets := [.null, .runner false, .runner true], leads := false }
  match m.follow l limit with
  | (.error e, m) => (.error e, m)
  | (.ok (number, events), m) =>
    let status := events.findSome? fun
      | .exited status => some status
      | _ => none
    let out := events.flatMap fun
      | .stdout bytes => bytes
      | _ => []
    (.ok (status, out), (if Finished events then m else m.obey .kill number).release number)

def query (program : String) (args : List String) (m : Machine) : Except QueryError String × Machine :=
  let (result, m) := m.capture program args (some queryLimit)
  let answer := match result with
    | .error e => .error e.asQueryError
    | .ok (some (.exited 0), out) => .ok (utf8Lossy out)
    | .ok (some status, _) => .error (.other ("`" ++ program ++ "` exited with " ++ describeStatus status))
    | .ok (none, _) => .error (.other "query timed out")
  (answer, m)

def host : Host Machine where
  platform := .linux
  env name m := (m.envText? name).filter (!·.isEmpty)
  pathExists path m := m.pathExists path
  query := query

/-- The machine as the system to run scripts on. The output of children is read by decoders of the type. -/
def systemWith (δ : Type) [decoding : BufferedDecoder δ] (h : Host Machine) : System Machine where
  host := h
  Decoding := δ
  decoding := decoding
  spawn := spawn
  obey := obey
  files := access

def system (δ : Type) [BufferedDecoder δ] : System Machine := systemWith δ host

def shown (m : Machine) : List Notice :=
  m.kernel.shown.reverse.map fun (toStderr, data) => .terminal toStderr (Octets.toBytes data)

def consumeInput (m : Machine) (channel : Nat) : Machine :=
  { m with input := m.input.drop ((m.kernel.channels[channel]?.map Channel.position).getD 0) }

def interact (c : UiCall) (m : Machine) : UiReply × Machine :=
  let inquiry := match c.shell with
    | some shell => .done (some shell)
    | none => Shell.resolve host.platform
  let (shell, _, m) := host.answer inquiry m
  let i := Invocation.of shell c.command host.platform
  let l : Launch :=
    { program := .ofText i.program, args := i.args.map Octets.ofText, environment := overlay m.environment c.env
      cwd := .ofText c.cwd, targets := [.text m.input, .terminal false, .terminal true], leads := false }
  let channel := m.kernel.channels.size
  match m.launch l with
  | .error e => (⟨.error (.failed ("failed to start " ++ i.program ++ ": " ++ e.message)), []⟩, m)
  | .ok (child, m) =>
    let (m, ending) := m.watch ⟨child, m.deadline c.timeout, false, true⟩
    let notices := m.shown
    let status := m.kernel.events.findSome? fun
      | .exited status => some status
      | _ => none
    let m := ((m.killWhere fun p => p.number == child && ending ≠ .complete).release child).consumeInput channel
    let result := match ending, status with
      | .complete, some (.exited 0) => .ok ""
      | .complete, some status => .error (.failed ("command exited with " ++ describeStatus status))
      | .interrupted, _ => .error .cancelled
      | _, _ => .error .timeout
    (⟨result, notices⟩, m)

def ui : Ui Machine := ⟨true, interact⟩

/-- Lets the machine work until nobody holds the terminal any more, and tells what is still written to it. -/
def settle (m : Machine) : List Notice × Machine :=
  let rec go : Nat → Kernel → Kernel
    | 0, k => k
    | n + 1, k =>
      if !k.holds (fun t => t == .terminal false || t == .terminal true) then k
      else
        match k.moveNext, k.nextWake with
        | some k, _ => go n k
        | none, some t => go n { k with clock := max k.clock t }
        | none, none => k
  let m := { m with kernel := go Kernel.fuel { m.kernel with shown := [] } }
  (m.shown, m)

end Machine

end ScriptRunner.Posix
