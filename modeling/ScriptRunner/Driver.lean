import ScriptRunner.Encoding.Resolve
import ScriptRunner.Execution
import ScriptRunner.Files
import ScriptRunner.Path
import ScriptRunner.Request
import ScriptRunner.Shell.Invocation

namespace ScriptRunner

/-- What the driver needs of the system, over its state `σ`. -/
structure System (σ : Type) where
  host : Host σ
  /-- What reads the output of children. -/
  Decoding : Type
  decoding : BufferedDecoder Decoding
  /-- Starts a child and follows it up to its end or the limit, or tells why it could not start. -/
  spawn : Invocation → Request → Option Nat → σ → Except String Execution.Child × σ
  /-- Carries out an order about the child with the number, as far as that is possible. -/
  obey : Execution.Order → Nat → σ → σ
  files : Files σ

namespace System

variable {σ : Type} (sys : System σ)

instance : BufferedDecoder sys.Decoding := sys.decoding

def carryOut (orders : List Execution.Order) (number : Nat) (s : σ) : σ :=
  orders.foldl (fun s order => sys.obey order number s) s

/-- Is done with a child whose output was read in the encoding with the label: if it was cut short, it is terminated. -/
def dismiss (label : String) (child : Except String Execution.Child) (s : σ) : σ :=
  match child with
  | .error _ => s
  | .ok child => sys.carryOut (child.last sys.Decoding label).orders child.number s

end System

structure UiReply where
  result : Except UiError String
  shown : List Notice

structure Ui (σ : Type) where
  available : Bool
  run : UiCall → σ → UiReply × σ

structure Executor where
  overrides : Overrides
  defaultTimeout : Option Nat

structure ExecutionReport where
  outcome : Execution.Outcome
  probes : List Probe
  lines : List LogLine

def ExecutionReport.ofChild (δ : Type) [BufferedDecoder δ] (command label : String) (probes : List Probe) :
    Except String Execution.Child → ExecutionReport
  | .error error => ⟨.ofExit command (.spawnFailed error) "" "", probes, []⟩
  | .ok child => ⟨.ofChild δ command label child, probes, (child.last δ label).lines⟩

namespace Executor

def default : Executor := ⟨Overrides.builtIn, none⟩

def shellOf (platform : Platform) (r : Request) : Inquiry (Option String) :=
  match r.shell with
  | some shell => .done (some shell)
  | none => Shell.resolve platform

def inquire (x : Executor) (platform : Platform) (r : Request) : Inquiry (Option String × String) :=
  (shellOf platform r).bind fun shell =>
    (Encoding.resolve platform x.overrides r.command).bind fun label => .done (shell, label)

def limit (x : Executor) (r : Request) : Option Nat := r.timeout <|> x.defaultTimeout

def run {σ : Type} (sys : System σ) (x : Executor) (r : Request) (s : σ) : ExecutionReport × σ :=
  let ((shell, label), probes, s) := sys.host.answer (x.inquire sys.host.platform r) s
  let (child, s) := sys.spawn (.of shell r.command sys.host.platform) r (x.limit r) s
  (.ofChild sys.Decoding r.command label probes child, sys.dismiss label child s)

end Executor

structure Context (σ : Type) where
  ui : Option (Ui σ)
  progress : Bool
  project : Option String

namespace Context

def plain {σ : Type} : Context σ := ⟨none, false, none⟩

def activeUi {σ : Type} (ctx : Context σ) : Option (Ui σ) := ctx.ui.filter (·.available)

end Context

namespace ScriptArgs

def resolve (project : Option String) (a : ScriptArgs) : ScriptArgs :=
  ⟨{ a.request with cwd := Path.resolve project a.request.cwd }, a.redirectTo.map (Path.resolve project)⟩

end ScriptArgs

/-- What a run did before its output was appended. -/
structure Dispatch where
  result : Except Failure (Outputs × String)
  notices : List Notice
  probes : List Probe
  uiCalls : List UiCall

structure Report where
  result : Except RunError Outputs
  notices : List Notice
  probes : List Probe
  uiCalls : List UiCall

namespace Driver

def progressTitle : String := "Running script"

def uiCall (x : Executor) (r : Request) : UiCall := ⟨r.command, r.cwd, r.shell, x.limit r, r.env⟩

/-- An interactive run captures no output of its own accord. When it hands back nothing but white space the
markers are those of the command text. -/
def uiOutputs (command text : String) : Outputs := .parse (if Text.blank text then command else text)

def dispatch {σ : Type} (sys : System σ) (x : Executor) (ctx : Context σ) (r : Request) (s : σ) : Dispatch × σ :=
  match ctx.activeUi with
  | some ui =>
    let (reply, s) := ui.run (uiCall x r) s
    let result :=
      match reply.result with
      | .ok text => .ok (uiOutputs r.command text, text)
      | .error e => .error (.ofUi r.command e)
    (⟨result, reply.shown, [], [uiCall x r]⟩, s)
  | none =>
    let (report, s) := x.run sys r s
    let result :=
      match report.outcome with
      | .success outputs stdout => .ok (outputs, stdout)
      | .failure f => .error f
    (⟨result, report.lines.map .line, report.probes, []⟩, s)

def deliver {σ : Type} (sys : System σ) (target : Option String) (result : Except Failure (Outputs × String))
    (s : σ) : Except RunError Outputs × List Notice × σ :=
  match result with
  | .error f => (.error (.script f), [], s)
  | .ok (outputs, text) =>
    match target with
    | none => (.ok outputs, [], s)
    | some path =>
      match sys.files.append path text s with
      | (.ok (), shown, s) => (.ok outputs, shown, s)
      | (.error cause, shown, s) => (.error (.redirect path cause), shown, s)

def opening (ctx : Bool) (command : String) : List Notice :=
  if ctx then [.progress (.start progressTitle), .progress (.next command)] else []

def closing (ctx : Bool) (success : Bool) : List Notice := if ctx then [.progress (.finish success)] else []

def execute {σ : Type} (sys : System σ) (x : Executor) (ctx : Context σ) (args : ScriptArgs) (s : σ) :
    Report × σ :=
  let args := args.resolve ctx.project
  let (d, s) := dispatch sys x ctx args.request s
  let (result, shown, s) := deliver sys args.redirectTo d.result s
  let success := match result with
    | .ok _ => true
    | .error _ => false
  (⟨result, opening ctx.progress args.request.command ++ (d.notices ++ shown) ++ closing ctx.progress success, d.probes,
    d.uiCalls⟩, s)

end Driver

end ScriptRunner
