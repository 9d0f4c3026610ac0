import ScriptRunner.Proofs.Failure.Message
import ScriptRunner.Proofs.Posix.Machine
import ScriptRunner.Proofs.Posix.Termination

namespace ScriptRunner.Execution

open LogLine (textAt)
open Outcome (ofState? ofExit)
open Posix (Machine)
open StreamDecoder (whole)

/-- A failure at the limit. Its message has the output that was sent so far, but for white space at the end. -/
structure StoppedAtLimit (f : Failure) (command stderr stdout : String) : Prop where
  kind : f.kind = .timeout
  command : f.command = command
  killed : f.exit.killed = true
  uncoded : f.exit.code = none
  unsignalled : f.exit.signal = none
  tells : Failure.Tells f.exit (Failure.telling stderr stdout) f.message

theorem stoppedAtLimit_ofExit (command stderr stdout : String) :
    StoppedAtLimit (.ofExit command .timedOut stderr stdout) command stderr stdout where
  kind := rfl
  command := rfl
  killed := rfl
  uncoded := rfl
  unsignalled := rfl
  tells := Failure.tells_messageOf _ _ _

/-- What the log and the captured output are behind the events, and what the run has come to. -/
structure Settles {δ : Type} [BufferedDecoder δ] (command label : String) (events : List Event) (s : State δ) :
    Prop where
  info : textAt s.lines .info = s.out.captured.joined
  warn : textAt s.lines .warn = s.err.captured.joined
  plain : ∀ line ∈ s.lines, line.text ≠ "" ∧ line.level ≠ .error
  settled : (ofState? command s).isSome = true ↔ CutShort events ∨ Finished events
  final : (ofState? command s).isSome = true → ∀ more, s.run more = s
  terminated : s.orders = terminate ↔ CutShort events
  spared : s.orders = [] ↔ ¬ CutShort events
  timeout : (∃ f, ofState? command s = some (.failure f) ∧ f.kind = .timeout) ↔ CutShort events
  late : CutShort events → ∃ f, ofState? command s = some (.failure f) ∧
    StoppedAtLimit f command (textAt s.lines .warn) (textAt s.lines .info)
  ontime : Finished events → ¬ CutShort events → ∃ e ∈ events, ∃ exit, e.exit? = some exit ∧ exits events = [exit] ∧
    ofState? command s = some (ofExit command exit (textAt s.lines .warn) (textAt s.lines .info)) ∧
    ((∃ outputs text, ofState? command s = some (.success outputs text)) ↔ e = .exited (.exited 0))
  info_prefix (rest : List UInt8) : (.stdoutEnd ∈ events → rest = []) →
    (textAt s.lines .info).toList <+: (whole δ label (outBytes events ++ rest) true).toList
  warn_prefix (rest : List UInt8) : (.stderrEnd ∈ events → rest = []) →
    (textAt s.lines .warn).toList <+: (whole δ label (errBytes events ++ rest) true).toList

theorem Tracks.settles {δ : Type} [BufferedDecoder δ] {label : String} {events : List Event} {s : State δ}
    (tracks : Tracks label events s) (command : String) : Settles command label events s where
  info := tracks.out.sent
  warn := tracks.err.sent
  plain := tracks.plain
  settled := tracks.ofState?_isSome_iff command
  final settled := by
    rw [ofState?, Option.isSome_map] at settled
    exact State.run_of_over settled
  terminated := by
    refine ⟨fun ordered => tracks.killed.1 ?_, tracks.cut⟩
    rw [State.killed, ordered]
    rfl
  spared := by
    refine ⟨fun none cut => ?_, tracks.ontime⟩
    rw [tracks.cut cut] at none
    cases none
  timeout := timeout_iff_cutShort tracks command
  late cut := ⟨_, tracks.ofState?_of_cutShort command cut, stoppedAtLimit_ofExit _ _ _⟩
  ontime finished ontime := by
    obtain ⟨e, present, exit, tells, told, outcome⟩ := tracks.ofState?_of_finished command finished ontime
    refine ⟨e, present, exit, tells, told, outcome, ?_⟩
    rw [← (Event.exit?_cases tells).2, outcome,
      ← Outcome.ofExit_success_iff command (textAt s.lines .warn) (textAt s.lines .info)]
    simp
  info_prefix rest follows := tracks.out.sent_prefix fun closed => follows (of_decide_eq_true closed)
  warn_prefix rest follows := tracks.err.sent_prefix fun closed => follows (of_decide_eq_true closed)

section Executor

variable {σ : Type} {sys : System σ} {x : Executor} {r : Request} {s s' : σ} {invocation : Invocation} {label : String}
  {child : Child}

theorem ofState?_last (δ : Type) [BufferedDecoder δ] (command label : String) (child : Child) :
    ofState? command (child.last δ label) = some (.ofChild δ command label child) := by
  simp [Outcome.ofChild]

/-- A child that is cut short is terminated, and any other is left alone. -/
theorem dismiss_of_tracks (tracks : Tracks label child.events (child.last sys.Decoding label)) (s : σ) :
    (CutShort child.events → sys.dismiss label (.ok child) s = sys.carryOut terminate child.number s) ∧
    (¬ CutShort child.events → sys.dismiss label (.ok child) s = s) := by
  refine ⟨fun cut => ?_, fun ontime => ?_⟩
  · rw [System.dismiss, tracks.cut cut]
  · rw [System.dismiss, tracks.ontime ontime]
    rfl

end Executor

/-- Every run has one outcome. It is a timeout, and the child is to be terminated, exactly when the deadline falls
before both pipes have ended and the child has exited; else the end of the child decides. The log holds what was
captured, and a timeout tells of that. The executor reports that outcome and that log, and terminates the child exactly
then. On a machine no process of the group that the child leads goes on behind that. -/
theorem reaches_outcome :
    (∀ (δ : Type) [BufferedDecoder δ] (limit : Option Nat) (command label : String) (events : List Event) (s : State δ),
      Reaches limit label events s → Settles command label events s) ∧
    (∀ (σ : Type) (sys : System σ) (x : Executor) (r : Request) (s s' : σ) (invocation : Invocation) (label : String)
      (child : Child), x.Starts sys r s invocation label (.ok child) s' →
      (State.start label : State sys.Decoding).EnabledAll (x.limit r) child.events →
      let last := child.last sys.Decoding label
      let ran := x.run sys r s
      Reaches (x.limit r) label child.events last ∧ ofState? r.command last = some ran.1.outcome ∧
      ran.1.lines = last.lines ∧ (CutShort child.events → ran.2 = sys.carryOut terminate child.number s') ∧
      (¬ CutShort child.events → ran.2 = s')) ∧
    ∀ (δ : Type) [BufferedDecoder δ] (number : Nat) (m : Machine),
      let after := (Machine.system δ).carryOut terminate number m
      (∀ q ∈ after.kernel.processes, q.number ≠ number ∧ (q.group = number → q.ended.isSome = true)) ∧
      ∀ p ∈ m.kernel.processes, p.ended = none → p.number ≠ number →
        (∀ r ∈ m.kernel.processes, r.group = number → p.number ≠ r.number) → Posix.Kernel.Outlives p after.kernel := by
  refine ⟨fun δ _ limit command label events s reached => reached.tracks.settles command, ?_,
    fun δ _ number m => Machine.terminated δ number m⟩
  intro σ sys x r s s' invocation label child starts possible last ran
  obtain ⟨probes, same⟩ := starts.run_eq
  have reached : Reaches (x.limit r) label child.events last := Reaches.start.run_enabled possible
  obtain ⟨cut, ontime⟩ := dismiss_of_tracks reached.tracks s'
  rw [show ran = _ from same]
  exact ⟨reached, ofState?_last _ _ _ _, rfl, cut, ontime⟩

/-- The shell is long gone, with code 0, but a descendant goes on up to the deadline and keeps its output open. -/
theorem timeout_behind_exit :
    let sys := Machine.system Decoder
    let r : Request := { Request.ofCommand "sleep 9 & echo hi" with timeout := some 500 }
    let events : List Event := [.stdout (utf8Bytes "hi\n"), .exited (.exited 0), .deadline]
    let ran := Executor.default.run sys r Machine.desk
    let asked := (sys.host.answer (Executor.default.inquire .linux r) Machine.desk).2.2
    let started := (sys.spawn (.of (some "/bin/sh") r.command .linux) r (some 500) asked).2
    (∃ q ∈ started.kernel.processes, q.group = 4002 ∧ q.ended = none) ∧
    (∃ s : State, Reaches (some 500) "utf-8" events s ∧ s.orders = terminate ∧ textAt s.lines .info = "hi\n") ∧
    (∃ f, ran.1.outcome = .failure f ∧ StoppedAtLimit f r.command "" "hi\n") ∧
    textAt ran.1.lines .info = "hi\n" ∧
    ∀ q ∈ ran.2.kernel.processes, q.number ≠ 4002 ∧ (q.group = 4002 → q.ended.isSome = true) := by
  intro sys r events ran asked started
  obtain ⟨settle, execute, machine⟩ := reaches_outcome
  let child : Child := ⟨4002, events, .inl (by simp [events])⟩
  let last := child.last sys.Decoding "utf-8"
  have found : (sys.host.answer (Executor.default.inquire .linux r) Machine.desk).1 = (some "/bin/sh", "utf-8") := by
    decide +kernel
  have spawned : (sys.spawn (.of (some "/bin/sh") r.command .linux) r (some 500) asked).1 = .ok child := by
    decide +kernel
  have starts : Executor.default.Starts sys r Machine.desk _ "utf-8" (.ok child) _ :=
    .of_answer found (Prod.ext spawned rfl)
  have cut : CutShort events := ⟨[.stdout (utf8Bytes "hi\n"), .exited (.exited 0)], [], rfl, by simp [Finished]⟩
  obtain ⟨reached, outcome, lines, terminated, -⟩ := execute _ _ _ _ _ _ _ _ _ starts (by decide +kernel)
  have settled := settle _ _ r.command _ _ _ reached
  have alive : started.kernel.processes.any (fun q => q.group == 4002 && q.ended.isNone) = true := by decide +kernel
  have info : textAt last.lines .info = "hi\n" := by decide +kernel
  have warn : textAt last.lines .warn = "" := by decide +kernel
  obtain ⟨f, failed, stopped⟩ : ∃ f, ofState? r.command last = some (.failure f) ∧
    StoppedAtLimit f r.command (textAt last.lines .warn) (textAt last.lines .info) := settled.late cut
  rw [info, warn] at stopped
  refine ⟨by simpa using alive, ⟨last, reached, settled.terminated.2 cut, info⟩,
    ⟨f, Option.some.inj (outcome.symm.trans failed), stopped⟩, ?_, ?_⟩
  · rw [show ran.1.lines = last.lines from lines]
    exact info
  · rw [show ran.2 = _ from terminated cut]
    exact (machine Decoder 4002 _).1

end ScriptRunner.Execution
