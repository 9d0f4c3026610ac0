import ScriptRunner.Proofs.Driver.Call
import ScriptRunner.Proofs.Execution.Outcome

namespace ScriptRunner

namespace ExitInfo

/-- How a run can end, of its own accord or by the deadline. -/
inductive Reported : ExitInfo → Prop where
  | exited (code : Int32) : Reported (.exited code)
  | signalled (signal : Int32) : Reported (.signalled signal)
  | unknown : Reported .unknown
  | timedOut : Reported .timedOut
  | spawnFailed (error : String) : Reported (.spawnFailed error)

theorem Reported.kind_eq_spawnFailure_iff {exit : ExitInfo} (h : exit.Reported) :
    exit.kind = .spawnFailure ↔ exit.spawnError.isSome = true := by
  cases h with
  | exited code => exact iff_of_false nofun nofun
  | signalled signal => exact iff_of_false nofun nofun
  | unknown => exact iff_of_false nofun nofun
  | timedOut => exact iff_of_false nofun nofun
  | spawnFailed error => exact iff_of_true rfl rfl

theorem kind_ne_userCancelled (exit : ExitInfo) : exit.kind ≠ .userCancelled := by
  unfold kind
  split
  · nofun
  · split <;> nofun

end ExitInfo

namespace Execution

open StreamDecoder (whole)

theorem Event.reported_of_exit? {e : Event} {exit : ExitInfo} (told : e.exit? = some exit) : exit.Reported := by
  cases e with
  | exited status =>
    cases told
    cases status with
    | exited code => exact .exited code
    | signalled signal => exact .signalled signal
  | ended =>
    cases told
    exact .unknown
  | lost error =>
    cases told
    exact .spawnFailed error
  | stdout bytes => cases told
  | stderr bytes => cases told
  | stdoutEnd => cases told
  | stderrEnd => cases told
  | deadline => cases told

namespace State

variable {δ : Type} {s : State δ}

theorem reported_of_exit? {exit : ExitInfo} (h : ∀ exit ∈ s.ending, exit.Reported) (told : s.exit? = some exit) :
    exit.Reported := by
  unfold exit? at told
  split at told
  · cases told
    exact .timedOut
  · split at told
    · exact h exit told
    · cases told

variable [BufferedDecoder δ]

theorem reported_step (h : ∀ exit ∈ s.ending, exit.Reported) (e : Event) :
    ∀ exit ∈ (s.step e).ending, exit.Reported := by
  have told (e : Event) : ∀ exit ∈ (s.withEnding e.exit?).ending, exit.Reported := by
    intro exit member
    cases before : s.ending with
    | some first => exact h exit (by simpa [withEnding, before] using member)
    | none => exact Event.reported_of_exit? (by simpa [withEnding, before] using member)
  unfold step
  split
  · exact h
  · cases e with
    | stdout bytes => exact h
    | stderr bytes => exact h
    | stdoutEnd => exact h
    | stderrEnd => exact h
    | deadline =>
      dsimp only
      split <;> exact h
    | exited status => exact told (.exited status)
    | ended => exact told .ended
    | lost error => exact told (.lost error)

theorem reported_run (h : ∀ exit ∈ s.ending, exit.Reported) (events : List Event) :
    ∀ exit ∈ (s.run events).ending, exit.Reported := by
  induction events generalizing s with
  | nil => exact h
  | cons e events ih => exact ih (reported_step h e)

end State

variable {δ : Type} [BufferedDecoder δ]

theorem Outcome.reported_ofChild (command label : String) (child : Child) :
    ∃ exit stderr stdout, exit.Reported ∧ ofChild δ command label child = ofExit command exit stderr stdout := by
  obtain ⟨exit, told, outcome⟩ := ofChild_eq δ command label child
  have fresh : ∀ exit ∈ (State.start label : State δ).ending, exit.Reported := nofun
  exact ⟨exit, _, _, State.reported_of_exit? (State.reported_run fresh child.events) told, outcome⟩

/-- The child exits with code 0 and closes both pipes, and no deadline falls before. -/
structure EndsWell (δ : Type) [BufferedDecoder δ] (limit : Option Nat) (label : String) (events : List Event) :
    Prop where
  possible : (State.start label : State δ).EnabledAll limit events
  finished : Finished events
  ontime : ¬ CutShort events
  zero : .exited (.exited 0) ∈ events

namespace EndsWell

variable {limit : Option Nat} {label : String} {child : Child}

theorem tracks (h : EndsWell δ limit label child.events) : Tracks label child.events (child.last δ label) :=
  (Reaches.start.run_enabled h.possible).tracks

theorem outcome (h : EndsWell δ limit label child.events) (command : String) :
    Outcome.ofChild δ command label child =
      .success (.parse (whole δ label (outBytes child.events) true)) (whole δ label (outBytes child.events) true) := by
  have complete := h.tracks.complete_iff.2 h.finished
  obtain ⟨exit, only, told⟩ := h.tracks.exit?_of_finished h.finished h.ontime
  have zero : ExitInfo.exited 0 ∈ exits child.events := List.mem_filterMap.2 ⟨_, h.zero, rfl⟩
  rw [only, List.mem_singleton] at zero
  obtain ⟨last, ends, outcome⟩ := Outcome.ofChild_eq δ command label child
  rw [told, Option.some.injEq] at ends
  have text : (child.last δ label).out.captured.joined = whole δ label (outBytes child.events) true :=
    h.tracks.out.sent.symm.trans (h.tracks.sent_of_complete complete).1
  rw [outcome, text, ← ends, ← zero]
  rfl

end EndsWell

theorem endsWell_ending (label : String) (number : Nat) (bytes : List UInt8) :
    EndsWell δ none label (Child.ending number [.stdout bytes] (.exited 0)).events where
  possible := by
    simp [Child.ending, State.EnabledAll, State.Enabled, State.step, State.killed, State.start, State.withOut,
      State.withErr, Stream.start, Stream.read, Stream.close, Stream.take_frame]
  finished := ⟨by simp [Child.ending], by simp [Child.ending], nofun⟩
  ontime := not_cutShort (by simp [Child.ending])
  zero := by simp [Child.ending]

end Execution

theorem Host.answer_keeps {σ α : Type} {host : Host σ} {P : σ → Prop}
    (query : ∀ program args s, P s → P (host.query program args s).2) (inquiry : Inquiry α) {s : σ} (h : P s) :
    P (host.answer inquiry s).2.2 := by
  induction inquiry generalizing s with
  | done a => exact h
  | env name next ih => exact ih _ h
  | path path next ih => exact ih _ h
  | query program args next ih => exact ih _ (query program args s h)

theorem ExecutionReport.probes_ofChild (δ : Type) [BufferedDecoder δ] (command label : String) (probes : List Probe)
    (child : Except String Execution.Child) : (ofChild δ command label probes child).probes = probes := by
  cases child <;> rfl

theorem System.dismiss_of_endsWell {σ : Type} {sys : System σ} {limit : Option Nat} {label : String}
    {child : Execution.Child} (well : Execution.EndsWell sys.Decoding limit label child.events) (s : σ) :
    sys.dismiss label (.ok child) s = s := by
  rw [dismiss, well.tracks.ontime well.ontime]
  rfl

namespace Executor

variable {σ : Type} {sys : System σ} {x : Executor} {r : Request} {s s' : σ} {label : String}

theorem run_of_answer {shell : Option String} {probes : List Probe} {asked : σ}
    {child : Except String Execution.Child}
    (answered : sys.host.answer (x.inquire sys.host.platform r) s = ((shell, label), probes, asked))
    (spawned : sys.spawn (.of shell r.command sys.host.platform) r (x.limit r) asked = (child, s')) :
    x.run sys r s = (.ofChild sys.Decoding r.command label probes child, sys.dismiss label child s') := by
  simp only [run, answered, spawned]

/-- When the questions about the shell and the encoding have their answers, one child is started. -/
inductive Starts (sys : System σ) (x : Executor) (r : Request) (s : σ) :
    Invocation → String → Except String Execution.Child → σ → Prop where
  | intro {shell : Option String} {label : String} {probes : List Probe} {asked s' : σ}
      {child : Except String Execution.Child}
      (answered : sys.host.answer (x.inquire sys.host.platform r) s = ((shell, label), probes, asked))
      (spawned : sys.spawn (.of shell r.command sys.host.platform) r (x.limit r) asked = (child, s')) :
      Starts sys x r s (.of shell r.command sys.host.platform) label child s'

theorem exists_starts (sys : System σ) (x : Executor) (r : Request) (s : σ) :
    ∃ invocation label child s', Starts sys x r s invocation label child s' :=
  ⟨_, _, _, _, .intro rfl rfl⟩

theorem Starts.of_answer {shell : Option String} {child : Except String Execution.Child}
    (found : (sys.host.answer (x.inquire sys.host.platform r) s).1 = (shell, label))
    (spawned : sys.spawn (.of shell r.command sys.host.platform) r (x.limit r)
      (sys.host.answer (x.inquire sys.host.platform r) s).2.2 = (child, s')) :
    Starts sys x r s (.of shell r.command sys.host.platform) label child s' :=
  .intro (Prod.ext found rfl) spawned

theorem Starts.run_eq {invocation : Invocation} {child : Except String Execution.Child}
    (h : Starts sys x r s invocation label child s') :
    ∃ probes, x.run sys r s = (.ofChild sys.Decoding r.command label probes child, sys.dismiss label child s') := by
  obtain ⟨answered, spawned⟩ := h
  exact ⟨_, run_of_answer answered spawned⟩

theorem run_reported (sys : System σ) (x : Executor) (r : Request) (s : σ) :
    ∃ exit stderr stdout, exit.Reported ∧ (x.run sys r s).1.outcome = .ofExit r.command exit stderr stdout := by
  obtain ⟨invocation, label, child, s', starts⟩ := exists_starts sys x r s
  obtain ⟨probes, ran⟩ := starts.run_eq
  rw [ran]
  cases child with
  | error error => exact ⟨_, "", "", .spawnFailed error, rfl⟩
  | ok child => exact Execution.Outcome.reported_ofChild r.command label child

/-- What questions, children and orders keep, a run keeps. -/
theorem run_keeps {P : σ → Prop} (query : ∀ program args s, P s → P (sys.host.query program args s).2)
    (spawn : ∀ invocation r limit s, P s → P (sys.spawn invocation r limit s).2)
    (obey : ∀ order number s, P s → P (sys.obey order number s)) (x : Executor) (r : Request) (h : P s) :
    P (x.run sys r s).2 := by
  obtain ⟨invocation, label, child, s', starts⟩ := x.exists_starts sys r s
  have kept : P s' := by
    cases starts with
    | @intro shell _ _ _ _ _ answered spawned =>
      have asked := Host.answer_keeps query (x.inquire sys.host.platform r) h
      have made := spawn (.of shell r.command sys.host.platform) r (x.limit r) _ asked
      rwa [answered, spawned] at made
  obtain ⟨probes, ran⟩ := starts.run_eq
  rw [ran]
  cases child with
  | error error => exact kept
  | ok child =>
    exact List.foldlRecOn _ _ kept fun s kept order _ => obey order child.number s kept

end Executor

namespace Call

open Execution (EndsWell outBytes)
open StreamDecoder (whole)

variable {σ : Type} {sys : System σ} {c : Call σ} {s s' : σ}

theorem activeUi_eq_none_iff : c.context.activeUi = none ↔ ∀ ui, c.context.ui = some ui → ui.available = false := by
  simp [Context.activeUi, Option.filter_eq_none_iff]

theorem activeUi_eq_some_iff {ui : Ui σ} :
    c.context.activeUi = some ui ↔ c.context.ui = some ui ∧ ui.available = true :=
  Option.filter_eq_some_iff

theorem succeeds_of_endsWell {invocation : Invocation} {label : String} {child : Execution.Child}
    (direct : c.context.activeUi = none)
    (starts : c.executor.Starts sys c.request s invocation label (.ok child) s')
    (well : EndsWell sys.Decoding (c.executor.limit c.request) label child.events) :
    c.Succeeds sys s (.parse (whole sys.Decoding label (outBytes child.events) true))
      (whole sys.Decoding label (outBytes child.events) true) s' := by
  obtain ⟨probes, ran⟩ := starts.run_eq
  rw [System.dismiss_of_endsWell well] at ran
  exact .printed direct ran (well.outcome c.request.command)

theorem dispatch_notices_of_direct (sys : System σ) (direct : c.context.activeUi = none) (s : σ) :
    ∃ lines : List LogLine, (Driver.dispatch sys c.executor c.context c.request s).1.notices = lines.map .line := by
  simp only [Driver.dispatch, direct]
  exact ⟨_, rfl⟩

end Call

end ScriptRunner
