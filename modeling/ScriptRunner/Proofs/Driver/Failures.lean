import ScriptRunner.Proofs.Driver.Child
import ScriptRunner.Proofs.Posix.Machine

namespace ScriptRunner

/-- What is told of a failure fits together: it is about the command, the exit is none of a success, and the kind is
that of the exit, unless a user has stopped the command. -/
structure Failure.Consistent (f : Failure) (asked : String) (stopped : Prop) : Prop where
  command : f.command = asked
  unsuccessful : f.exit.success = false
  timeout : f.kind = .timeout ↔ f.exit.killed = true
  spawn : f.kind = .spawnFailure ↔ f.exit.spawnError.isSome = true
  cancelled : f.kind = .userCancelled ↔ stopped
  otherwise : f.kind = .nonZeroExit ↔ f.exit.killed = false ∧ f.exit.spawnError = none ∧ ¬ stopped

namespace Failure

theorem nonZeroExit_iff {f : Failure} {stopped : Prop} (timeout : f.kind = .timeout ↔ f.exit.killed = true)
    (spawn : f.kind = .spawnFailure ↔ f.exit.spawnError.isSome = true) (cancelled : f.kind = .userCancelled ↔ stopped) :
    f.kind = .nonZeroExit ↔ f.exit.killed = false ∧ f.exit.spawnError = none ∧ ¬ stopped := by
  rw [← Bool.not_eq_true, ← Option.not_isSome_iff_eq_none, ← timeout, ← spawn, ← cancelled]
  cases f.kind <;> simp

theorem consistent_ofExit (command stderr stdout : String) {exit : ExitInfo} (reported : exit.Reported)
    (failed : exit.success = false) : (ofExit command exit stderr stdout).Consistent command False := by
  have timeout := exit.kind_eq_timeout_iff
  have spawn := reported.kind_eq_spawnFailure_iff
  have cancelled := iff_of_false exit.kind_ne_userCancelled not_false
  have otherwise := nonZeroExit_iff (f := ofExit command exit stderr stdout) timeout spawn cancelled
  exact ⟨rfl, failed, timeout, spawn, cancelled, otherwise⟩

theorem consistent_ofUi (command : String) (e : UiError) : (ofUi command e).Consistent command (e = .cancelled) := by
  cases e <;> constructor <;> simp [ofUi, ExitInfo.unknown, ExitInfo.timedOut, ExitInfo.success]

end Failure

/-- The status that the program ends with after a failure. -/
structure ExitStatus.Fits (status : ExitStatus) (f : Failure) : Prop where
  timeout : status.code = 124 ↔ f.kind = .timeout
  spawn : status.code = 127 ↔ f.kind = .spawnFailure
  cancelled : status.code = 130 ↔ f.kind = .userCancelled
  otherwise : status.code = 1 ↔ f.kind = .nonZeroExit
  nonzero : status.code ≠ 0
  silent : status.message = "" ↔ f.kind = .userCancelled
  told : f.kind ≠ .userCancelled →
    f.command.toList <:+: status.message.toList ∧ f.message.toList <:+: status.message.toList

namespace RunError

theorem isUserCancel_script (f : Failure) : (script f).isUserCancel = true ↔ f.kind = .userCancelled := by
  simp [isUserCancel, kind?, failure?]

theorem message_script (f : Failure) :
    (script f).message = "failed to run \x60" ++ f.command ++ "\x60: " ++ f.text := rfl

theorem message_redirect (path cause : String) :
    (redirect path cause).message = "failed to append output to " ++ path ++ ": " ++ cause := rfl

theorem message_ne_empty (e : RunError) : e.message ≠ "" := by
  cases e with
  | script f =>
    rw [message_script, Ne, String.append_eq_empty_iff, String.append_eq_empty_iff]
    exact fun empty => absurd empty.1.2 (by decide)
  | redirect path cause =>
    rw [message_redirect, Ne, String.append_eq_empty_iff, String.append_eq_empty_iff]
    exact fun empty => absurd empty.1.2 (by decide)

theorem command_infix_message (f : Failure) : f.command.toList <:+: (script f).message.toList := by
  rw [message_script, String.append_assoc, String.toList_append, String.toList_append]
  exact List.infix_append _ _ _

theorem message_infix_message (f : Failure) : f.message.toList <:+: (script f).message.toList := by
  rw [message_script, Failure.text, ← String.append_assoc, String.toList_append]
  exact (List.suffix_append _ _).isInfix

end RunError

namespace ExitStatus

theorem ofError_code_script (f : Failure) : (ofError (.script f)).code = codeOf f.kind := by
  unfold ofError
  split <;> rfl

theorem ofError_message_of_cancelled {e : RunError} (cancelled : e.isUserCancel = true) : (ofError e).message = "" := by
  simp [ofError, cancelled]

theorem ofError_message {e : RunError} (cancelled : e.isUserCancel = false) : (ofError e).message = e.message := by
  simp [ofError, cancelled]

theorem ofError_message_eq_empty_iff (e : RunError) : (ofError e).message = "" ↔ e.isUserCancel = true := by
  cases cancelled : e.isUserCancel with
  | true => simp [ofError_message_of_cancelled cancelled]
  | false => simpa [ofError_message cancelled] using e.message_ne_empty

theorem fits_ofError (f : Failure) : (ofError (.script f)).Fits f := by
  have code := ofError_code_script f
  refine ⟨?_, ?_, ?_, ?_, ?_, ?_, ?_⟩
  · rw [code]
    cases f.kind <;> decide
  · rw [code]
    cases f.kind <;> decide
  · rw [code]
    cases f.kind <;> decide
  · rw [code]
    cases f.kind <;> decide
  · rw [code]
    cases f.kind <;> decide
  · rw [ofError_message_eq_empty_iff, RunError.isUserCancel_script]
  · intro other
    have loud : (RunError.script f).isUserCancel = false := by
      rwa [← Bool.not_eq_true, RunError.isUserCancel_script]
    rw [ofError_message loud]
    exact ⟨RunError.command_infix_message f, RunError.message_infix_message f⟩

end ExitStatus

theorem Execution.Outcome.failure_of_ofExit {command stderr stdout : String} {exit : ExitInfo} {f : Failure}
    (h : ofExit command exit stderr stdout = .failure f) :
    exit.success = false ∧ f = .ofExit command exit stderr stdout := by
  unfold ofExit at h
  split at h
  · cases h
  · next failed =>
    cases h
    exact ⟨Bool.eq_false_iff.2 failed, rfl⟩

namespace Call

open Execution (EndsWell)
open Posix (Machine)

variable {σ : Type} {sys : System σ} {c : Call σ} {s s' : σ}

/-- The call has a runner, and there the user stops the command. -/
def Cancelled (c : Call σ) (s : σ) : Prop :=
  ∃ ui, c.context.activeUi = some ui ∧ (ui.run (Driver.uiCall c.executor c.request) s).1.result = .error .cancelled

theorem not_cancelled (direct : c.context.activeUi = none) : ¬ c.Cancelled s := by
  rintro ⟨ui, active, -⟩
  rw [direct] at active
  cases active

theorem cancelled_iff {ui : Ui σ} {e : UiError} {notices : List Notice} (active : c.context.activeUi = some ui)
    (reply : ui.run (Driver.uiCall c.executor c.request) s = (⟨.error e, notices⟩, s')) :
    c.Cancelled s ↔ e = .cancelled := by
  simp [Cancelled, active, reply]

theorem Fails.consistent {f : Failure} (h : c.Fails sys s f s') :
    f.Consistent c.args.request.command (c.Cancelled s) := by
  cases h with
  | refused active reply =>
    rw [cancelled_iff active reply]
    exact Failure.consistent_ofUi _ _
  | @failed _ report _ direct ran outcome =>
    obtain ⟨exit, stderr, stdout, reported, made⟩ := Executor.run_reported sys c.executor c.request s
    rw [ran, outcome] at made
    obtain ⟨failed, rfl⟩ := Execution.Outcome.failure_of_ofExit made.symm
    have never : c.Cancelled s ↔ False := iff_of_false (not_cancelled direct) not_false
    rw [never]
    exact Failure.consistent_ofExit _ _ _ reported failed

/-- A failure that a call reports fits together, and so does the status that follows from it. Output that could not be
added to its file is an error of another sort. A child that exits with code 0 in time is no failure. -/
theorem failure_consistent (sys : System σ) (c : Call σ) (s : σ) :
    (∀ f, (c.run sys s).1.result = .error (.script f) →
      f.Consistent c.args.request.command (c.Cancelled s) ∧ (ExitStatus.ofError (.script f)).Fits f ∧
      (c.context.activeUi = none → f.kind ≠ .userCancelled)) ∧
    (∀ path cause, (RunError.redirect path cause).kind? = none ∧
      (ExitStatus.ofError (.redirect path cause)).code = 1 ∧
      (ExitStatus.ofError (.redirect path cause)).message ≠ "") ∧
    ∀ invocation label child s', c.context.activeUi = none →
      c.executor.Starts sys c.request s invocation label (.ok child) s' →
      EndsWell sys.Decoding (c.executor.limit c.request) label child.events →
      ∀ f, (c.run sys s).1.result ≠ .error (.script f) := by
  refine ⟨?_, ?_, ?_⟩
  · intro f failed
    obtain ⟨s', failure⟩ := result_script_iff.1 failed
    have consistent := failure.consistent
    refine ⟨consistent, ExitStatus.fits_ofError f, ?_⟩
    intro direct stopped
    exact not_cancelled direct (consistent.cancelled.1 stopped)
  · intro path cause
    refine ⟨rfl, rfl, ?_⟩
    rw [ExitStatus.ofError_message rfl]
    exact RunError.message_ne_empty _
  · intro invocation label child s' direct starts well f failed
    have success := succeeds_of_endsWell direct starts well
    obtain ⟨s'', failure⟩ := result_script_iff.1 failed
    exact success.not_fails failure

/-- A command that fails, one that the user stops, and one that succeeds. -/
theorem failure_of_stopped_command :
    let sys := Machine.system Decoder
    let stops : Ui Machine := ⟨true, fun _ m => (⟨.error .cancelled, []⟩, m)⟩
    let failing : Call Machine := ⟨.default, .plain, .ofCommand "exit 3", none⟩
    let stopped : Call Machine := ⟨.default, ⟨some stops, true, none⟩, .ofCommand "sleep 9", none⟩
    let known : Call Machine := ⟨.default, .plain, .ofCommand "echo a", none⟩
    (∃ f, (failing.run sys Machine.desk).1.result = .error (.script f) ∧ f.exit.killed = false ∧
      (ExitStatus.ofError (.script f)).code = 1 ∧ f.kind ≠ .userCancelled) ∧
    (∃ f, (stopped.run sys Machine.desk).1.result = .error (.script f) ∧ f.exit.success = false ∧
      (ExitStatus.ofError (.script f)).code = 130 ∧ (ExitStatus.ofError (.script f)).message = "") ∧
    ∀ f, (known.run sys Machine.desk).1.result ≠ .error (.script f) := by
  intro sys stops failing stopped known
  refine ⟨⟨⟨.nonZeroExit, "process exited with code 3", "exit 3", .exited 3⟩, ?_⟩,
    ⟨⟨.userCancelled, "cancelled by user", "sleep 9", .unknown⟩, ?_⟩, ?_⟩
  · have failed : (failing.run sys Machine.desk).1.result =
        .error (.script ⟨.nonZeroExit, "process exited with code 3", "exit 3", .exited 3⟩) := by decide +kernel
    obtain ⟨consistent, fits, direct⟩ := (failure_consistent sys failing Machine.desk).1 _ failed
    exact ⟨failed, (consistent.otherwise.1 rfl).1, fits.otherwise.2 rfl, direct rfl⟩
  · have failed : (stopped.run sys Machine.desk).1.result =
        .error (.script ⟨.userCancelled, "cancelled by user", "sleep 9", .unknown⟩) := by decide +kernel
    obtain ⟨consistent, fits, -⟩ := (failure_consistent sys stopped Machine.desk).1 _ failed
    exact ⟨failed, consistent.unsuccessful, fits.cancelled.2 rfl, fits.silent.2 rfl⟩
  · have found : (sys.host.answer (known.executor.inquire .linux known.request) Machine.desk).1 =
        (some "/bin/sh", "utf-8") := by decide +kernel
    have spawned : (sys.spawn (.of (some "/bin/sh") "echo a" .linux) known.request none
        (sys.host.answer (known.executor.inquire .linux known.request) Machine.desk).2.2).1 =
          .ok (.ending 4002 [.stdout (utf8Bytes "a\n")] (.exited 0)) := by decide +kernel
    exact (failure_consistent sys known Machine.desk).2.2 _ _ _ _ rfl (.of_answer found (Prod.ext spawned rfl))
      (Execution.endsWell_ending _ _ _)

end Call

end ScriptRunner
