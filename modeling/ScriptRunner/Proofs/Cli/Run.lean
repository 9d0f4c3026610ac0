import ScriptRunner.Cli.Program
import ScriptRunner.Proofs.Driver.Failures
import ScriptRunner.Proofs.Posix.Machine

namespace ScriptRunner.Cli

open Posix

def statusOf : Except RunError Outputs → Nat
  | .ok _ => 0
  | .error (.script f) => ExitStatus.codeOf f.kind
  | .error (.redirect _ _) => 1

/-- The outputs in either format; a failure of the script is a document only in JSON. -/
def documentOf : Except RunError Outputs → OutputFormat → List UInt8
  | .ok outputs, format => utf8Bytes (renderOutputs outputs format)
  | .error (.script f), .json => utf8Bytes (renderFailure f)
  | .error _, _ => []

/-- An error is told in one line, unless it is that the user has stopped the script. -/
def bannerOf (colors : Bool) : Except RunError Outputs → List UInt8
  | .ok _ => []
  | .error e =>
    if e.isUserCancel then [] else utf8Bytes (Role.error.paint colors "error:" ++ " " ++ e.message ++ "\n")

theorem own_empty : [Piece.own (utf8Bytes "")] = [.own []] := by decide +kernel

theorem banner_empty (colors : Bool) : banner colors "" = "" := rfl

theorem banner_of_ne_empty (colors : Bool) {message : String} (told : message ≠ "") :
    banner colors message = Role.error.paint colors "error:" ++ " " ++ message ++ "\n" := by
  have full : message.isEmpty = false := by simpa using told
  simp [banner, full]

theorem conclude_code (result : Except RunError Outputs) (format : OutputFormat) (colors : Bool) :
    (conclude result format colors).code = statusOf result := by
  rcases result with (f | ⟨path, cause⟩) | outputs
  · exact ExitStatus.ofError_code_script f
  · rfl
  · rfl

theorem conclude_stdout (result : Except RunError Outputs) (format : OutputFormat) (colors : Bool) :
    (conclude result format colors).stdout = [.own (documentOf result format)] := by
  rcases result with (f | ⟨path, cause⟩) | outputs
  · cases format with
    | text => exact own_empty
    | json => rfl
  · cases format <;> exact own_empty
  · rfl

theorem conclude_stderr (result : Except RunError Outputs) (format : OutputFormat) (colors : Bool) :
    (conclude result format colors).stderr = [.own (bannerOf colors result)] := by
  cases result with
  | ok outputs => exact own_empty
  | error e =>
    show [Piece.own (utf8Bytes (banner colors (ExitStatus.ofError e).message))] = [.own (bannerOf colors (.error e))]
    cases cancelled : e.isUserCancel with
    | true =>
      rw [ExitStatus.ofError_message_of_cancelled cancelled, banner_empty, bannerOf, if_pos cancelled]
      exact own_empty
    | false =>
      rw [ExitStatus.ofError_message cancelled, banner_of_ne_empty colors e.message_ne_empty, bannerOf, cancelled]
      rfl

namespace Console

theorem stdout_lines (lines : List LogLine) : (lines.map Notice.line).flatMap stdout = [] := by
  simp [stdout]

theorem stderr_lines {c : Console} (quiet : c.quiet = true) (lines : List LogLine) :
    (lines.map Notice.line).flatMap c.stderr = [] := by
  have silent (l : LogLine) : c.stderr (.line l) = [] := by
    rw [stderr, if_pos quiet]
  simp [silent]

theorem stdout_opening (progress : Bool) (command : String) :
    (Driver.opening progress command).flatMap stdout = [] := by
  cases progress <;> rfl

theorem stdout_closing (progress success : Bool) : (Driver.closing progress success).flatMap stdout = [] := by
  cases progress <;> rfl

end Console

def RunArgs.call {σ : Type} (a : RunArgs) (x : Executor) (ui : Ui σ) : Call σ := ⟨x, a.context ui, a.scriptArgs⟩

theorem RunArgs.direct {σ : Type} {a : RunArgs} (alone : a.interactive = false) (x : Executor) (ui : Ui σ) :
    (a.call x ui).context.activeUi = none := by
  simp [call, context, Context.activeUi, alone]

section Run

variable {σ : Type} {sys : System σ} {ui : Ui σ} {x : Executor} {a : RunArgs} {format : OutputFormat}
  {colors : Bool} {s : σ}

theorem runScript_eq (sys : System σ) (ui : Ui σ) (x : Executor) (a : RunArgs) (format : OutputFormat) (colors : Bool)
    (s : σ) : (runScript sys ui x a format colors s).1 =
      (conclude ((a.call x ui).run sys s).1.result format colors).after
        (((a.call x ui).run sys s).1.notices.flatMap Console.stdout)
        (((a.call x ui).run sys s).1.notices.flatMap (⟨a.quiet, colors⟩ : Console).stderr) := rfl

theorem notices_stdout (alone : a.interactive = false) :
    ((a.call x ui).run sys s).1.notices.flatMap Console.stdout =
      ((a.call x ui).shown sys s).flatMap Console.stdout := by
  obtain ⟨lines, shown⟩ := Call.dispatch_notices_of_direct sys (a.direct alone x ui) s
  rw [Call.notices_eq, shown]
  simp only [List.flatMap_append, Console.stdout_opening, Console.stdout_lines, Console.stdout_closing, List.nil_append,
    List.append_nil]

theorem notices_stderr_of_quiet (alone : a.interactive = false) (quiet : a.quiet = true) :
    ((a.call x ui).run sys s).1.notices.flatMap (⟨a.quiet, colors⟩ : Console).stderr =
      ((a.call x ui).shown sys s).flatMap (⟨a.quiet, colors⟩ : Console).stderr := by
  obtain ⟨lines, shown⟩ := Call.dispatch_notices_of_direct sys (a.direct alone x ui) s
  have untold : (a.call x ui).context.progress = false := by simp [RunArgs.call, RunArgs.context, quiet]
  rw [Call.notices_eq, shown, untold]
  simp [Driver.opening, Driver.closing, Console.stderr_lines (c := ⟨a.quiet, colors⟩) quiet]

theorem stdout_shown {c : Call σ} (apart : ∀ text, ¬ c.Reopens sys s false text) :
    (c.shown sys s).flatMap Console.stdout = [] := by
  apply List.flatMap_eq_nil_iff.2
  intro notice told
  obtain ⟨toStderr, text, taken, reopens, rfl⟩ := Call.reopens_of_mem_shown told
  cases toStderr with
  | false => exact absurd reopens (apart text)
  | true => rfl

theorem stderr_shown {c : Call σ} (apart : ∀ text, ¬ c.Reopens sys s true text) (console : Console) :
    (c.shown sys s).flatMap console.stderr = [] := by
  apply List.flatMap_eq_nil_iff.2
  intro notice told
  obtain ⟨toStderr, text, taken, reopens, rfl⟩ := Call.reopens_of_mem_shown told
  cases toStderr with
  | false => rfl
  | true => exact absurd reopens (apart text)

theorem stdout_runScript (alone : a.interactive = false) :
    (runScript sys ui x a format colors s).1.stdout = ((a.call x ui).shown sys s).flatMap Console.stdout ++
      [.own (documentOf ((a.call x ui).run sys s).1.result format)] := by
  rw [runScript_eq, Finished.after, notices_stdout alone, conclude_stdout]

theorem stderr_runScript_of_quiet (alone : a.interactive = false) (quiet : a.quiet = true) :
    (runScript sys ui x a format colors s).1.stderr =
      ((a.call x ui).shown sys s).flatMap (⟨a.quiet, colors⟩ : Console).stderr ++
        [.own (bannerOf colors ((a.call x ui).run sys s).1.result)] := by
  rw [runScript_eq, Finished.after, notices_stderr_of_quiet alone quiet, conclude_stderr]

/-- The text was added at the end of what the stream leads to, before the bytes were written. A pipe, a terminal and a
file that was opened for adding have them behind the text. A file that is written from an offset has them there, in
place of what stood there, even of the text. -/
structure Outlet.Reopened (pieces : List Piece) (text : String) (bytes : List UInt8) : Prop where
  tail (content : List UInt8) : (Outlet.tail content).after pieces = .tail (content ++ utf8Bytes text ++ bytes)
  file (content : List UInt8) (offset : Nat) : (Outlet.file content offset).after pieces =
    .file (Outlet.overwrite (content ++ utf8Bytes text) offset bytes) (offset + bytes.length)

/-- What the program does to its streams in a call: it writes what the result tells, and nothing else unless the text of
the call is added to the stream. On standard error it writes more than that if the run is not quiet. -/
structure Finished.Reports (f : Finished) (sys : System σ) (c : Call σ) (s : σ) (format : OutputFormat)
    (colors quiet : Bool) : Prop where
  status : f.code = statusOf (c.run sys s).1.result
  document : (∀ text, ¬ c.Reopens sys s false text) →
    ∀ o : Outlet, o.after f.stdout = o.write (documentOf (c.run sys s).1.result format)
  reopened {text : String} {outputs : Outputs} (reopens : c.Reopens sys s false text)
    (answer : (c.run sys s).1.result = .ok outputs) :
    Outlet.Reopened f.stdout text (documentOf (.ok outputs) format)
  quiet : quiet = true → (∀ text, ¬ c.Reopens sys s true text) →
    ∀ o : Outlet, o.after f.stderr = o.write (bannerOf colors (c.run sys s).1.result)

theorem Outlet.reopened_of_added (text : String) (bytes : List UInt8) :
    Reopened [.added (utf8Bytes text), .own bytes] text bytes where
  tail _ := rfl
  file _ _ := rfl

theorem reports_runScript (alone : a.interactive = false) :
    (runScript sys ui x a format colors s).1.Reports sys (a.call x ui) s format colors a.quiet := by
  refine ⟨?_, ?_, ?_, ?_⟩
  · rw [runScript_eq]
    exact conclude_code _ _ _
  · intro apart o
    rw [stdout_runScript alone, stdout_shown apart]
    rfl
  · intro text outputs reopens answer
    rw [stdout_runScript alone, reopens.shown answer, answer]
    exact Outlet.reopened_of_added text _
  · intro quiet apart o
    rw [stderr_runScript_of_quiet alone quiet, stderr_shown apart]
    rfl

end Run

theorem run_eq_runScript (δ : Type) [BufferedDecoder δ] (hash : String) {words : List String} {m : Machine}
    {path : Option String} {format : OutputFormat} {a : RunArgs} {config : Config}
    (parsed : CommandLine.parse words = .ok ⟨path, format, .run a⟩) (alone : a.interactive = false)
    (read : readConfig path m = .ok config) :
    run δ hash words m = runScript (Machine.system δ) Machine.ui (config.executor (m.envText? timeoutVariable)) a format
      (colors m) m := by
  simp only [run, parsed, carryOut, read, alone]
  rfl

/-- A run without a terminal tells the result of the script and nothing else, whatever the child does. Its status, what it
writes to standard output and, when it is quiet, what it writes to standard error follow from the result and the format.
A text that is to be added to one of the two streams comes first there. The program does so for all arguments and
configurations that it accepts, and there only a path that leads to a stream adds a text to it. -/
theorem run_reports :
    (∀ (σ : Type) (sys : System σ) (ui : Ui σ) (x : Executor) (a : RunArgs) (format : OutputFormat) (colors : Bool)
        (s : σ), a.interactive = false →
      (runScript sys ui x a format colors s).1.Reports sys (a.call x ui) s format colors a.quiet) ∧
    ∀ (δ : Type) [BufferedDecoder δ] (hash : String) (words : List String) (m : Machine) (path : Option String)
      (format : OutputFormat) (a : RunArgs) (config : Config), CommandLine.parse words = .ok ⟨path, format, .run a⟩ →
      a.interactive = false → readConfig path m = .ok config →
      let c := a.call (config.executor (m.envText? timeoutVariable)) Machine.ui
      (run δ hash words m).1.Reports (Machine.system δ) c m format (colors m) a.quiet ∧
      ∀ toStderr, (∀ t, a.redirectTo = some t → m.stream? (Path.resolve a.project t) ≠ some toStderr) →
        ∀ text, ¬ c.Reopens (Machine.system δ) m toStderr text := by
  refine ⟨fun σ sys ui x a format colors s => reports_runScript, ?_⟩
  intro δ _ hash words m path format a config parsed alone read c
  refine ⟨?_, ?_⟩
  · rw [run_eq_runScript δ hash parsed alone read]
    exact reports_runScript alone
  · intro toStderr apart text reopens
    obtain ⟨t, asked, stream⟩ := Machine.stream?_of_reopens (a.direct alone _ _) reopens
    exact apart t asked stream

deriving instance DecidableEq for Command
deriving instance DecidableEq for CommandLine

/-- A script that prints and then fails tells its failure, and what it printed only as the message. -/
theorem reports_of_failed_script :
    let words := ["run", "-q", "-o", "json", "--redirect-to", "log", "--", "echo lost; exit 3"]
    let failure : Failure := ⟨.nonZeroExit, "lost", "echo lost; exit 3", .exited 3⟩
    (run Decoder "" words Machine.desk).1.code = 1 ∧
    (∀ o : Outlet, o.after (run Decoder "" words Machine.desk).1.stdout = o.write (utf8Bytes (renderFailure failure))) ∧
    ∀ o : Outlet, o.after (run Decoder "" words Machine.desk).1.stderr =
      o.write (utf8Bytes "error: failed to run \x60echo lost; exit 3\x60: non-zero exit: lost\n") := by
  intro words failure
  let a : RunArgs := ⟨["echo lost; exit 3"], none, none, none, [], some "log", none, false, true⟩
  let c := a.call (Config.default.executor (Machine.desk.envText? timeoutVariable)) Machine.ui
  have parsed : CommandLine.parse words = .ok ⟨none, .json, .run a⟩ := by decide +kernel
  have result : (c.run (Machine.system Decoder) Machine.desk).1.result = .error (.script failure) := by decide +kernel
  obtain ⟨reports, apart⟩ := run_reports.2 Decoder "" words Machine.desk none .json a .default parsed rfl rfl
  have dry (toStderr : Bool) : ∀ text, ¬ c.Reopens (Machine.system Decoder) Machine.desk toStderr text := by
    apply apart toStderr
    rintro t ⟨⟩
    cases toStderr <;> decide +kernel
  have status := reports.status
  have document := reports.document (dry false)
  have quiet := reports.quiet rfl (dry true)
  have banner : bannerOf (colors Machine.desk) (.error (.script failure)) =
    utf8Bytes "error: failed to run \x60echo lost; exit 3\x60: non-zero exit: lost\n" := by decide +kernel
  rw [result] at status document quiet
  rw [banner] at quiet
  exact ⟨status, document, quiet⟩

/-- With the path of standard output itself as the target, a pipe does not get the document of the result alone: what
the script printed stands in front of it. -/
theorem stdout_of_own_stream :
    ¬ ∀ (hash : String) (words : List String) (m : Machine) (path : Option String) (format : OutputFormat) (a : RunArgs)
      (config : Config), CommandLine.parse words = .ok ⟨path, format, .run a⟩ → a.interactive = false →
      readConfig path m = .ok config →
      let c := a.call (config.executor (m.envText? timeoutVariable)) Machine.ui
      (Outlet.tail []).after (run Decoder hash words m).1.stdout =
        .tail (documentOf (c.run (Machine.system Decoder) m).1.result format) := by
  intro claim
  let words := ["run", "-q", "--redirect-to", "/dev/stdout", "--", "echo ::set-output K=v"]
  let a : RunArgs := ⟨["echo ::set-output K=v"], none, none, none, [], some "/dev/stdout", none, false, true⟩
  let c := a.call (Config.default.executor (Machine.desk.envText? timeoutVariable)) Machine.ui
  have parsed : CommandLine.parse words = .ok ⟨none, .text, .run a⟩ := by decide +kernel
  have result : (c.run (Machine.system Decoder) Machine.desk).1.result = .ok (.ofPairs [("K", "v")]) := by
    decide +kernel
  have stdout : (run Decoder "" words Machine.desk).1.stdout =
    [.added (utf8Bytes "::set-output K=v\n"), .own (utf8Bytes "K=v\n")] := by decide +kernel
  have told := claim "" words Machine.desk none .text a .default parsed rfl rfl
  dsimp only at told
  rw [result, stdout] at told
  revert told
  decide +kernel

end ScriptRunner.Cli
