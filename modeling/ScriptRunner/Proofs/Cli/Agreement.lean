import ScriptRunner.Proofs.Cli.Run
import ScriptRunner.Proofs.Decoding.Lossy
import ScriptRunner.Proofs.Marker.Boundary

namespace ScriptRunner

open Execution (EndsWell outBytes)
open StreamDecoder (whole)

namespace Outputs

theorem parse_mark (text : List Char) : parse (String.ofList ('\uFEFF' :: text)) = parse (String.ofList text) := by
  simp only [parse, String.toList_ofList]
  rw [Marker.pairs_cons (fun _ colon => by cases colon)]

theorem parse_whole {δ : Type} [BufferedDecoder δ] (standard : ByteMachine.ReadsUtf8 δ) {label : String}
    (named : Encoding.forLabel label = .utf8) (text : String) :
    parse (whole δ label (utf8Bytes text) true) = parse text := by
  rw [StreamDecoder.whole_of_utf8 standard named]
  by_cases plain : text.toList.head? = some '\uFEFF'
  · obtain ⟨rest, shape⟩ := List.head?_eq_some_iff.1 plain
    have marked : utf8Bytes text = Encoding.utf8.byteOrderMark ++ utf8Bytes (String.ofList rest) := by
      rw [← String.ofList_toList (s := text), shape, Utf8.utf8Bytes_ofList, Utf8.utf8Bytes_ofList, List.flatMap_cons,
        Decoder.byteOrderMark_utf8]
    rw [marked, Decoder.withoutMark_append_utf8Bytes, utf8Lossy_utf8Bytes, ← parse_mark, ← shape, String.ofList_toList]
  · rw [Decoder.withoutMark_utf8Bytes plain, utf8Lossy_utf8Bytes]

end Outputs

namespace Call

/-- The child of the call prints the bytes, in any pieces, and exits with code 0 in time. What it prints is read as
UTF-8. -/
inductive PrintsBytes {σ : Type} (sys : System σ) (c : Call σ) (s : σ) (bytes : List UInt8) : Prop where
  | intro {invocation : Invocation} {label : String} {child : Execution.Child} {s' : σ}
      (starts : c.executor.Starts sys c.request s invocation label (.ok child) s')
      (well : EndsWell sys.Decoding (c.executor.limit c.request) label child.events)
      (printed : outBytes child.events = bytes) (named : Encoding.forLabel label = .utf8) : PrintsBytes sys c s bytes

variable {σ : Type} {sys : System σ} {c : Call σ} {s : σ}

theorem PrintsBytes.succeeds {bytes : List UInt8} {text : String} (h : c.PrintsBytes sys s bytes)
    (standard : ByteMachine.ReadsUtf8 sys.Decoding) (direct : c.context.activeUi = none)
    (valid : utf8Strict? bytes = some text) : ∃ told s', c.Succeeds sys s (.parse text) told s' := by
  obtain ⟨starts, well, printed, named⟩ := h
  have success := succeeds_of_endsWell direct starts well
  rw [printed, ← Utf8.utf8Bytes_of_strict valid, Outputs.parse_whole standard named] at success
  exact ⟨_, _, success⟩

theorem PrintsBytes.of_ending {bytes : List UInt8} (shell : Option String) (number : Nat)
    (unlimited : c.executor.limit c.request = none)
    (found : (sys.host.answer (c.executor.inquire sys.host.platform c.request) s).1 = (shell, "utf-8"))
    (spawned : (sys.spawn (.of shell c.request.command sys.host.platform) c.request none
      (sys.host.answer (c.executor.inquire sys.host.platform c.request) s).2.2).1 =
        .ok (.ending number [.stdout bytes] (.exited 0))) : c.PrintsBytes sys s bytes := by
  rw [← unlimited] at spawned
  refine .intro (.of_answer found (Prod.ext spawned rfl)) ?_ (List.append_nil bytes) (by decide +kernel)
  rw [unlimited]
  exact Execution.endsWell_ending _ number bytes

/-- What the script succeeded with is the answer, unless it cannot be added to the file that the call asks for. -/
theorem result_of_succeeds {outputs : Outputs} {text : String} {s' : σ} (success : c.Succeeds sys s outputs text s') :
    (c.run sys s).1.result = .ok outputs ∨ ∃ path cause, (c.run sys s).1.result = .error (.redirect path cause) := by
  by_cases done : ∀ path, c.Target path → (sys.files.append path text s').1 = .ok ()
  · exact .inl (result_ok_iff.2 ⟨text, s', success, done⟩)
  · simp only [not_forall] at done
    obtain ⟨path, target, refused⟩ := done
    cases told : (sys.files.append path text s').1 with
    | ok => exact absurd told refused
    | error cause => exact .inr ⟨path, cause, result_redirect_iff.2 ⟨_, _, _, success, target, told⟩⟩

end Call

namespace Cli

open Posix

/-- What a call does to standard output, beside what is done there after reading the same bytes: the same, unless the
text of the call cannot be added to its file at all, or is added to standard output itself before. -/
structure Finished.Agrees {σ : Type} (ran read : Finished) (sys : System σ) (c : Call σ) (s : σ) : Prop where
  same : (∀ path cause, (c.run sys s).1.result ≠ .error (.redirect path cause)) →
    (∀ text, ¬ c.Reopens sys s false text) → ran.stdout = read.stdout
  reopened {text : String} (reopens : c.Reopens sys s false text)
    (kept : ∀ path cause, (c.run sys s).1.result ≠ .error (.redirect path cause)) (o : Outlet) :
    o.after ran.stdout = (o.take (.added (utf8Bytes text))).after read.stdout
  refused {path cause : String} (refused : (c.run sys s).1.result = .error (.redirect path cause))
    (apart : ∀ text, ¬ c.Reopens sys s false text) (o : Outlet) : o.after ran.stdout = o

theorem Outlet.write_nil (o : Outlet) : o.write [] = o := by
  cases o <;> simp [write, take, Piece.bytes, overwrite]

theorem agrees_runScript {σ : Type} {sys : System σ} {ui : Ui σ} {x : Executor} {a : RunArgs} {s : σ}
    {bytes : List UInt8} {text : String} (standard : ByteMachine.ReadsUtf8 sys.Decoding) (alone : a.interactive = false)
    (prints : (a.call x ui).PrintsBytes sys s bytes) (valid : utf8Strict? bytes = some text) (name : String)
    (format : OutputFormat) (colors colors' : Bool) : (runScript sys ui x a format colors s).1.Agrees
      (parseText name (.ok text) format colors') sys (a.call x ui) s := by
  obtain ⟨told, s', success⟩ := prints.succeeds standard (a.direct alone x ui) valid
  have reports : (runScript sys ui x a format colors s).1.Reports sys (a.call x ui) s format colors a.quiet :=
    reports_runScript alone
  have answer (kept : ∀ path cause, ((a.call x ui).run sys s).1.result ≠ .error (.redirect path cause)) :
      ((a.call x ui).run sys s).1.result = .ok (.parse text) :=
    (Call.result_of_succeeds success).resolve_right fun ⟨path, cause, refused⟩ => kept path cause refused
  refine ⟨fun kept apart => ?_, fun {_} reopens kept o => ?_, fun {path cause} refused apart o => ?_⟩
  · rw [stdout_runScript alone, stdout_shown apart, answer kept]
    rfl
  · rw [stdout_runScript alone, reopens.shown (answer kept), answer kept]
    rfl
  · rw [reports.document apart, refused]
    cases format <;> exact o.write_nil

/-- The bytes of a file, or of the input if no file is named. -/
def Holds (m : Machine) (bytes : List UInt8) : Option String → Prop
  | some path => (Octets.ofText path).hasNul = false ∧
      ∃ content, m.files.read m.cwd (.ofText path) = .ok content ∧ content.toBytes = bytes
  | none => m.input.toBytes = bytes

theorem asText_of_strict {o : Octets} {text : String} (valid : utf8Strict? o.toBytes = some text) :
    Machine.asText o = .ok text := by
  simp [Machine.asText, valid]

theorem run_eq_parseText (δ : Type) [BufferedDecoder δ] (hash : String) {words : List String} {m : Machine}
    {path file : Option String} {format : OutputFormat} {config : Config} {bytes : List UInt8} {text : String}
    (parsed : CommandLine.parse words = .ok ⟨path, format, .parse file⟩) (configured : readConfig path m = .ok config)
    (held : Holds m bytes file) (valid : utf8Strict? bytes = some text) :
    ∃ name, run δ hash words m = (parseText name (.ok text) format (colors m), m) := by
  cases file with
  | none =>
    obtain rfl : m.input.toBytes = bytes := held
    refine ⟨"stdin", ?_⟩
    simp only [run, parsed, carryOut, configured, Machine.readInput, asText_of_strict valid]
  | some file =>
    obtain ⟨plain, content, found, rfl⟩ := held
    refine ⟨file, ?_⟩
    simp [run, parsed, carryOut, configured, Machine.readText, plain, found, asText_of_strict valid]

/-- Bytes of UTF-8, with a mark or without, make for the same standard output whether they are read from a file or printed
by the child of a run, unless the run is asked to add them to its own standard output or to a file that cannot be
written. -/
theorem run_agrees_with_parse :
    (∀ (σ : Type) (sys : System σ) (ui : Ui σ) (x : Executor) (a : RunArgs) (s : σ) (bytes : List UInt8)
      (text : String), ByteMachine.ReadsUtf8 sys.Decoding → a.interactive = false →
      (a.call x ui).PrintsBytes sys s bytes → utf8Strict? bytes = some text →
      ∀ (name : String) (format : OutputFormat) (colors colors' : Bool), (runScript sys ui x a format colors s).1.Agrees
        (parseText name (.ok text) format colors') sys (a.call x ui) s) ∧
    ∀ (δ : Type) [BufferedDecoder δ], ByteMachine.ReadsUtf8 δ →
      ∀ (hash : String) (format : OutputFormat) (bytes : List UInt8) (words words' : List String) (m m' : Machine)
        (path path' file : Option String) (a : RunArgs) (config config' : Config),
      CommandLine.parse words = .ok ⟨path, format, .run a⟩ → a.interactive = false → readConfig path m = .ok config →
      CommandLine.parse words' = .ok ⟨path', format, .parse file⟩ → readConfig path' m' = .ok config' →
      let c := a.call (config.executor (m.envText? timeoutVariable)) Machine.ui
      c.PrintsBytes (Machine.system δ) m bytes → Holds m' bytes file → (utf8Strict? bytes).isSome = true →
      (run δ hash words m).1.Agrees (run δ hash words' m').1 (Machine.system δ) c m ∧
      ((∀ t, a.redirectTo = some t → m.stream? (Path.resolve a.project t) ≠ some false ∧
          ∀ cause, (c.run (Machine.system δ) m).1.result ≠ .error (.redirect (Path.resolve a.project t) cause)) →
        (run δ hash words m).1.stdout = (run δ hash words' m').1.stdout) := by
  refine ⟨fun σ sys ui x a s bytes text => agrees_runScript, ?_⟩
  intro δ _ standard hash format bytes words words' m m' path path' file a config config' parsed alone read parsed' read' c
    prints held valid
  obtain ⟨text, valid⟩ := Option.isSome_iff_exists.1 valid
  obtain ⟨name, told⟩ := run_eq_parseText δ hash parsed' read' held valid
  rw [run_eq_runScript δ hash parsed alone read, told]
  have agrees : (runScript (Machine.system δ) Machine.ui _ a format (colors m) m).1.Agrees _ (Machine.system δ) c m :=
    agrees_runScript standard alone prints valid name format (colors m) (colors m')
  refine ⟨agrees, fun elsewhere => agrees.same ?_ ?_⟩
  · intro path cause refused
    obtain ⟨-, -, -, -, ⟨t, asked, resolves⟩, -⟩ := Call.result_redirect_iff.1 refused
    obtain rfl := Path.resolves_iff.1 resolves
    exact (elsewhere t asked).2 cause refused
  · intro text reopens
    obtain ⟨t, asked, stream⟩ := Machine.stream?_of_reopens (a.direct alone _ _) reopens
    exact (elsewhere t asked).1 stream

/-- A text behind a byte order mark, printed by a child and read from the input. -/
theorem run_agrees_with_parse_of_marked_bytes :
    let bytes := Encoding.utf8.byteOrderMark ++ utf8Bytes "é ::set-output K='a b'\n"
    let reader : Machine := { Machine.desk with input := .ofBytes bytes }
    let holder : Machine := Machine.desk.addFile "b" bytes false
    (run Decoder "" ["run", "-o", "json", "--", "cat b"] holder).1.stdout =
        (run Decoder "" ["parse", "-o", "json"] reader).1.stdout ∧
      (run Decoder "" ["parse", "-o", "json"] reader).1.stdout =
        [.own (utf8Bytes "\x7b\n  \"outputs\": \x7b\n    \"K\": \"a b\"\n  \x7d\n\x7d\n")] := by
  intro bytes reader holder
  let a : RunArgs := ⟨["cat b"], none, none, none, [], none, none, false, false⟩
  let c := a.call (Config.default.executor (holder.envText? timeoutVariable)) Machine.ui
  have parsed : CommandLine.parse ["run", "-o", "json", "--", "cat b"] = .ok ⟨none, .json, .run a⟩ := by decide +kernel
  have parsed' : CommandLine.parse ["parse", "-o", "json"] = .ok ⟨none, .json, .parse none⟩ := by decide +kernel
  have prints : c.PrintsBytes (Machine.system Decoder) holder bytes := by
    refine .of_ending (some "/bin/sh") 4002 ?_ ?_ ?_ <;> decide +kernel
  have held : reader.input.toBytes = bytes := by decide +kernel
  obtain ⟨-, agree⟩ := run_agrees_with_parse.2 Decoder (fun _ => rfl) "" .json bytes _ _ holder reader none none none a
    .default .default parsed rfl rfl parsed' rfl prints held (by decide +kernel)
  exact ⟨agree nofun, by decide +kernel⟩

/-- A run that cannot add its output to the file that it names prints nothing, while the same text is read without
it. -/
theorem stdout_of_refused_output :
    ¬ ∀ (hash : String) (format : OutputFormat) (bytes : List UInt8) (words words' : List String) (m m' : Machine)
      (path path' file : Option String) (a : RunArgs) (config config' : Config),
      CommandLine.parse words = .ok ⟨path, format, .run a⟩ → a.interactive = false → readConfig path m = .ok config →
      CommandLine.parse words' = .ok ⟨path', format, .parse file⟩ → readConfig path' m' = .ok config' →
      (a.call (config.executor (m.envText? timeoutVariable)) Machine.ui).PrintsBytes (Machine.system Decoder) m bytes →
      Holds m' bytes file → (utf8Strict? bytes).isSome = true →
      (Outlet.tail []).after (run Decoder hash words m).1.stdout =
        (Outlet.tail []).after (run Decoder hash words' m').1.stdout := by
  intro claim
  let bytes := utf8Bytes "::set-output K=v\n"
  let words := ["run", "-q", "--redirect-to", "missing/log", "--", "echo ::set-output K=v"]
  let reader : Machine := { Machine.desk with input := .ofBytes bytes }
  let a : RunArgs := ⟨["echo ::set-output K=v"], none, none, none, [], some "missing/log", none, false, true⟩
  let c := a.call (Config.default.executor (Machine.desk.envText? timeoutVariable)) Machine.ui
  have parsed : CommandLine.parse words = .ok ⟨none, .text, .run a⟩ := by decide +kernel
  have parsed' : CommandLine.parse ["parse"] = .ok ⟨none, .text, .parse none⟩ := by decide +kernel
  have prints : c.PrintsBytes (Machine.system Decoder) Machine.desk bytes := by
    refine .of_ending (some "/bin/sh") 4002 ?_ ?_ ?_ <;> decide +kernel
  have held : reader.input.toBytes = bytes := by decide +kernel
  have told := claim "" .text bytes words _ Machine.desk reader none none none a .default .default parsed rfl rfl parsed'
    rfl prints held (by decide +kernel)
  revert told
  decide +kernel

end Cli

end ScriptRunner
