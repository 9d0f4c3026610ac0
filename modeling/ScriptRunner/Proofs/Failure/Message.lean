import ScriptRunner.Failure
import ScriptRunner.Proofs.Text.Decimal

namespace ScriptRunner

open Text (isBlank)

namespace Text

def EndsSolid (s : String) : Prop := ∃ c ∈ s.toList.getLast?, ¬ isBlank c = true

theorem EndsSolid.of_ends {s : String} (filled : s.toList ≠ []) (ends : ∀ c ∈ s.toList.getLast?, ¬ isBlank c = true) :
    EndsSolid s := by
  have last := List.getLast?_eq_some_getLast filled
  exact ⟨_, last, ends _ last⟩

theorem EndsSolid.append (s : String) {t : String} (h : EndsSolid t) : EndsSolid (s ++ t) := by
  obtain ⟨c, last, solid⟩ := h
  refine ⟨c, ?_, solid⟩
  rw [String.toList_append, List.getLast?_append, Option.mem_def.1 last]
  rfl

theorem EndsSolid.blank_eq_false {s : String} (h : EndsSolid s) : blank s = false := by
  obtain ⟨c, last, solid⟩ := h
  refine List.all_eq_false.2 ⟨c, ?_, solid⟩
  exact List.mem_of_getLast? last

theorem endsSolid_repr (n : Nat) : EndsSolid n.repr := by
  have digits : n.repr.toList = Nat.toDigits 10 n := Nat.toList_repr
  refine .of_ends (by rw [digits]; exact Nat.toDigits_ne_nil) ?_
  intro c last
  rw [digits] at last
  have digit : c.isDigit = true := Nat.isDigit_of_mem_toDigits (by decide) (by decide) (List.mem_of_getLast? last)
  exact not_isBlank_of_isDigit digit

theorem endsSolid_toString (n : Int) : EndsSolid (toString n) := by
  cases n with
  | ofNat n => exact endsSolid_repr n
  | negSucc n => exact (endsSolid_repr (n + 1)).append "-"

end Text

namespace Failure

/-- The output that a failure is told with: that on standard error if it has more than white space, else that on
standard output if it has. -/
def telling (stderr stdout : String) : Option String :=
  [stderr, stdout].find? fun s => s.toList.any fun c => !isBlank c

/-- All of an output but the white space at its end. -/
structure Kept (output kept : String) : Prop where
  whole : ∃ gap, output.toList = kept.toList ++ gap ∧ ∀ c ∈ gap, isBlank c = true
  ends : ∀ c ∈ kept.toList.getLast?, ¬ isBlank c = true

/-- What a message says of an exit and of the output to tell with. That a command was stopped at its limit counts before
a start that failed, and that before all it has written. -/
inductive Tells (exit : ExitInfo) : Option String → String → Prop where
  | stopped (killed : exit.killed = true) : Tells exit none "command timed out"
  | stoppedAt {output kept : String} (killed : exit.killed = true) (rest : Kept output kept) :
      Tells exit (some output) ("command timed out\n" ++ kept)
  | unstarted {output : Option String} {error : String} (alive : exit.killed = false)
      (unstarted : exit.spawnError = some error) : Tells exit output ("failed to start command: " ++ error)
  | written {output kept : String} (alive : exit.killed = false) (started : exit.spawnError = none)
      (rest : Kept output kept) : Tells exit (some output) kept
  | signal {n : Int32} (alive : exit.killed = false) (started : exit.spawnError = none) (signal : exit.signal = some n) :
      Tells exit none ("process terminated by signal " ++ toString n.toInt)
  | code {n : Int32} (alive : exit.killed = false) (started : exit.spawnError = none) (unsignalled : exit.signal = none)
      (code : exit.code = some n) : Tells exit none ("process exited with code " ++ toString n.toInt)
  | nothing (alive : exit.killed = false) (started : exit.spawnError = none) (unsignalled : exit.signal = none)
      (uncoded : exit.code = none) : Tells exit none "process failed without output"

theorem kept_trimEnd (output : String) : Kept output (Text.trimEnd output) := by
  obtain ⟨gap, whole, cut, ends⟩ := Text.dropRightWhile_eq_iff.1 (rfl : Text.dropRightWhile isBlank output.toList = _)
  constructor
  · exact ⟨gap, by rw [Text.trimEnd, String.toList_ofList]; exact whole, cut⟩
  · rw [Text.trimEnd, String.toList_ofList]
    exact ends

theorem Kept.endsSolid {output kept : String} (h : Kept output kept) (said : Text.blank output = false) :
    Text.EndsSolid kept := by
  obtain ⟨gap, whole, cut⟩ := h.whole
  obtain ⟨c, member, solid⟩ := List.all_eq_false.1 said
  rw [whole] at member
  have inside : c ∈ kept.toList := (List.mem_append.1 member).resolve_right fun cutOff => solid (cut c cutOff)
  exact .of_ends (List.ne_nil_of_mem inside) h.ends

theorem any_not_isBlank (s : String) : (s.toList.any fun c => !isBlank c) = !Text.blank s := by
  rw [Text.blank, List.not_all_eq_any_not]

theorem telling_of_said {stderr : String} (said : Text.blank stderr = false) (stdout : String) :
    telling stderr stdout = some stderr := by
  simp [telling, any_not_isBlank, said]

theorem blank_of_telling {stderr stdout output : String} (h : telling stderr stdout = some output) :
    Text.blank output = false := by
  have said := List.find?_some h
  rw [any_not_isBlank] at said
  simpa using said

theorem captured_eq (stderr stdout : String) : captured stderr stdout = (telling stderr stdout).map Text.trimEnd := by
  cases err : Text.blank stderr with
  | false => simp [captured, telling_of_said err, err]
  | true => cases out : Text.blank stdout <;> simp [captured, telling, any_not_isBlank, err, out]

theorem tells_messageOf (exit : ExitInfo) (stderr stdout : String) :
    Tells exit (telling stderr stdout) (messageOf exit stderr stdout) := by
  have shown := captured_eq stderr stdout
  unfold messageOf ExitInfo.kind
  cases killed : exit.killed with
  | true =>
    cases told : telling stderr stdout with
    | none => simpa [shown, told] using Tells.stopped killed
    | some output => simpa [shown, told] using Tells.stoppedAt killed (kept_trimEnd output)
  | false =>
    cases started : exit.spawnError with
    | some error => simpa using Tells.unstarted killed started
    | none =>
      cases told : telling stderr stdout with
      | some output => simpa [shown, told] using Tells.written killed started (kept_trimEnd output)
      | none =>
        cases signal : exit.signal with
        | some n => simpa [shown, told, ExitInfo.placeholder, signal] using Tells.signal killed started signal
        | none =>
          cases code : exit.code with
          | some n => simpa [shown, told, ExitInfo.placeholder, signal, code] using Tells.code killed started signal code
          | none => simpa [shown, told, ExitInfo.placeholder, signal, code] using Tells.nothing killed started signal code

/-- A message ends in a character, unless it quotes why a command could not be started. -/
theorem Tells.endsSolid {exit : ExitInfo} {output : Option String} {message : String} (h : Tells exit output message)
    (said : ∀ text ∈ output, Text.blank text = false) (begun : exit.killed = true ∨ exit.spawnError = none) :
    Text.EndsSolid message := by
  cases h with
  | stopped killed => exact ⟨'t', rfl, by decide⟩
  | stoppedAt killed rest => exact (rest.endsSolid (said _ rfl)).append _
  | unstarted alive unstarted => simp [alive, unstarted] at begun
  | written alive started rest => exact rest.endsSolid (said _ rfl)
  | signal alive started signal => exact (Text.endsSolid_toString _).append _
  | code alive started unsignalled code => exact (Text.endsSolid_toString _).append _
  | nothing alive started unsignalled uncoded => exact ⟨'t', rfl, by decide⟩

theorem Tells.blank_eq_false {exit : ExitInfo} {output : Option String} {message : String}
    (h : Tells exit output message) (said : ∀ text ∈ output, Text.blank text = false) : Text.blank message = false := by
  by_cases begun : exit.killed = true ∨ exit.spawnError = none
  · exact (h.endsSolid said begun).blank_eq_false
  · cases h with
    | unstarted => simp [Text.blank, isBlank]
    | stopped killed => exact absurd (.inl killed) begun
    | stoppedAt killed => exact absurd (.inl killed) begun
    | written _ started => exact absurd (.inr started) begun
    | signal _ started => exact absurd (.inr started) begun
    | code _ started => exact absurd (.inr started) begun
    | nothing _ started => exact absurd (.inr started) begun

/-- A failure carries the command and the exit, and its message keeps the output it is told with, up to white space at
the end, or names the signal, the code or the cause in its place. The message says something in any case. What is on
standard output counts only where standard error is blank. -/
theorem ofExit_keeps (command : String) (exit : ExitInfo) (stderr stdout : String) :
    (ofExit command exit stderr stdout).command = command ∧ (ofExit command exit stderr stdout).exit = exit ∧
    Tells exit (telling stderr stdout) (ofExit command exit stderr stdout).message ∧
    Text.blank (ofExit command exit stderr stdout).message = false ∧
    (exit.killed = true ∨ exit.spawnError = none → Text.EndsSolid (ofExit command exit stderr stdout).message) ∧
    (Text.blank stderr = false → ∀ other, ofExit command exit stderr other = ofExit command exit stderr stdout) := by
  have tells := tells_messageOf exit stderr stdout
  have said : ∀ text ∈ telling stderr stdout, Text.blank text = false := fun _ told => blank_of_telling told
  refine ⟨rfl, rfl, tells, tells.blank_eq_false said, tells.endsSolid said, ?_⟩
  intro loud other
  have same : captured stderr other = captured stderr stdout := by
    rw [captured_eq, captured_eq, telling_of_said loud, telling_of_said loud]
  simp only [ofExit, messageOf, same]

/-- Blanks of several sorts on standard error, a start that failed at its limit, and a cause that ends in a blank. -/
theorem ofExit_keeps_output :
    let exit : ExitInfo := ⟨some 2, some 9, false, none⟩
    let late : ExitInfo := ⟨some 0, none, true, some "no shell"⟩
    let missing : ExitInfo := .spawnFailed "no shell "
    Tells exit (some "a\n only\u2003\n") (ofExit "make" exit " \u00a0\n" "a\n only\u2003\n").message ∧
    Text.EndsSolid (ofExit "make" exit "\t" "\x0c").message ∧
    (ofExit "make" exit "\t" "\x0c").message = "process terminated by signal 9" ∧
    (ofExit "make" late "half\x0b" "a").message = "command timed out\nhalf" ∧
    Text.EndsSolid (ofExit "make" late "half\x0b" "a").message ∧
    ofExit "make" late "half\x0b" "b" = ofExit "make" late "half\x0b" "a" ∧
    Text.blank (ofExit "make" missing "" "a").message = false ∧
    ¬ Text.EndsSolid (ofExit "make" missing "" "a").message := by
  intro exit late missing
  obtain ⟨-, -, told, -⟩ := ofExit_keeps "make" exit " \u00a0\n" "a\n only\u2003\n"
  obtain ⟨-, -, -, -, ends, -⟩ := ofExit_keeps "make" exit "\t" "\x0c"
  obtain ⟨-, -, -, -, endsLate, same⟩ := ofExit_keeps "make" late "half\x0b" "a"
  obtain ⟨-, -, -, said, -⟩ := ofExit_keeps "make" missing "" "a"
  refine ⟨told, ends (.inr rfl), by decide, by decide, endsLate (.inl rfl), same (by decide) "b", said, ?_⟩
  rintro ⟨c, last, solid⟩
  have blank : (ofExit "make" missing "" "a").message.toList.getLast? = some ' ' := by decide
  rw [blank] at last
  cases last
  exact solid (by decide)

end Failure

end ScriptRunner
