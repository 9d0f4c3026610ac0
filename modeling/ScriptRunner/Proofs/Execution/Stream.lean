import ScriptRunner.Execution
import ScriptRunner.Proofs.Decoding

namespace ScriptRunner

theorem LogLine.textAt_append (xs ys : List LogLine) (level : LogLevel) :
    textAt (xs ++ ys) level = textAt xs level ++ textAt ys level := by
  simp [textAt]

namespace Execution

open ByteMachine (text run)
open LogLine (textAt textAt_append)

namespace Event

def stdoutBytes : Event → List UInt8
  | .stdout bytes => bytes
  | _ => []

def stderrBytes : Event → List UInt8
  | .stderr bytes => bytes
  | _ => []

end Event

def outBytes (events : List Event) : List UInt8 := events.flatMap Event.stdoutBytes

def errBytes (events : List Event) : List UInt8 := events.flatMap Event.stderrBytes

/-- The deadline falls before all that is waited for has happened. -/
def CutShort (events : List Event) : Prop :=
  ∃ before after, events = before ++ .deadline :: after ∧ ¬ Finished before

theorem outBytes_snoc (events : List Event) (e : Event) :
    outBytes (events ++ [e]) = outBytes events ++ e.stdoutBytes := by
  simp [outBytes]

theorem errBytes_snoc (events : List Event) (e : Event) :
    errBytes (events ++ [e]) = errBytes events ++ e.stderrBytes := by
  simp [errBytes]

theorem exits_snoc (events : List Event) (e : Event) : exits (events ++ [e]) = exits events ++ e.exit?.toList := by
  cases h : e.exit? <;> simp [exits, h]

theorem decide_mem_snoc (events : List Event) {e last : Event} (other : last ≠ e) :
    decide (e ∈ events ++ [last]) = decide (e ∈ events) := by
  simp [Ne.symm other]

theorem not_cutShort {events : List Event} (timeless : .deadline ∉ events) : ¬ CutShort events := by
  rintro ⟨before, after, rfl, -⟩
  simp at timeless

theorem cutShort_snoc (events : List Event) (e : Event) :
    CutShort (events ++ [e]) ↔ CutShort events ∨ e = .deadline ∧ ¬ Finished events := by
  constructor
  · rintro ⟨before, after, he, open_⟩
    rcases List.eq_nil_or_concat after with rfl | ⟨after, last, rfl⟩
    · obtain ⟨same, last⟩ := List.append_inj' he rfl
      right
      rw [same]
      exact ⟨List.singleton_inj.1 last, open_⟩
    · rw [List.concat_eq_append, ← List.cons_append, ← List.append_assoc] at he
      have same := (List.append_inj' he rfl).1
      left
      exact ⟨before, after, same, open_⟩
  · rintro (⟨before, after, rfl, open_⟩ | ⟨rfl, open_⟩)
    · exact ⟨before, after ++ [e], by simp, open_⟩
    · exact ⟨events, [], rfl, open_⟩

namespace Stream

def Plain (level : LogLevel) (lines : List LogLine) : Prop := ∀ line ∈ lines, line.text ≠ "" ∧ line.level = level

theorem Plain.textAt {level other : LogLevel} {lines : List LogLine} (h : Plain level lines) (ne : level ≠ other) :
    LogLine.textAt lines other = "" := by
  have silent : lines.filter (·.level == other) = [] := by
    rw [List.filter_eq_nil_iff]
    intro line member
    rw [(h line member).2]
    simpa using ne
  simp [LogLine.textAt, silent]

section Take

variable {δ : Type} (level : LogLevel) (s : Stream δ) (piece : String)

theorem take_joined : (s.take level piece).1.captured.joined = s.captured.joined ++ piece := by
  unfold take
  split
  · next none => simp [String.isEmpty_iff.1 none]
  · simp [Capture.forward]

theorem take_frame : (s.take level piece).1.decoder = s.decoder ∧ (s.take level piece).1.ended = s.ended := by
  unfold take
  split <;> exact ⟨rfl, rfl⟩

theorem take_sent : textAt (s.take level piece).2 level = piece := by
  unfold take
  split
  · next none => simp [String.isEmpty_iff.1 none, textAt]
  · simp [textAt, Capture.forward]

theorem take_plain : Plain level (s.take level piece).2 := by
  unfold take
  split
  · simp [Plain]
  · next some => simpa [Plain, Capture.forward] using some

end Take

variable {δ : Type} [BufferedDecoder δ]

theorem read_of_open {s : Stream δ} (h : s.ended = false) (level : LogLevel) (bytes : List UInt8) :
    s.read level bytes =
      { s with decoder := (s.decoder.decode bytes).2 }.take level (s.decoder.decode bytes).1 := by
  simp [Stream.read, h]

theorem close_of_open {s : Stream δ} (h : s.ended = false) (level : LogLevel) :
    s.close level =
      { s with decoder := s.decoder.finish.2, ended := true }.take level s.decoder.finish.1 := by
  simp [Stream.close, h]

theorem read_plain (level : LogLevel) (s : Stream δ) (bytes : List UInt8) : Plain level (s.read level bytes).2 := by
  unfold Stream.read
  split
  · simp [Plain]
  · exact take_plain _ _ _

theorem close_plain (level : LogLevel) (s : Stream δ) : Plain level (s.close level).2 := by
  unfold Stream.close
  split
  · simp [Plain]
  · exact take_plain _ _ _

/-- A pipe of which `bytes` were read and `sent` went to the log. -/
structure Follows (label : String) (bytes : List UInt8) (closed : Bool) (sent : String) (s : Stream δ) : Prop where
  ended : s.ended = closed
  finished : s.decoder.finished = closed
  held : closed = false → s.decoder.decoder = (run (ByteMachine.start (.forLabel label)) bytes).2
  joined : s.captured.joined = String.ofList (text (ByteMachine.start (.forLabel label) : δ) bytes closed)
  sent : sent = s.captured.joined

theorem Follows.of_open {label : String} {bytes : List UInt8} {closed : Bool} {sent : String} {s : Stream δ}
    (h : s.Follows label bytes closed sent) (opened : s.ended = false) :
    closed = false ∧ s.Follows label bytes false sent := by
  have same : closed = false := h.ended.symm.trans opened
  subst same
  exact ⟨rfl, h⟩

theorem follows_start (label : String) : (start label : Stream δ).Follows label [] false "" :=
  ⟨rfl, rfl, fun _ => rfl, by simp [start, text, run], rfl⟩

theorem take_follows {label : String} {bytes : List UInt8} {closed : Bool} {before : String} {s : Stream δ}
    (level : LogLevel) (piece : String) (ended : s.ended = closed) (finished : s.decoder.finished = closed)
    (held : closed = false → s.decoder.decoder = (run (ByteMachine.start (.forLabel label)) bytes).2)
    (joined : s.captured.joined ++ piece =
      String.ofList (text (ByteMachine.start (.forLabel label) : δ) bytes closed))
    (sent : before = s.captured.joined) :
    (s.take level piece).1.Follows label bytes closed (before ++ textAt (s.take level piece).2 level) := by
  have frame := take_frame level s piece
  refine ⟨frame.2.trans ended, ?_, ?_, ?_, ?_⟩
  · rw [frame.1]
    exact finished
  · rw [frame.1]
    exact held
  · rw [take_joined]
    exact joined
  · rw [take_joined, take_sent, sent]

theorem Follows.read {label : String} {bytes : List UInt8} {sent : String} {s : Stream δ}
    (h : s.Follows label bytes false sent) (level : LogLevel) (more : List UInt8) :
    (s.read level more).1.Follows label (bytes ++ more) false (sent ++ textAt (s.read level more).2 level) := by
  rw [read_of_open h.ended]
  apply take_follows
  · exact h.ended
  · exact StreamDecoder.push_finished h.finished more false
  · intro _
    rw [StreamDecoder.decode_decoder h.finished, h.held rfl, ByteMachine.run_append]
  · rw [StreamDecoder.decode_text h.finished, h.held rfl, h.joined, ← String.ofList_append]
    simp [text, ByteMachine.run_append]
  · exact h.sent

theorem Follows.close {label : String} {bytes : List UInt8} {sent : String} {s : Stream δ}
    (h : s.Follows label bytes false sent) (level : LogLevel) :
    (s.close level).1.Follows label bytes true (sent ++ textAt (s.close level).2 level) := by
  rw [close_of_open h.ended]
  apply take_follows
  · rfl
  · exact StreamDecoder.finish_finished s.decoder
  · exact nofun
  · rw [StreamDecoder.finish_text h.finished, h.held rfl, h.joined, ← String.ofList_append]
    simp [text]
  · exact h.sent

end Stream

end Execution

end ScriptRunner
