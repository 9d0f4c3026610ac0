import ScriptRunner.Encoding.Decoder

namespace ScriptRunner

/-- A decoder and whether its stream is closed. Behind the end it returns nothing more. -/
structure StreamDecoder (δ : Type := Decoder) where
  decoder : δ
  finished : Bool

namespace StreamDecoder

variable {δ : Type} [BufferedDecoder δ]

def ofLabel (label : String) : StreamDecoder δ := ⟨ByteMachine.start (.forLabel label), false⟩

def push (s : StreamDecoder δ) (bytes : List UInt8) (last : Bool) : String × StreamDecoder δ :=
  if s.finished then ("", s)
  else
    let (text, d) := BufferedDecoder.drain s.decoder bytes last
    (String.ofList text, ⟨d, last⟩)

def decode (s : StreamDecoder δ) (bytes : List UInt8) : String × StreamDecoder δ := s.push bytes false

def finish (s : StreamDecoder δ) : String × StreamDecoder δ := s.push [] true

theorem push_of_finished {s : StreamDecoder δ} (h : s.finished = true) (bytes : List UInt8) (last : Bool) :
    s.push bytes last = ("", s) := by
  simp [push, h]

theorem push_finished {s : StreamDecoder δ} (h : s.finished = false) (bytes : List UInt8) (last : Bool) :
    (s.push bytes last).2.finished = last := by
  simp [push, h]

theorem decode_text {s : StreamDecoder δ} (h : s.finished = false) (bytes : List UInt8) :
    (s.decode bytes).1 = String.ofList (ByteMachine.run s.decoder bytes).1 := by
  simp [decode, push, h, BufferedDecoder.drain_text, ByteMachine.text]

theorem decode_decoder {s : StreamDecoder δ} (h : s.finished = false) (bytes : List UInt8) :
    (s.decode bytes).2.decoder = (ByteMachine.run s.decoder bytes).2 := by
  simp [decode, push, h, BufferedDecoder.drain_run]

theorem finish_text {s : StreamDecoder δ} (h : s.finished = false) :
    s.finish.1 = String.ofList (ByteMachine.finish s.decoder) := by
  simp [finish, push, h, BufferedDecoder.drain_text, ByteMachine.text, ByteMachine.run]

theorem finish_finished (s : StreamDecoder δ) : s.finish.2.finished = true := by
  cases h : s.finished with
  | true => rw [finish, push_of_finished h, h]
  | false => exact push_finished h [] true

end StreamDecoder

end ScriptRunner
