import ScriptRunner.Encoding.Label

namespace ScriptRunner

/-- A machine over bytes: where it starts in an encoding, the characters that a byte completes, and those that
the end of the stream adds. A byte order mark at the start of the stream completes none. -/
class ByteMachine (δ : Type) where
  start : Encoding → δ
  step : δ → UInt8 → List Char × δ
  finish : δ → List Char

namespace ByteMachine

variable {δ : Type} [ByteMachine δ]

def run (d : δ) : List UInt8 → List Char × δ
  | [] => ([], d)
  | b :: bytes =>
    let (text, d) := step d b
    let (rest, d) := run d bytes
    (text ++ rest, d)

def text (d : δ) (bytes : List UInt8) (last : Bool) : List Char :=
  (run d bytes).1 ++ if last then finish (run d bytes).2 else []

theorem run_append (d : δ) (xs ys : List UInt8) :
    run d (xs ++ ys) = ((run d xs).1 ++ (run (run d xs).2 ys).1, (run (run d xs).2 ys).2) := by
  induction xs generalizing d with
  | nil => simp [run]
  | cons b xs ih => simp [run, ih, List.append_assoc]

theorem text_append (d : δ) (xs ys : List UInt8) (last : Bool) :
    text d (xs ++ ys) last = (run d xs).1 ++ text (run d xs).2 ys last := by
  simp [text, run_append, List.append_assoc]

theorem text_cons (d : δ) (b : UInt8) (bytes : List UInt8) (last : Bool) :
    text d (b :: bytes) last = (step d b).1 ++ text (step d b).2 bytes last := by
  simp [text, run, List.append_assoc]

end ByteMachine

structure Portion (δ : Type) where
  text : List Char
  rest : List UInt8
  decoder : δ
  full : Bool

def leastRoom : Nat := 16

/-- A machine over bytes that is driven by calls. A call that stops leaves to later calls what it did not write;
one that does not stop has taken all bytes. -/
class BufferedDecoder (δ : Type) extends ByteMachine δ where
  roomFor : δ → Nat → Option Nat
  call : δ → List UInt8 → Bool → Nat → Portion δ
  rest_suffix (d : δ) (bytes : List UInt8) (last : Bool) (room : Nat) :
    (call d bytes last room).rest <:+ bytes
  text_of_full (d : δ) (bytes : List UInt8) (last : Bool) (room : Nat) :
    (call d bytes last room).full = true →
      (call d bytes last room).text ++
        ByteMachine.text (call d bytes last room).decoder (call d bytes last room).rest last =
      ByteMachine.text d bytes last
  text_of_done (d : δ) (bytes : List UInt8) (last : Bool) (room : Nat) :
    (call d bytes last room).full = false →
      (call d bytes last room).rest = [] ∧ (call d bytes last room).text = ByteMachine.text d bytes last
  /-- In the middle of a stream the machine goes on where the bytes have brought it. -/
  run_rest (d : δ) (bytes : List UInt8) (room : Nat) :
    (ByteMachine.run (call d bytes false room).decoder (call d bytes false room).rest).2 =
      (ByteMachine.run d bytes).2
  progress (d : δ) (bytes : List UInt8) (last : Bool) (room : Nat) :
    leastRoom ≤ room → (call d bytes last room).full = true →
      (call d bytes last room).rest ≠ bytes ∨ (call d bytes last room).text ≠ []

namespace BufferedDecoder

open ByteMachine (text run)

variable {δ : Type} [BufferedDecoder δ]

def room (d : δ) (count : Nat) : Nat := max ((roomFor d count).getD (3 * count)) leastRoom

theorem left_lt (d : δ) (bytes : List UInt8) (last : Bool) {p : Portion δ}
    (hp : call d bytes last (room d bytes.length) = p) (full : p.full = true) :
    p.rest.length + (text p.decoder p.rest last).length < bytes.length + (text d bytes last).length := by
  subst hp
  have whole := congrArg List.length (text_of_full d bytes last _ full)
  have suffix := rest_suffix d bytes last (room d bytes.length)
  have shorter := suffix.length_le
  have enough : leastRoom ≤ room d bytes.length := Nat.le_max_right _ _
  rw [List.length_append] at whole
  rcases progress d bytes last _ enough full with taken | written
  · have fewer : (call d bytes last (room d bytes.length)).rest.length ≠ bytes.length :=
      fun same => taken (suffix.eq_of_length same)
    omega
  · have positive := List.length_pos_iff.2 written
    omega

/-- Calls until no call stops. -/
def drain (d : δ) (bytes : List UInt8) (last : Bool) : List Char × δ :=
  match hp : call d bytes last (room d bytes.length) with
  | ⟨text, rest, next, true⟩ =>
    have := left_lt d bytes last hp rfl
    let (more, next) := drain next rest last
    (text ++ more, next)
  | ⟨text, _, next, false⟩ => (text, next)
termination_by bytes.length + (text d bytes last).length

/-- Where the calls stopped does not show in their text. -/
theorem drain_text (d : δ) (bytes : List UInt8) (last : Bool) :
    (drain d bytes last).1 = text d bytes last := by
  fun_induction drain d bytes last with
  | case1 d bytes written rest next hp _ more after later ih =>
    have whole := text_of_full d bytes last (room d bytes.length) (by rw [hp])
    simp only [hp] at whole
    rw [later] at ih
    rw [← whole, ← ih]
  | case2 d bytes written rest next hp =>
    have whole := (text_of_done d bytes last (room d bytes.length) (by rw [hp])).2
    simpa only [hp] using whole

theorem drain_run (d : δ) (bytes : List UInt8) : (drain d bytes false).2 = (run d bytes).2 := by
  generalize hlast : false = last
  fun_induction drain d bytes last with
  | case1 d bytes written rest next hp _ more after later ih =>
    subst hlast
    have same := run_rest d bytes (room d bytes.length)
    simp only [hp] at same
    rw [later] at ih
    rw [← same, ← ih]
  | case2 d bytes written rest next hp =>
    subst hlast
    have done := (text_of_done d bytes false (room d bytes.length) (by rw [hp])).1
    have same := run_rest d bytes (room d bytes.length)
    simp only [hp] at done same
    simpa only [done, run] using same

end BufferedDecoder

end ScriptRunner
