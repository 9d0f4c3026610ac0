import ScriptRunner.Encoding.StreamDecoder
import ScriptRunner.Failure
import ScriptRunner.Marker
import ScriptRunner.Notice

namespace ScriptRunner.Execution

inductive ChildStatus where
  | exited (code : Int32)
  | signalled (signal : Int32)
  deriving DecidableEq, Repr

namespace ChildStatus

def exit : ChildStatus → ExitInfo
  | .exited code => .exited code
  | .signalled signal => .signalled signal

end ChildStatus

/-- What the executor waits for. A pipe that can be read no more is at its end. -/
inductive Event where
  | stdout (bytes : List UInt8)
  | stderr (bytes : List UInt8)
  | stdoutEnd
  | stderrEnd
  | exited (status : ChildStatus)
  /-- The child ended, with neither a code nor a signal. -/
  | ended
  /-- Waiting for the child failed. -/
  | lost (error : String)
  | deadline
  deriving DecidableEq, Repr

namespace Event

def exit? : Event → Option ExitInfo
  | .exited status => some status.exit
  | .ended => some .unknown
  | .lost error => some (.spawnFailed error)
  | .stdout _ | .stderr _ | .stdoutEnd | .stderrEnd | .deadline => none

end Event

def exits (events : List Event) : List ExitInfo := events.filterMap Event.exit?

/-- Both pipes have ended and the child has exited, in any order. -/
def Finished (events : List Event) : Prop :=
  .stdoutEnd ∈ events ∧ .stderrEnd ∈ events ∧ exits events ≠ []

instance (events : List Event) : Decidable (Finished events) :=
  inferInstanceAs (Decidable (.stdoutEnd ∈ events ∧ .stderrEnd ∈ events ∧ exits events ≠ []))

/-- A child from its start on, until all that is waited for has happened or the deadline has fallen. -/
structure Child where
  number : Nat
  events : List Event
  settled : .deadline ∈ events ∨ Finished events
  deriving DecidableEq

namespace Child

/-- A child that closes both pipes and ends with the status. -/
def ending (number : Nat) (events : List Event) (status : ChildStatus) : Child where
  number := number
  events := events ++ [.stdoutEnd, .stderrEnd, .exited status]
  settled := .inr ⟨by simp, by simp, by simp [exits, Event.exit?]⟩

end Child

/-- What is done about a child that is cut short. Whether an order can be carried out makes no difference. -/
inductive Order where
  /-- Kills every process in the group that the child leads. -/
  | killGroup
  | kill
  /-- Waits for the end of the child, for a while. -/
  | reap
  deriving DecidableEq, Repr

def terminate : List Order := [.killGroup, .kill, .reap]

/-- Pieces of text in the order of their arrival. None is ever dropped. -/
structure Capture where
  pieces : List String

namespace Capture

def empty : Capture := ⟨[]⟩

def add (c : Capture) (piece : String) : Capture := ⟨c.pieces ++ [piece]⟩

def joined (c : Capture) : String := String.join c.pieces

def forward (level : LogLevel) (c : Capture) (piece : String) : Capture × LogLine :=
  (c.add piece, ⟨level, piece⟩)

@[simp]
theorem joined_empty : empty.joined = "" := rfl

@[simp]
theorem joined_add (c : Capture) (piece : String) : (c.add piece).joined = c.joined ++ piece := by
  simp [joined, add]

end Capture

structure Stream (δ : Type := Decoder) where
  decoder : StreamDecoder δ
  captured : Capture
  ended : Bool

variable {δ : Type}

namespace Stream

/-- Text that came out of the decoder. Nothing is forwarded when there is none. -/
def take (level : LogLevel) (s : Stream δ) (text : String) : Stream δ × List LogLine :=
  if text.isEmpty then (s, [])
  else
    let (captured, line) := s.captured.forward level text
    ({ s with captured := captured }, [line])

theorem take_ended (level : LogLevel) (s : Stream δ) (piece : String) : (s.take level piece).1.ended = s.ended := by
  unfold take
  split <;> rfl

variable [BufferedDecoder δ]

def start (label : String) : Stream δ := ⟨.ofLabel label, .empty, false⟩

def read (level : LogLevel) (s : Stream δ) (bytes : List UInt8) : Stream δ × List LogLine :=
  if s.ended then (s, [])
  else
    let (text, decoder) := s.decoder.decode bytes
    { s with decoder := decoder }.take level text

def close (level : LogLevel) (s : Stream δ) : Stream δ × List LogLine :=
  if s.ended then (s, [])
  else
    let (text, decoder) := s.decoder.finish
    { s with decoder := decoder, ended := true }.take level text

theorem read_ended (level : LogLevel) (s : Stream δ) (bytes : List UInt8) : (s.read level bytes).1.ended = s.ended := by
  unfold read
  split
  · rfl
  · exact take_ended _ _ _

theorem close_ended (level : LogLevel) (s : Stream δ) : (s.close level).1.ended = true := by
  unfold close
  split
  · assumption
  · exact take_ended _ _ _

end Stream

structure State (δ : Type := Decoder) where
  out : Stream δ
  err : Stream δ
  lines : List LogLine
  ending : Option ExitInfo
  /-- What was ordered when the deadline fell before the run was complete. Nothing is taken any more then. -/
  orders : List Order

namespace State

def complete (s : State δ) : Bool := s.out.ended && s.err.ended && s.ending.isSome

def killed (s : State δ) : Bool := !s.orders.isEmpty

def withOut (s : State δ) (r : Stream δ × List LogLine) : State δ :=
  { s with out := r.1, lines := s.lines ++ r.2 }

def withErr (s : State δ) (r : Stream δ × List LogLine) : State δ :=
  { s with err := r.1, lines := s.lines ++ r.2 }

def withEnding (s : State δ) (exit : Option ExitInfo) : State δ := { s with ending := s.ending <|> exit }

def withOrders (s : State δ) (orders : List Order) : State δ := { s with orders := orders }

def exit? (s : State δ) : Option ExitInfo :=
  if s.killed then some .timedOut else if s.complete then s.ending else none

/-- What has ended in the first state has ended in the second. -/
structure Precedes (s t : State δ) : Prop where
  killed : s.killed = true → t.killed = true
  out : s.out.ended = true → t.out.ended = true
  err : s.err.ended = true → t.err.ended = true
  ending : s.ending.isSome = true → t.ending.isSome = true

theorem Precedes.refl (s : State δ) : s.Precedes s := ⟨id, id, id, id⟩

theorem Precedes.trans {s t u : State δ} (h : s.Precedes t) (h' : t.Precedes u) : s.Precedes u where
  killed before := h'.killed (h.killed before)
  out before := h'.out (h.out before)
  err before := h'.err (h.err before)
  ending before := h'.ending (h.ending before)

theorem precedes_withEnding (s : State δ) (exit : Option ExitInfo) : s.Precedes (s.withEnding exit) where
  killed := id
  out := id
  err := id
  ending told := by simp [withEnding, Option.isSome_or, told]

theorem complete_iff {s : State δ} :
    s.complete = true ↔ s.out.ended = true ∧ s.err.ended = true ∧ s.ending.isSome = true := by
  simp [complete, and_assoc]

theorem Precedes.settled {s t : State δ} (h : s.Precedes t) (settled : s.killed = true ∨ s.complete = true) :
    t.killed = true ∨ t.complete = true := by
  rw [complete_iff] at settled ⊢
  exact settled.imp h.killed fun ⟨out, err, told⟩ => ⟨h.out out, h.err err, h.ending told⟩

theorem exit?_isSome {s : State δ} (settled : s.killed = true ∨ s.complete = true) : s.exit?.isSome = true := by
  unfold exit?
  split
  · rfl
  · next alive =>
    have complete := settled.resolve_left alive
    have told : s.ending.isSome = true := (Bool.and_eq_true_iff.1 complete).2
    rw [if_pos complete]
    exact told

variable [BufferedDecoder δ]

def start (label : String) : State δ := ⟨.start label, .start label, [], none, []⟩

def step (s : State δ) (e : Event) : State δ :=
  if s.killed then s
  else
    match e with
    | .stdout bytes => s.withOut (s.out.read .info bytes)
    | .stderr bytes => s.withErr (s.err.read .warn bytes)
    | .stdoutEnd => s.withOut (s.out.close .info)
    | .stderrEnd => s.withErr (s.err.close .warn)
    | .deadline => if s.complete then s else s.withOrders terminate
    | .exited _ | .ended | .lost _ => s.withEnding e.exit?

def run (s : State δ) (events : List Event) : State δ := events.foldl step s

theorem precedes_step (s : State δ) (e : Event) : s.Precedes (s.step e) := by
  unfold step
  split
  · exact .refl s
  · next alive =>
    cases e with
    | stdout bytes => exact ⟨id, fun ended => (s.out.read_ended .info bytes).trans ended, id, id⟩
    | stderr bytes => exact ⟨id, id, fun ended => (s.err.read_ended .warn bytes).trans ended, id⟩
    | stdoutEnd => exact ⟨id, fun _ => s.out.close_ended .info, id, id⟩
    | stderrEnd => exact ⟨id, id, fun _ => s.err.close_ended .warn, id⟩
    | exited status => exact s.precedes_withEnding _
    | ended => exact s.precedes_withEnding _
    | lost error => exact s.precedes_withEnding _
    | deadline =>
      dsimp only
      split
      · exact .refl s
      · exact ⟨fun killed => absurd killed alive, id, id, id⟩

theorem precedes_run (s : State δ) (events : List Event) : s.Precedes (s.run events) := by
  induction events generalizing s with
  | nil => exact .refl s
  | cons e events ih => exact (s.precedes_step e).trans (ih (s.step e))

/-- In a run that has had an event the state behind that event comes before the last. -/
theorem exists_precedes_of_mem (s : State δ) {events : List Event} {e : Event} (had : e ∈ events) :
    ∃ t : State δ, (t.step e).Precedes (s.run events) := by
  obtain ⟨before, after, rfl⟩ := List.append_of_mem had
  refine ⟨s.run before, ?_⟩
  simpa [run] using ((s.run before).step e).precedes_run after

theorem over_deadline (s : State δ) : (s.step .deadline).killed = true ∨ (s.step .deadline).complete = true := by
  unfold step
  split
  · next killed => exact .inl killed
  · dsimp only
    split
    · next complete => exact .inr complete
    · exact .inl rfl

theorem killed_or_out_ended (s : State δ) :
    (s.step .stdoutEnd).killed = true ∨ (s.step .stdoutEnd).out.ended = true := by
  unfold step
  split
  · next killed => exact .inl killed
  · exact .inr (s.out.close_ended .info)

theorem killed_or_err_ended (s : State δ) :
    (s.step .stderrEnd).killed = true ∨ (s.step .stderrEnd).err.ended = true := by
  unfold step
  split
  · next killed => exact .inl killed
  · exact .inr (s.err.close_ended .warn)

theorem killed_or_ending_of_told {s : State δ} {e : Event} {exit : ExitInfo} (told : e.exit? = some exit) :
    (s.step e).killed = true ∨ (s.step e).ending.isSome = true := by
  unfold step
  split
  · next killed => exact .inl killed
  · right
    cases e with
    | exited status => simp [withEnding, told]
    | ended => simp [withEnding, told]
    | lost error => simp [withEnding, told]
    | stdout bytes => cases told
    | stderr bytes => cases told
    | stdoutEnd => cases told
    | stderrEnd => cases told
    | deadline => cases told

theorem over_of_finished (s : State δ) {events : List Event} (finished : Finished events) :
    (s.run events).killed = true ∨ (s.run events).complete = true := by
  by_cases killed : (s.run events).killed = true
  · exact .inl killed
  · right
    have alive {t : State δ} (h : t.Precedes (s.run events)) : ¬ t.killed = true :=
      fun before => killed (h.killed before)
    obtain ⟨stdoutEnd, stderrEnd, told⟩ := finished
    obtain ⟨t, out⟩ := s.exists_precedes_of_mem stdoutEnd
    obtain ⟨u, err⟩ := s.exists_precedes_of_mem stderrEnd
    obtain ⟨exit, member⟩ := List.exists_mem_of_ne_nil _ told
    obtain ⟨e, had, tells⟩ := List.mem_filterMap.1 member
    obtain ⟨v, ending⟩ := s.exists_precedes_of_mem had
    have outEnded := t.killed_or_out_ended.resolve_left (alive out)
    have errEnded := u.killed_or_err_ended.resolve_left (alive err)
    have ended := (killed_or_ending_of_told tells).resolve_left (alive ending)
    exact complete_iff.2 ⟨out.out outEnded, err.err errEnded, ending.ending ended⟩

end State

def Child.last (δ : Type) [BufferedDecoder δ] (label : String) (child : Child) : State δ :=
  (State.start label).run child.events

theorem Child.exit?_last [BufferedDecoder δ] (label : String) (child : Child) : (child.last δ label).exit?.isSome = true := by
  apply State.exit?_isSome
  rcases child.settled with deadline | finished
  · obtain ⟨s, precedes⟩ := (State.start label : State δ).exists_precedes_of_mem deadline
    exact precedes.settled s.over_deadline
  · exact (State.start label).over_of_finished finished

inductive Outcome where
  | success (outputs : Outputs) (stdout : String)
  | failure (f : Failure)

namespace Outcome

def ofExit (command : String) (exit : ExitInfo) (stderr stdout : String) : Outcome :=
  if exit.success then .success (.parse stdout) stdout
  else .failure (.ofExit command exit stderr stdout)

def ofState? (command : String) (s : State δ) : Option Outcome :=
  s.exit?.map fun exit => ofExit command exit s.err.captured.joined s.out.captured.joined

/-- The outcome of a child that was followed to its end or up to the deadline. -/
def ofChild (δ : Type) [BufferedDecoder δ] (command label : String) (child : Child) : Outcome :=
  (ofState? command (child.last δ label)).get (by simp [ofState?, child.exit?_last])

def failure? : Outcome → Option Failure
  | .success _ _ => none
  | .failure f => some f

end Outcome

end ScriptRunner.Execution
