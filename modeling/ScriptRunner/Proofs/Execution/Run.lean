import ScriptRunner.Proofs.Execution.Stream

namespace ScriptRunner.Execution

open LogLine (textAt textAt_append)

variable {δ : Type}

namespace State

theorem withOut_self (s : State δ) : s.withOut (s.out, []) = s := by
  simp [withOut]

theorem withErr_self (s : State δ) : s.withErr (s.err, []) = s := by
  simp [withErr]

theorem withEnding_self {s : State δ} (told : s.ending ≠ none) (exit : Option ExitInfo) : s.withEnding exit = s := by
  obtain ⟨first, ending⟩ := Option.ne_none_iff_exists'.1 told
  cases s
  simp_all [withEnding]

variable [BufferedDecoder δ]

/-- What can happen next. A pipe ends once, the child exits once, and the deadline needs a limit. -/
def Enabled (limit : Option Nat) (s : State δ) (e : Event) : Prop :=
  s.killed = false ∧
    match e with
    | .stdout _ | .stdoutEnd => s.out.ended = false
    | .stderr _ | .stderrEnd => s.err.ended = false
    | .exited _ | .ended | .lost _ => s.ending = none
    | .deadline => limit.isSome = true

instance (limit : Option Nat) (s : State δ) : (e : Event) → Decidable (s.Enabled limit e)
  | .stdout _ | .stdoutEnd => inferInstanceAs (Decidable (s.killed = false ∧ s.out.ended = false))
  | .stderr _ | .stderrEnd => inferInstanceAs (Decidable (s.killed = false ∧ s.err.ended = false))
  | .exited _ | .ended | .lost _ => inferInstanceAs (Decidable (s.killed = false ∧ s.ending = none))
  | .deadline => inferInstanceAs (Decidable (s.killed = false ∧ limit.isSome = true))

theorem step_of_disabled {limit : Option Nat} {s : State δ} {e : Event} (disabled : ¬ s.Enabled limit e)
    (timed : e = .deadline → limit.isSome = true) : s.step e = s := by
  unfold step
  split
  · rfl
  · next alive =>
    simp only [Enabled, alive, true_and] at disabled
    cases e with
    | stdout bytes =>
      have ended : s.out.ended = true := by simpa using disabled
      simp [Stream.read, ended, withOut_self]
    | stderr bytes =>
      have ended : s.err.ended = true := by simpa using disabled
      simp [Stream.read, ended, withErr_self]
    | stdoutEnd =>
      have ended : s.out.ended = true := by simpa using disabled
      simp [Stream.close, ended, withOut_self]
    | stderrEnd =>
      have ended : s.err.ended = true := by simpa using disabled
      simp [Stream.close, ended, withErr_self]
    | exited status => exact withEnding_self disabled _
    | ended => exact withEnding_self disabled _
    | lost error => exact withEnding_self disabled _
    | deadline => exact absurd (timed rfl) disabled

/-- A run that is over stays as it is. -/
theorem step_of_over {s : State δ} (settled : s.exit?.isSome = true) (e : Event) : s.step e = s := by
  unfold exit? at settled
  split at settled
  · next cut => simp [step, cut]
  · next alive =>
    split at settled
    · next complete =>
      have done := complete
      simp only [State.complete, Bool.and_eq_true] at done
      obtain ⟨⟨out, err⟩, told⟩ := done
      by_cases timeless : e = .deadline
      · subst timeless
        simp [step, alive, complete]
      · have disabled : ¬ s.Enabled none e := by
          rintro ⟨-, possible⟩
          cases e <;> simp_all
        exact step_of_disabled disabled fun h => absurd h timeless
    · simp at settled

theorem run_of_over {s : State δ} (settled : s.exit?.isSome = true) (events : List Event) : s.run events = s := by
  induction events with
  | nil => rfl
  | cons e events ih => simpa [run, step_of_over settled] using ih

end State

variable [BufferedDecoder δ]

/-- The states of the runs of one child, with the events that led there. -/
inductive Reaches (limit : Option Nat) (label : String) : List Event → State δ → Prop where
  | start : Reaches limit label [] (.start label)
  | step {events : List Event} {s : State δ} {e : Event} :
      Reaches limit label events s → s.Enabled limit e → Reaches limit label (events ++ [e]) (s.step e)

/-- Events that can happen one after the other. -/
def State.EnabledAll (limit : Option Nat) (s : State δ) : List Event → Prop
  | [] => True
  | e :: events => s.Enabled limit e ∧ (s.step e).EnabledAll limit events

instance State.decidableEnabledAll (limit : Option Nat) (s : State δ) :
    (events : List Event) → Decidable (s.EnabledAll limit events)
  | [] => inferInstanceAs (Decidable True)
  | e :: events =>
    have := State.decidableEnabledAll limit (s.step e) events
    inferInstanceAs (Decidable (s.Enabled limit e ∧ (s.step e).EnabledAll limit events))

theorem Reaches.run_enabled {limit : Option Nat} {label : String} {events : List Event} {s : State δ}
    (h : Reaches limit label events s) {more : List Event} (enabled : s.EnabledAll limit more) :
    Reaches limit label (events ++ more) (s.run more) := by
  induction more generalizing events s with
  | nil => simpa [State.run] using h
  | cons e more ih => simpa [State.run] using ih (h.step enabled.1) enabled.2

/-- What a state tells about the events that led to it. -/
structure Tracks (label : String) (events : List Event) (s : State δ) : Prop where
  out : s.out.Follows label (outBytes events) (.stdoutEnd ∈ events) (textAt s.lines .info)
  err : s.err.Follows label (errBytes events) (.stderrEnd ∈ events) (textAt s.lines .warn)
  ending : s.ending.toList = exits events
  plain : ∀ line ∈ s.lines, line.text ≠ "" ∧ line.level ≠ .error
  cut : CutShort events → s.orders = terminate
  ontime : ¬ CutShort events → s.orders = []

namespace Tracks

variable {label : String} {events : List Event} {s : State δ}

theorem start (label : String) : Tracks label [] (State.start label : State δ) where
  out := Stream.follows_start label
  err := Stream.follows_start label
  ending := rfl
  plain := by simp [State.start]
  cut early := absurd early (not_cutShort nofun)
  ontime _ := rfl

theorem killed (h : Tracks label events s) : s.killed = true ↔ CutShort events := by
  constructor
  · intro killed
    by_cases early : CutShort events
    · exact early
    · simp [State.killed, h.ontime early] at killed
  · intro early
    simp [State.killed, h.cut early, terminate]

theorem complete_iff (h : Tracks label events s) : s.complete = true ↔ Finished events := by
  have told : s.ending.isSome = true ↔ exits events ≠ [] := by
    rw [← h.ending]
    cases s.ending <;> simp
  simp only [State.complete, Bool.and_eq_true, h.out.ended, h.err.ended, decide_eq_true_eq, told, Finished, and_assoc]

theorem cut_snoc (h : Tracks label events s) {e : Event} (other : e ≠ .deadline) :
    (CutShort (events ++ [e]) → s.orders = terminate) ∧ (¬ CutShort (events ++ [e]) → s.orders = []) := by
  have same : CutShort (events ++ [e]) ↔ CutShort events := by simp [cutShort_snoc, other]
  rw [same]
  exact ⟨h.cut, h.ontime⟩

theorem plain_append (h : Tracks label events s) {level : LogLevel} {lines : List LogLine} (ne : level ≠ .error)
    (more : Stream.Plain level lines) : ∀ line ∈ s.lines ++ lines, line.text ≠ "" ∧ line.level ≠ .error := by
  intro line member
  rcases List.mem_append.1 member with old | new
  · exact h.plain line old
  · exact ⟨(more line new).1, (more line new).2 ▸ ne⟩

theorem withOut (h : Tracks label events s) {e : Event} {r : Stream δ × List LogLine}
    (follows : r.1.Follows label (outBytes events ++ e.stdoutBytes) (.stdoutEnd ∈ events ++ [e])
      (textAt s.lines .info ++ textAt r.2 .info))
    (plain : Stream.Plain .info r.2) (silent : e.stderrBytes = []) (other : e ≠ .stderrEnd)
    (untold : e.exit? = none) (timeless : e ≠ .deadline) : Tracks label (events ++ [e]) (s.withOut r) where
  out := by
    rw [outBytes_snoc, State.withOut, textAt_append]
    exact follows
  err := by
    rw [errBytes_snoc, silent, decide_mem_snoc events other, List.append_nil, State.withOut, textAt_append,
      plain.textAt (by decide), String.append_empty]
    exact h.err
  ending := by
    rw [exits_snoc, untold, Option.toList_none, List.append_nil]
    exact h.ending
  plain := h.plain_append (by decide) plain
  cut := (h.cut_snoc timeless).1
  ontime := (h.cut_snoc timeless).2

theorem withErr (h : Tracks label events s) {e : Event} {r : Stream δ × List LogLine}
    (follows : r.1.Follows label (errBytes events ++ e.stderrBytes) (.stderrEnd ∈ events ++ [e])
      (textAt s.lines .warn ++ textAt r.2 .warn))
    (plain : Stream.Plain .warn r.2) (silent : e.stdoutBytes = []) (other : e ≠ .stdoutEnd)
    (untold : e.exit? = none) (timeless : e ≠ .deadline) : Tracks label (events ++ [e]) (s.withErr r) where
  out := by
    rw [outBytes_snoc, silent, decide_mem_snoc events other, List.append_nil, State.withErr, textAt_append,
      plain.textAt (by decide), String.append_empty]
    exact h.out
  err := by
    rw [errBytes_snoc, State.withErr, textAt_append]
    exact follows
  ending := by
    rw [exits_snoc, untold, Option.toList_none, List.append_nil]
    exact h.ending
  plain := h.plain_append (by decide) plain
  cut := (h.cut_snoc timeless).1
  ontime := (h.cut_snoc timeless).2

theorem withEnding (h : Tracks label events s) {e : Event} {exit : ExitInfo} (told : e.exit? = some exit)
    (open_ : s.ending = none) : Tracks label (events ++ [e]) (s.withEnding e.exit?) := by
  have silent : e.stdoutBytes = [] ∧ e.stderrBytes = [] ∧ e ≠ .stdoutEnd ∧ e ≠ .stderrEnd ∧ e ≠ .deadline := by
    cases e <;> simp_all [Event.exit?, Event.stdoutBytes, Event.stderrBytes]
  obtain ⟨out, err, notOut, notErr, timeless⟩ := silent
  refine ⟨?_, ?_, ?_, h.plain, (h.cut_snoc timeless).1, (h.cut_snoc timeless).2⟩
  · rw [outBytes_snoc, out, decide_mem_snoc events notOut, List.append_nil]
    exact h.out
  · rw [errBytes_snoc, err, decide_mem_snoc events notErr, List.append_nil]
    exact h.err
  · have none : exits events = [] := by rw [← h.ending, open_]; rfl
    rw [exits_snoc, none, told]
    simp [State.withEnding, open_]

theorem withOrders (h : Tracks label events s) {orders : List Order}
    (cut : CutShort (events ++ [.deadline]) → orders = terminate)
    (ontime : ¬ CutShort (events ++ [.deadline]) → orders = []) :
    Tracks label (events ++ [.deadline]) (s.withOrders orders) := by
  have read : Event.deadline.stdoutBytes = [] ∧ Event.deadline.stderrBytes = [] := ⟨rfl, rfl⟩
  have out : Event.deadline ≠ .stdoutEnd := nofun
  have err : Event.deadline ≠ .stderrEnd := nofun
  refine ⟨?_, ?_, ?_, h.plain, cut, ontime⟩
  · rw [outBytes_snoc, read.1, List.append_nil, decide_mem_snoc events out]
    exact h.out
  · rw [errBytes_snoc, read.2, List.append_nil, decide_mem_snoc events err]
    exact h.err
  · rw [exits_snoc, Event.exit?, Option.toList_none, List.append_nil]
    exact h.ending

theorem deadline (h : Tracks label events s) (alive : s.killed = false) :
    Tracks label (events ++ [.deadline]) (if s.complete then s else s.withOrders terminate) := by
  have unhurt : ¬ CutShort events := fun cut => by simp [h.killed.2 cut] at alive
  have early : CutShort (events ++ [.deadline]) ↔ ¬ Finished events := by simp [cutShort_snoc, unhurt]
  split
  · next complete =>
    have finished := h.complete_iff.1 complete
    exact h.withOrders (fun cut => absurd finished (early.1 cut)) fun _ => h.ontime unhurt
  · next open_ =>
    have pending : ¬ Finished events := fun finished => open_ (h.complete_iff.2 finished)
    exact h.withOrders (fun _ => rfl) fun ontime => absurd (early.2 pending) ontime

theorem step (h : Tracks label events s) {limit : Option Nat} {e : Event} (enabled : s.Enabled limit e) :
    Tracks label (events ++ [e]) (s.step e) := by
  obtain ⟨alive, possible⟩ := enabled
  simp only [State.step, alive, Bool.false_eq_true, if_false]
  cases e with
  | stdout bytes =>
    obtain ⟨opened, out⟩ := h.out.of_open possible
    refine h.withOut ?_ (Stream.read_plain .info s.out bytes) rfl nofun rfl nofun
    have closed : decide (.stdoutEnd ∈ events ++ [.stdout bytes]) = false := by simpa using opened
    rw [closed]
    exact out.read .info bytes
  | stderr bytes =>
    obtain ⟨opened, err⟩ := h.err.of_open possible
    refine h.withErr ?_ (Stream.read_plain .warn s.err bytes) rfl nofun rfl nofun
    have closed : decide (.stderrEnd ∈ events ++ [.stderr bytes]) = false := by simpa using opened
    rw [closed]
    exact err.read .warn bytes
  | stdoutEnd =>
    have out := (h.out.of_open possible).2
    refine h.withOut ?_ (Stream.close_plain .info s.out) rfl nofun rfl nofun
    have closed : decide (.stdoutEnd ∈ events ++ [.stdoutEnd]) = true := by simp
    have noBytes : outBytes events ++ Event.stdoutEnd.stdoutBytes = outBytes events := List.append_nil _
    rw [closed, noBytes]
    exact out.close .info
  | stderrEnd =>
    have err := (h.err.of_open possible).2
    refine h.withErr ?_ (Stream.close_plain .warn s.err) rfl nofun rfl nofun
    have closed : decide (.stderrEnd ∈ events ++ [.stderrEnd]) = true := by simp
    have noBytes : errBytes events ++ Event.stderrEnd.stderrBytes = errBytes events := List.append_nil _
    rw [closed, noBytes]
    exact err.close .warn
  | exited status => exact h.withEnding rfl possible
  | ended => exact h.withEnding rfl possible
  | lost error => exact h.withEnding rfl possible
  | deadline => exact h.deadline alive

end Tracks

theorem Reaches.tracks {limit : Option Nat} {label : String} {events : List Event} {s : State δ}
    (h : Reaches limit label events s) : Tracks label events s := by
  induction h with
  | start => exact .start label
  | step _ enabled ih => exact ih.step enabled

end ScriptRunner.Execution
