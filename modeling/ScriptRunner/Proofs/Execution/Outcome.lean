import ScriptRunner.Proofs.Execution.Run

namespace ScriptRunner

theorem ExitInfo.kind_eq_timeout_iff (exit : ExitInfo) : exit.kind = .timeout ↔ exit.killed = true := by
  unfold kind
  split
  · next killed => simp [killed]
  · next alive => split <;> simp [alive]

namespace Execution

open LogLine (textAt)
open StreamDecoder (whole)
open Outcome (ofState? ofExit)

variable {δ : Type} [BufferedDecoder δ] {limit : Option Nat} {label : String} {events : List Event} {s : State δ}

theorem Stream.Follows.sent_eq {bytes : List UInt8} {closed : Bool} {sent : String} {s : Stream δ}
    (h : s.Follows label bytes closed sent) : sent = whole δ label bytes closed := by
  rw [h.sent, h.joined, StreamDecoder.whole_eq]

theorem Stream.Follows.sent_prefix {bytes rest : List UInt8} {closed : Bool} {sent : String} {s : Stream δ}
    (h : s.Follows label bytes closed sent) (follows : closed = true → rest = []) :
    sent.toList <+: (whole δ label (bytes ++ rest) true).toList := by
  rw [h.sent_eq]
  cases closed with
  | true => simp [follows rfl]
  | false =>
    simp only [StreamDecoder.whole_eq, String.toList_ofList, ByteMachine.text_append]
    simp [ByteMachine.text]

theorem Event.exit?_cases {e : Event} {exit : ExitInfo} (told : e.exit? = some exit) :
    exit.killed = false ∧ (exit.success = true ↔ e = .exited (.exited 0)) := by
  cases e with
  | exited status =>
    cases status <;> cases told <;>
      simp [ChildStatus.exit, ExitInfo.exited, ExitInfo.signalled, ExitInfo.success]
  | ended => cases told; simp [ExitInfo.unknown, ExitInfo.success]
  | lost error => cases told; simp [ExitInfo.spawnFailed, ExitInfo.success]
  | stdout bytes => cases told
  | stderr bytes => cases told
  | stdoutEnd => cases told
  | stderrEnd => cases told
  | deadline => cases told

namespace Tracks

theorem exit?_of_cutShort (h : Tracks label events s) (cut : CutShort events) : s.exit? = some .timedOut := by
  simp [State.exit?, h.killed.2 cut]

theorem exit?_of_finished (h : Tracks label events s) (finished : Finished events) (ontime : ¬ CutShort events) :
    ∃ exit, exits events = [exit] ∧ s.exit? = some exit := by
  have alive : ¬ s.killed = true := fun cut => ontime (h.killed.1 cut)
  have complete := h.complete_iff.2 finished
  obtain ⟨exit, told⟩ := Option.isSome_iff_exists.1 (Bool.and_eq_true_iff.1 complete).2
  refine ⟨exit, ?_, ?_⟩
  · rw [← h.ending, told]
    rfl
  · simp [State.exit?, alive, complete, told]

theorem exit?_isSome_iff (h : Tracks label events s) :
    s.exit?.isSome = true ↔ CutShort events ∨ Finished events := by
  constructor
  · intro settled
    by_cases cut : CutShort events
    · exact .inl cut
    · right
      have alive : ¬ s.killed = true := fun killed => cut (h.killed.1 killed)
      rw [← h.complete_iff]
      unfold State.exit? at settled
      rw [if_neg alive] at settled
      split at settled
      · assumption
      · cases settled
  · intro settled
    by_cases cut : CutShort events
    · simp [h.exit?_of_cutShort cut]
    · obtain ⟨exit, -, he⟩ := h.exit?_of_finished (settled.resolve_left cut) cut
      simp [he]

theorem sent_of_complete (h : Tracks label events s) (complete : s.complete = true) :
    textAt s.lines .info = whole δ label (outBytes events) true ∧
      textAt s.lines .warn = whole δ label (errBytes events) true := by
  have finished := h.complete_iff.1 complete
  have out := h.out.sent_eq
  have err := h.err.sent_eq
  rw [decide_eq_true finished.1] at out
  rw [decide_eq_true finished.2.1] at err
  exact ⟨out, err⟩

theorem ofState?_eq (h : Tracks label events s) (command : String) :
    ofState? command s = s.exit?.map fun exit => ofExit command exit (textAt s.lines .warn) (textAt s.lines .info) := by
  rw [h.out.sent, h.err.sent]
  rfl

theorem ofState?_isSome_iff (h : Tracks label events s) (command : String) :
    (ofState? command s).isSome = true ↔ CutShort events ∨ Finished events := by
  rw [h.ofState?_eq, Option.isSome_map]
  exact h.exit?_isSome_iff

theorem ofState?_of_cutShort (h : Tracks label events s) (command : String) (cut : CutShort events) :
    ofState? command s =
      some (.failure (.ofExit command .timedOut (textAt s.lines .warn) (textAt s.lines .info))) := by
  rw [h.ofState?_eq, h.exit?_of_cutShort cut]
  rfl

theorem ofState?_of_finished (h : Tracks label events s) (command : String) (finished : Finished events)
    (ontime : ¬ CutShort events) :
    ∃ e ∈ events, ∃ exit, e.exit? = some exit ∧ exits events = [exit] ∧
      ofState? command s = some (ofExit command exit (textAt s.lines .warn) (textAt s.lines .info)) := by
  obtain ⟨exit, told, he⟩ := h.exit?_of_finished finished ontime
  have member : exit ∈ exits events := by simp [told]
  obtain ⟨e, present, tells⟩ := List.mem_filterMap.1 member
  refine ⟨e, present, exit, tells, told, ?_⟩
  rw [h.ofState?_eq, he]
  rfl

end Tracks

theorem Outcome.ofExit_success_iff (command stderr stdout : String) (exit : ExitInfo) :
    (∃ outputs text, ofExit command exit stderr stdout = .success outputs text) ↔ exit.success = true := by
  unfold ofExit
  split <;> simp_all

theorem Outcome.ofExit_kind {command stderr stdout : String} {exit : ExitInfo} {f : Failure}
    (h : ofExit command exit stderr stdout = .failure f) : f.kind = exit.kind := by
  unfold ofExit at h
  split at h
  · cases h
  · cases h
    rfl

theorem timeout_iff_cutShort (h : Tracks label events s) (command : String) :
    (∃ f, ofState? command s = some (.failure f) ∧ f.kind = .timeout) ↔ CutShort events := by
  constructor
  · rintro ⟨f, outcome, late⟩
    have settled : (ofState? command s).isSome = true := by simp [outcome]
    by_cases cut : CutShort events
    · exact cut
    · have finished := ((h.ofState?_isSome_iff command).1 settled).resolve_left cut
      obtain ⟨e, -, exit, tells, -, result⟩ := h.ofState?_of_finished command finished cut
      have alive := (Event.exit?_cases tells).1
      have same := Outcome.ofExit_kind (Option.some.inj (result.symm.trans outcome))
      have killed := exit.kind_eq_timeout_iff.1 (same.symm.trans late)
      rw [alive] at killed
      cases killed
  · intro cut
    exact ⟨_, h.ofState?_of_cutShort command cut, rfl⟩

/-- Neither the cuts between the reads nor the order of the two pipes and the exit shows in what comes of a run. -/
theorem outcome_eq_of_reads (δ : Type) [BufferedDecoder δ] (command : String) {limit₁ limit₂ : Option Nat}
    {label : String} {events₁ events₂ : List Event} {s₁ s₂ : State δ} (run₁ : Reaches limit₁ label events₁ s₁)
    (run₂ : Reaches limit₂ label events₂ s₂) (complete₁ : s₁.complete = true) (complete₂ : s₂.complete = true)
    (ontime₁ : .deadline ∉ events₁) (ontime₂ : .deadline ∉ events₂) (out : outBytes events₁ = outBytes events₂)
    (err : errBytes events₁ = errBytes events₂) (exit : exits events₁ = exits events₂) :
    (∃ outcome, ofState? command s₁ = some outcome ∧ ofState? command s₂ = some outcome) ∧
    textAt s₁.lines .info = textAt s₂.lines .info ∧ textAt s₁.lines .warn = textAt s₂.lines .warn ∧
    textAt s₁.lines .info = whole δ label (outBytes events₁) true ∧
    (.exited (.exited 0) ∈ events₁ → ofState? command s₁ =
      some (.success (.parse (whole δ label (outBytes events₁) true)) (textAt s₁.lines .info))) := by
  have sent₁ := run₁.tracks.sent_of_complete complete₁
  have sent₂ := run₂.tracks.sent_of_complete complete₂
  obtain ⟨e₁, present₁, exit₁, tells₁, told₁, outcome₁⟩ :=
    run₁.tracks.ofState?_of_finished command (run₁.tracks.complete_iff.1 complete₁) (not_cutShort ontime₁)
  obtain ⟨e₂, present₂, exit₂, tells₂, told₂, outcome₂⟩ :=
    run₂.tracks.ofState?_of_finished command (run₂.tracks.complete_iff.1 complete₂) (not_cutShort ontime₂)
  have sameExit : exit₁ = exit₂ := List.singleton_inj.1 (told₁.symm.trans (exit.trans told₂))
  have sameInfo : textAt s₁.lines .info = textAt s₂.lines .info := by rw [sent₁.1, sent₂.1, out]
  have sameWarn : textAt s₁.lines .warn = textAt s₂.lines .warn := by rw [sent₁.2, sent₂.2, err]
  refine ⟨⟨_, outcome₁, ?_⟩, sameInfo, sameWarn, sent₁.1, ?_⟩
  · rw [outcome₂, sameExit, sameInfo, sameWarn]
  · intro zero
    have told : .exited 0 ∈ exits events₁ := List.mem_filterMap.2 ⟨_, zero, rfl⟩
    rw [told₁, List.mem_singleton] at told
    rw [outcome₁, ← told, sent₁.1]
    rfl

/-- A marker that arrives whole before the exit, and one that the reads cut inside its word and inside its last
letter after it. -/
theorem outcome_of_cut_marker :
    let whole : List Event := [.stdout "::set-output K=é".toUTF8.toList, .stderr [0x77], .stdoutEnd, .stderrEnd,
      .exited (.exited 0)]
    let cut : List Event := [.exited (.exited 0), .stderr [0x77], .stderrEnd, .stdout "::set-".toUTF8.toList,
      .stdout ("output K=".toUTF8.toList ++ [0xC3]), .stdout [0xA9], .stdoutEnd]
    ∃ s₁ s₂ : State, Reaches none "utf-8" whole s₁ ∧ Reaches none "utf-8" cut s₂ ∧
      ofState? "cmd" s₁ = ofState? "cmd" s₂ ∧
      ofState? "cmd" s₁ = some (.success (.parse "::set-output K=é") "::set-output K=é") := by
  intro whole cut
  have run₁ : Reaches none "utf-8" whole ((State.start "utf-8" : State).run whole) :=
    Reaches.start.run_enabled (by decide +kernel)
  have run₂ : Reaches none "utf-8" cut ((State.start "utf-8" : State).run cut) :=
    Reaches.start.run_enabled (by decide +kernel)
  obtain ⟨⟨outcome, first, second⟩, -, -, sent, success⟩ := outcome_eq_of_reads Decoder "cmd" run₁ run₂
    (by decide +kernel) (by decide +kernel) (by decide) (by decide) (by decide +kernel) (by decide +kernel)
    (by decide)
  have text : textAt ((State.start "utf-8" : State).run whole).lines .info = "::set-output K=é" := by
    decide +kernel
  rw [← sent, text] at success
  exact ⟨_, _, run₁, run₂, first.trans second.symm, success (by decide)⟩

end Execution

end ScriptRunner
