import ScriptRunner.Proofs.Driver.Acts
import ScriptRunner.Proofs.Posix.Machine

namespace ScriptRunner

open Execution (EndsWell outBytes)
open Posix (Machine)
open StreamDecoder (whole)

/-- The part of a system that its files are in. It alone decides what comes of opening, writing and flushing. -/
structure Disk {σ : Type} (access : Files σ) (φ : Type) where
  files : σ → φ
  opened {s s' : σ} (same : files s = files s') (path : String) :
    (access.openAppend path s).1 = (access.openAppend path s').1 ∧
      files (access.openAppend path s).2 = files (access.openAppend path s').2
  wrote {s s' : σ} (same : files s = files s') (h : access.Handle) (bytes : List UInt8) :
    (access.write h bytes s).1 = (access.write h bytes s').1 ∧
      files (access.write h bytes s).2 = files (access.write h bytes s').2
  flushed {s s' : σ} (same : files s = files s') (h : access.Handle) :
    (access.flush h s).1 = (access.flush h s').1 ∧ files (access.flush h s).2 = files (access.flush h s').2

namespace Disk

variable {σ φ : Type} {access : Files σ} (disk : Disk access φ)

def Alike {α : Type} (r r' : α × σ) : Prop := r.1 = r'.1 ∧ disk.files r.2 = disk.files r'.2

theorem Alike.cases {disk : Disk access φ} {α : Type} {r r' : α × σ} (alike : disk.Alike r r') :
    ∃ a s s', r = (a, s) ∧ r' = (a, s') ∧ disk.files s = disk.files s' :=
  ⟨r.1, r.2, r'.2, rfl, Prod.ext alike.1.symm rfl, alike.2⟩

theorem writeAll_alike (h : access.Handle) (bytes : List UInt8) (already : Nat) {s s' : σ}
    (same : disk.files s = disk.files s') :
    disk.Alike ((access.writeAll h bytes already s).1, (access.writeAll h bytes already s).2.2)
        ((access.writeAll h bytes already s').1, (access.writeAll h bytes already s').2.2) := by
  induction bytes generalizing already s s' with
  | nil => exact ⟨rfl, same⟩
  | cons byte bytes ih =>
    cases already with
    | succ already => exact ih already same
    | zero =>
      obtain ⟨answer, s₁, s₁', wrote, wrote', after⟩ := Alike.cases (disk.wrote same h (byte :: bytes))
      simp only [Files.writeAll, wrote, wrote']
      cases answer with
      | error cause => exact ⟨rfl, after⟩
      | ok taken =>
        cases taken with
        | zero => exact ⟨rfl, after⟩
        | succ n => exact ih n after

/-- The files before tell whether a text can be added, and the files after. -/
theorem append_alike (path text : String) {s s' : σ} (same : disk.files s = disk.files s') :
    disk.Alike ((access.append path text s).1, (access.append path text s).2.2)
        ((access.append path text s').1, (access.append path text s').2.2) := by
  obtain ⟨answer, s₁, s₁', opened, opened', after⟩ := Alike.cases (disk.opened same path)
  simp only [Files.append, opened, opened']
  cases answer with
  | error cause => exact ⟨rfl, after⟩
  | ok h =>
    obtain ⟨result, s₂, s₂', wrote, wrote', after'⟩ := Alike.cases (disk.writeAll_alike h (utf8Bytes text) 0 after)
    obtain ⟨told, left⟩ := Prod.mk.inj wrote
    obtain ⟨told', left'⟩ := Prod.mk.inj wrote'
    dsimp only
    rw [told, told', left, left']
    cases result with
    | error cause => exact ⟨rfl, after'⟩
    | ok => exact disk.flushed after' h

end Disk

/-- On a machine the file tree and the directory of the runner decide. -/
def Posix.Machine.disk (δ : Type) [BufferedDecoder δ] : Disk (system δ).files (FileTree × Place) where
  files m := (m.files, m.cwd)
  opened {m m'} same path := by
    obtain ⟨files, cwd⟩ := Prod.mk.inj same
    show (m.openAppend path).1 = (m'.openAppend path).1 ∧ _ = ((m'.openAppend path).2.files, (m'.openAppend path).2.cwd)
    simp only [system, systemWith, access, openAppend, stream?_eq_of_cwd_eq cwd, files, cwd]
    split
    · exact ⟨rfl, same⟩
    · split
      · exact ⟨rfl, same⟩
      · cases m'.files.create m'.cwd (Octets.ofText path) with
        | ok made => exact ⟨rfl, Prod.ext rfl cwd⟩
        | error e => exact ⟨rfl, same⟩
  wrote {m m'} same h bytes := by
    obtain ⟨files, cwd⟩ := Prod.mk.inj same
    cases h with
    | stream toStderr => exact ⟨rfl, same⟩
    | node i =>
      simp only [system, systemWith, access, write, files]
      cases m'.files.extend i (Octets.ofBytes bytes) with
      | ok tree => exact ⟨rfl, Prod.ext rfl cwd⟩
      | error e => exact ⟨rfl, same⟩
  flushed same _ := ⟨rfl, same⟩

namespace Call

/-- Two calls for the same. What runs the script may differ, and whether progress is told. -/
structure Alike {σ : Type} (c d : Call σ) : Prop where
  executor : c.executor = d.executor
  args : c.args = d.args
  project : c.context.project = d.context.project

/-- The runner of the call takes the command and hands a text back. -/
inductive Shows {σ : Type} (c : Call σ) (s : σ) : String → σ → Prop where
  | intro {ui : Ui σ} {text : String} {notices : List Notice} {s' : σ} (given : c.context.ui = some ui)
      (available : ui.available = true)
      (reply : ui.run (Driver.uiCall c.executor c.request) s = (⟨.ok text, notices⟩, s')) : Shows c s text s'

/-- The call has no runner that can run commands, and its child prints a text and exits with code 0 in time. -/
inductive Prints {σ : Type} (sys : System σ) (c : Call σ) (s : σ) : String → σ → Prop where
  | intro {invocation : Invocation} {label : String} {child : Execution.Child} {s' : σ}
      (unavailable : ∀ ui, c.context.ui = some ui → ui.available = false)
      (starts : c.executor.Starts sys c.request s invocation label (.ok child) s')
      (well : EndsWell sys.Decoding (c.executor.limit c.request) label child.events) :
      Prints sys c s (whole sys.Decoding label (outBytes child.events) true) s'

/-- What becomes of a text behind the script: it is added to the file of the call, if there is one, and that is all. -/
structure Adds {σ : Type} (sys : System σ) (c : Call σ) (text : String) (s s' : σ) : Prop where
  told {path : String} (target : c.Target path) : (sys.files.append path text s).2.2 = s'
  untold (silent : ∀ path, ¬ c.Target path) : s = s'

def withProgress {σ : Type} (c : Call σ) (progress : Bool) : Call σ :=
  { c with context := { c.context with progress := progress } }

variable {σ : Type} {sys : System σ} {c d : Call σ} {s s' s₁ s₂ : σ} {text : String}

theorem Shows.active (h : c.Shows s text s₁) : ∃ ui, c.context.activeUi = some ui := by
  obtain ⟨given, available, -⟩ := h
  exact ⟨_, activeUi_eq_some_iff.2 ⟨given, available⟩⟩

theorem Shows.succeeds (sys : System σ) (h : c.Shows s text s₁) :
    c.Succeeds sys s (.parse (if Text.blank text then c.args.request.command else text)) text s₁ := by
  obtain ⟨given, available, reply⟩ := h
  exact .shown (activeUi_eq_some_iff.2 ⟨given, available⟩) reply

theorem Prints.direct (h : c.Prints sys s text s₁) : c.context.activeUi = none := by
  obtain ⟨unavailable, -, -⟩ := h
  exact activeUi_eq_none_iff.2 unavailable

theorem Prints.succeeds (h : c.Prints sys s text s₁) : c.Succeeds sys s (.parse text) text s₁ := by
  have direct := h.direct
  obtain ⟨-, starts, well⟩ := h
  exact succeeds_of_endsWell direct starts well

theorem Alike.resolve (alike : c.Alike d) : c.args.resolve c.context.project = d.args.resolve d.context.project := by
  rw [alike.args, alike.project]

theorem Alike.run_of_succeeds {φ : Type} (disk : Disk sys.files φ) (alike : c.Alike d) {outputs : Outputs}
    (first : c.Succeeds sys s outputs text s₁) (second : d.Succeeds sys s' outputs text s₂)
    (same : disk.files s₁ = disk.files s₂) :
    (c.run sys s).1.result = (d.run sys s').1.result ∧ disk.files (c.run sys s).2 = disk.files (d.run sys s').2 := by
  obtain ⟨e₁, dispatched₁, told₁⟩ := succeeds_iff.1 first
  obtain ⟨e₂, dispatched₂, told₂⟩ := succeeds_iff.1 second
  have ran₁ := run_eq_deliver dispatched₁
  have ran₂ := run_eq_deliver dispatched₂
  simp only [Prod.ext_iff] at ran₁ ran₂
  rw [ran₁.1, ran₁.2.2, ran₂.1, ran₂.2.2, told₁, told₂, alike.resolve]
  cases (d.args.resolve d.context.project).redirectTo with
  | none => exact ⟨rfl, same⟩
  | some path =>
    -- Both add the same text at the same path, so the files before tell the answer and the files after.
    obtain ⟨answer, after⟩ := disk.append_alike path text same
    obtain ⟨told, shown, s₁', added⟩ : ∃ told shown s₁', sys.files.append path text s₁ = (told, shown, s₁') :=
      ⟨_, _, _, rfl⟩
    obtain ⟨told', shown', s₂', added'⟩ : ∃ told' shown' s₂', sys.files.append path text s₂ = (told', shown', s₂') :=
      ⟨_, _, _, rfl⟩
    rw [added, added'] at answer after
    obtain rfl : told = told' := answer
    simp only [Driver.deliver, added, added']
    cases told with
    | ok => exact ⟨rfl, after⟩
    | error cause => exact ⟨rfl, after⟩

theorem Succeeds.adds {outputs : Outputs} (success : c.Succeeds sys s outputs text s₁) :
    c.Adds sys text s₁ (c.run sys s).2 where
  told {path} target := by
    obtain ⟨answer, shown, s₂, came⟩ : ∃ answer shown s₂, sys.files.append path text s₁ = (answer, shown, s₂) :=
      ⟨_, _, _, rfl⟩
    rw [came]
    cases answer with
    | ok => exact (answers_iff.1 (.appended success target came)).2.2.symm
    | error cause => exact (answers_iff.1 (.unwritten success target came)).2.2.symm
  untold silent := (answers_iff.1 (.kept success silent)).2.2.symm

theorem Runs.eq_shown {run : Act} (h : c.Runs sys s run) {ui : Ui σ} (active : c.context.activeUi = some ui) :
    run = .shown (Driver.uiCall c.executor c.request) := by
  cases h with
  | shown => rfl
  | spawned direct starts =>
    rw [active] at direct
    cases direct

theorem Runs.eq_spawned {run : Act} (h : c.Runs sys s run) (direct : c.context.activeUi = none) :
    ∃ invocation, run = .spawned invocation := by
  cases h with
  | shown active =>
    rw [direct] at active
    cases active
  | spawned => exact ⟨_, rfl⟩

theorem Shows.acts (sys : System σ) (h : c.Shows s text s₁) :
    c.acts sys s = .shown (Driver.uiCall c.executor c.request) :: c.openings := by
  obtain ⟨ui, active⟩ := h.active
  obtain ⟨run, runs, acts⟩ := acts_of_succeeds (h.succeeds sys)
  rw [acts, runs.eq_shown active]

theorem Prints.acts (h : c.Prints sys s text s₁) :
    ∃ invocation, c.acts sys s = .spawned invocation :: c.openings := by
  obtain ⟨run, runs, acts⟩ := acts_of_succeeds h.succeeds
  obtain ⟨invocation, rfl⟩ := runs.eq_spawned h.direct
  exact ⟨invocation, acts⟩

theorem acts_cases (sys : System σ) (c : Call σ) (s : σ) : ∃ run opened, c.Runs sys s run ∧
    c.acts sys s = run :: opened ∧ opened.length ≤ 1 ∧ ∀ act ∈ opened, ∃ path, c.Target path ∧ act = .opened path := by
  obtain ⟨d, s', dispatched⟩ : ∃ d s', Driver.dispatch sys c.executor c.context c.request s = (d, s') := ⟨_, _, rfl⟩
  rcases dispatch_cases dispatched with ⟨outputs, text, -, success⟩ | ⟨f, -, failure⟩
  · obtain ⟨run, runs, acts⟩ := acts_of_succeeds success
    exact ⟨run, _, runs, acts, c.length_openings_le, fun act => mem_openings.1⟩
  · obtain ⟨run, runs, acts⟩ := acts_of_fails failure
    exact ⟨run, [], runs, acts, Nat.zero_le 1, nofun⟩

theorem run_withProgress (sys : System σ) (c : Call σ) (progress : Bool) (s : σ) :
    ((c.withProgress progress).run sys s).1.result = (c.run sys s).1.result ∧
      ((c.withProgress progress).run sys s).2 = (c.run sys s).2 :=
  ⟨rfl, rfl⟩

theorem acts_withProgress (sys : System σ) (c : Call σ) (progress : Bool) (s : σ) :
    (c.withProgress progress).acts sys s = c.acts sys s :=
  congrArg Prod.snd (run_withProgress sys.recording c.recording progress (s, [])).2

theorem dispatch_notices_of_active {ui : Ui σ} (active : c.context.activeUi = some ui) :
    (Driver.dispatch sys c.executor c.context c.request s).1.notices =
      (ui.run (Driver.uiCall c.executor c.request) s).1.shown := by
  simp only [Driver.dispatch, active]

theorem ticks_lines (lines : List LogLine) : Notice.ticks (lines.map .line) = [] := by
  simp [Notice.ticks, List.filterMap_map, Function.comp_def, Notice.progress?]

theorem ticks_shown (sys : System σ) (c : Call σ) (s : σ) : Notice.ticks (c.shown sys s) = [] := by
  apply List.filterMap_eq_nil_iff.2
  intro notice told
  obtain ⟨toStderr, text, taken, -, rfl⟩ := reopens_of_mem_shown told
  rfl

/-- Told progress frames what is shown of the script itself. -/
theorem notices_of_progress (progress : c.context.progress = true) : ∃ told, (c.run sys s).1.notices =
    [.progress (.start Driver.progressTitle), .progress (.next c.args.request.command)] ++ told ++
      [.progress (.finish (c.run sys s).1.result.isOk)] ∧
    (c.context.activeUi = none → Notice.ticks told = []) ∧
    ∀ ui, c.context.activeUi = some ui →
      Notice.ticks told = Notice.ticks (ui.run (Driver.uiCall c.executor c.request) s).1.shown := by
  have ticks : Notice.ticks ((Driver.dispatch sys c.executor c.context c.request s).1.notices ++ c.shown sys s) =
      Notice.ticks (Driver.dispatch sys c.executor c.context c.request s).1.notices := by
    rw [Notice.ticks, List.filterMap_append, ← Notice.ticks, ← Notice.ticks, ticks_shown, List.append_nil]
  refine ⟨(Driver.dispatch sys c.executor c.context c.request s).1.notices ++ c.shown sys s, ?_, ?_, ?_⟩
  · rw [notices_eq, progress]
    rfl
  · intro direct
    obtain ⟨lines, shown⟩ := dispatch_notices_of_direct sys direct s
    rw [ticks, shown, ticks_lines]
  · intro ui active
    rw [ticks, dispatch_notices_of_active active]

/-- A runner that hands back a text with more than white space, and a child that prints that text and exits with code 0
in time, give calls for the same thing the same answer, and leave the files the same if the script left them so. Any
call runs its script once, in one of the two ways, and opens one file at most. A runner that hands back nothing but
white space gives the outputs of the command text, while the text itself is added to the file. Progress is told at the
start, for the command and at the end, and told or not it changes nothing else. -/
theorem routes_agree {φ : Type} (disk : Disk sys.files φ) :
    (∀ (c d : Call σ) (s s' s₁ s₂ : σ) (text : String), c.Alike d → c.Shows s text s₁ → d.Prints sys s' text s₂ →
      Text.blank text = false → disk.files s₁ = disk.files s₂ →
      (c.run sys s).1.result = (d.run sys s').1.result ∧
      disk.files (c.run sys s).2 = disk.files (d.run sys s').2 ∧
      c.Adds sys text s₁ (c.run sys s).2 ∧ d.Adds sys text s₂ (d.run sys s').2 ∧
      c.acts sys s = .shown (Driver.uiCall c.executor c.request) :: c.openings ∧
      ∃ invocation, d.acts sys s' = .spawned invocation :: c.openings) ∧
    ∀ (c : Call σ) (s : σ),
      (∃ run opened, c.Runs sys s run ∧ c.acts sys s = run :: opened ∧ opened.length ≤ 1 ∧
        ∀ act ∈ opened, ∃ path, c.Target path ∧ act = .opened path) ∧
      (∀ text s', c.Shows s text s' → Text.blank text = true →
        ((∀ path, c.Target path → (sys.files.append path text s').1 = .ok ()) →
          (c.run sys s).1.result = .ok (.parse c.args.request.command)) ∧
        (∀ path cause, c.Target path → (sys.files.append path text s').1 = .error cause →
          (c.run sys s).1.result = .error (.redirect path cause)) ∧
        c.Adds sys text s' (c.run sys s).2 ∧
        c.acts sys s = .shown (Driver.uiCall c.executor c.request) :: c.openings) ∧
      (c.context.progress = true → ∃ told, (c.run sys s).1.notices =
        [.progress (.start Driver.progressTitle), .progress (.next c.args.request.command)] ++ told ++
          [.progress (.finish (c.run sys s).1.result.isOk)] ∧
        (c.context.activeUi = none → Notice.ticks told = []) ∧
        ∀ ui, c.context.activeUi = some ui →
          Notice.ticks told = Notice.ticks (ui.run (Driver.uiCall c.executor c.request) s).1.shown) ∧
      ∀ progress, ((c.withProgress progress).run sys s).1.result = (c.run sys s).1.result ∧
        ((c.withProgress progress).run sys s).2 = (c.run sys s).2 ∧
        (c.withProgress progress).acts sys s = c.acts sys s := by
  refine ⟨?_, fun c s => ⟨acts_cases sys c s, ?_, notices_of_progress, ?_⟩⟩
  · intro c d s s' s₁ s₂ text alike shows prints solid same
    have hosted := shows.succeeds sys
    have direct := prints.succeeds
    rw [solid, if_neg Bool.false_ne_true] at hosted
    obtain ⟨result, files⟩ := alike.run_of_succeeds disk hosted direct same
    obtain ⟨invocation, acts⟩ := prints.acts
    refine ⟨result, files, hosted.adds, direct.adds, shows.acts sys, invocation, ?_⟩
    rw [acts, openings, openings, alike.resolve]
  · intro text s' shows blank
    have success := shows.succeeds sys
    rw [blank, if_pos rfl] at success
    exact ⟨fun done => result_ok_iff.2 ⟨text, s', success, done⟩,
      fun path cause target refused => result_redirect_iff.2 ⟨_, text, s', success, target, refused⟩, success.adds,
      shows.acts sys⟩
  · intro progress
    obtain ⟨result, after⟩ := run_withProgress sys c progress s
    exact ⟨result, after, acts_withProgress sys c progress s⟩

/-- A runner that hands back what a shell prints, a child that prints it, and a runner that hands nothing back. -/
theorem routes_of_echo :
    let command := "echo ::set-output A=1"
    let sys := Machine.system Decoder
    let start : Machine := Machine.desk.addFile "log" (utf8Bytes "earlier\n") false
    let host : Ui Machine := ⟨true, fun _ m => (⟨.ok "::set-output A=1\n", []⟩, m)⟩
    let absent : Ui Machine := ⟨false, fun _ m => (⟨.error .timeout, []⟩, m)⟩
    let mute : Ui Machine := ⟨true, fun _ m => (⟨.ok "", []⟩, m)⟩
    let hosted : Call Machine := ⟨.default, ⟨some host, true, some "/w"⟩, .ofCommand command, some "log"⟩
    let direct : Call Machine := ⟨.default, ⟨some absent, false, some "/w"⟩, .ofCommand command, some "log"⟩
    let silent : Call Machine := ⟨.default, ⟨some mute, true, some "/w"⟩, .ofCommand command, some "log"⟩
    (hosted.run sys start).1.result = (direct.run sys start).1.result ∧
    (direct.run sys start).1.result = .ok (.ofPairs [("A", "1")]) ∧
    (hosted.run sys start).2.files = (direct.run sys start).2.files ∧
    (hosted.run sys start).2.files.content ["w", "log"] = some (utf8Bytes "earlier\n::set-output A=1\n") ∧
    (silent.run sys start).1.result = .ok (.parse command) ∧
    silent.acts sys start = [.shown (Driver.uiCall .default silent.request), .opened "/w/log"] ∧
    ∃ told, (silent.run sys start).1.notices =
      [.progress (.start "Running script"), .progress (.next command)] ++ told ++ [.progress (.finish true)] := by
  intro command sys start host absent mute hosted direct silent
  obtain ⟨agree, each⟩ := routes_agree (Machine.disk Decoder)
  have shows : hosted.Shows start "::set-output A=1\n" start := .intro rfl rfl rfl
  have found : (sys.host.answer (direct.executor.inquire .linux direct.request) start).1 =
      (some "/bin/sh", "utf-8") := by decide +kernel
  let asked := (sys.host.answer (direct.executor.inquire .linux direct.request) start).2.2
  let after := (sys.spawn (.of (some "/bin/sh") command .linux) direct.request none asked).2
  let child : Execution.Child := .ending 4002 [.stdout (utf8Bytes "::set-output A=1\n")] (.exited 0)
  have spawned : (sys.spawn (.of (some "/bin/sh") command .linux) direct.request none asked).1 = .ok child := by
    decide +kernel
  have text : whole Decoder "utf-8" (outBytes child.events) true = "::set-output A=1\n" := by decide +kernel
  have prints : direct.Prints sys start "::set-output A=1\n" after := by
    rw [← text]
    refine .intro ?_ (.of_answer found (Prod.ext spawned rfl)) (Execution.endsWell_ending _ _ _)
    rintro ui ⟨⟩
    rfl
  have unchanged : (Machine.disk Decoder).files start = (Machine.disk Decoder).files after := by decide +kernel
  obtain ⟨result, same, -⟩ := agree hosted direct start start start after _ ⟨rfl, rfl, rfl⟩ shows prints
    (by decide +kernel) unchanged
  obtain ⟨-, blank, progress, -⟩ := each silent start
  obtain ⟨written, -, -, acts⟩ := blank "" start (.intro rfl rfl rfl) rfl
  have target : (silent.args.resolve (some "/w")).redirectTo = some "/w/log" := by decide +kernel
  have answer : (silent.run sys start).1.result = .ok (.parse command) := by
    apply written
    intro path asked
    obtain rfl : "/w/log" = path := Option.some.inj (target.symm.trans (target_iff.1 asked))
    decide +kernel
  rw [openings, target] at acts
  obtain ⟨told, notices, -⟩ := progress rfl
  rw [answer] at notices
  exact ⟨result, by decide +kernel, congrArg Prod.fst same, by decide +kernel, answer, acts, told, notices⟩

end Call

end ScriptRunner
