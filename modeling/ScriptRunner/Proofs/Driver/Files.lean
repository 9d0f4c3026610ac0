import ScriptRunner.Proofs.Posix.Machine

namespace ScriptRunner

variable {σ ι : Type} {sys : System σ}

namespace Call

variable {c : Call σ} {s s' : σ} {path text : String} {storage : Storage sys.files ι}

/-- What runs for the call leaves the files alone: the runner that the call uses, the questions to the host, the child
and what is done about it. A text that cannot be added leaves them as they were. -/
structure Spares (storage : Storage sys.files ι) (c : Call σ) (s : σ) : Prop where
  shown {ui : Ui σ} (active : c.context.activeUi = some ui) :
    storage.Keeps s (ui.run (Driver.uiCall c.executor c.request) s).2
  asked (direct : c.context.activeUi = none) :
    storage.Keeps s (sys.host.answer (c.executor.inquire sys.host.platform c.request) s).2.2
  spawned {invocation : Invocation} {label : String} {child : Except String Execution.Child} {s' : σ}
    (direct : c.context.activeUi = none) (starts : c.executor.Starts sys c.request s invocation label child s') :
    storage.Keeps (sys.host.answer (c.executor.inquire sys.host.platform c.request) s).2.2 s'
  dismissed {invocation : Invocation} {label : String} {child : Except String Execution.Child} {s' : σ}
    (direct : c.context.activeUi = none) (starts : c.executor.Starts sys c.request s invocation label child s') :
    storage.Keeps s' (sys.dismiss label child s')
  refused {outputs : Outputs} {text path cause : String} {shown : List Notice} {s' s'' : σ}
    (success : c.Succeeds sys s outputs text s') (target : c.Target path)
    (refused : sys.files.append path text s' = (.error cause, shown, s'')) (i : ι) :
    storage.content i s'' = storage.content i s'

/-- A text that a call has added to a file: the path, where it led when the text was added, and the text. -/
structure Addition (ι : Type) where
  path : String
  place : Option ι
  text : String

/-- The call adds its text to a file. -/
inductive Appends (storage : Storage sys.files ι) (c : Call σ) (s : σ) : Addition ι → Prop where
  | intro {outputs : Outputs} {text path : String} {shown : List Notice} {s' s'' : σ}
      (success : c.Succeeds sys s outputs text s') (target : c.Target path)
      (added : sys.files.append path text s' = (.ok (), shown, s'')) :
      Appends storage c s ⟨path, storage.place path s', text⟩

theorem Appends.of_dispatch (outputs : Outputs) {place : Option ι}
    (ran : (Driver.dispatch sys c.executor c.context c.request s).1.result = .ok (outputs, text))
    (target : (c.args.resolve c.context.project).redirectTo = some path)
    (added : (sys.files.append path text (Driver.dispatch sys c.executor c.context c.request s).2).1 = .ok ())
    (led : storage.place path (Driver.dispatch sys c.executor c.context c.request s).2 = place) :
    c.Appends storage s ⟨path, place, text⟩ := by
  rw [← led]
  exact .intro (succeeds_iff.2 ⟨_, rfl, ran⟩) (target_iff.2 target) (Prod.ext added rfl)

theorem not_appends (failed : (c.run sys s).1.result.isOk = false) (addition : Addition ι) :
    ¬ c.Appends storage s addition := by
  rintro ⟨success, target, added⟩
  rw [(answers_iff.1 (.appended success target added)).1] at failed
  cases failed

theorem Spares.keeps_dispatch (h : c.Spares storage s) {d : Dispatch}
    (dispatched : Driver.dispatch sys c.executor c.context c.request s = (d, s')) : storage.Keeps s s' := by
  unfold Driver.dispatch at dispatched
  cases route : c.context.activeUi with
  | some ui =>
    obtain ⟨reply, s'', told⟩ : ∃ reply s'', ui.run (Driver.uiCall c.executor c.request) s = (reply, s'') :=
      ⟨_, _, rfl⟩
    have kept := h.shown route
    simp only [route, told, Prod.mk.injEq] at dispatched
    obtain ⟨-, rfl⟩ := dispatched
    rwa [told] at kept
  | none =>
    obtain ⟨invocation, label, child, s'', starts⟩ := c.executor.exists_starts sys c.request s
    obtain ⟨probes, ran⟩ := starts.run_eq
    simp only [route, ran, Prod.mk.injEq] at dispatched
    obtain ⟨-, rfl⟩ := dispatched
    exact (h.asked route).trans ((h.spawned route starts).trans (h.dismissed route starts))

theorem Spares.keeps_of_succeeds (h : c.Spares storage s) {outputs : Outputs}
    (success : c.Succeeds sys s outputs text s') : storage.Keeps s s' := by
  obtain ⟨d, dispatched, -⟩ := succeeds_iff.1 success
  exact h.keeps_dispatch dispatched

theorem Spares.keeps_of_fails (h : c.Spares storage s) {f : Failure} (failure : c.Fails sys s f s') :
    storage.Keeps s s' := by
  obtain ⟨d, dispatched, -⟩ := fails_iff.1 failure
  exact h.keeps_dispatch dispatched

theorem Spares.sound_run (h : c.Spares storage s) (sound : storage.Sound s) : storage.Sound (c.run sys s).2 := by
  have answers : c.Answers sys s _ _ _ := run_answers c s
  generalize (c.run sys s).1.result = result, c.shown sys s = shown, (c.run sys s).2 = after at answers
  cases answers with
  | failed failure => exact (h.keeps_of_fails failure).sound sound
  | kept success silent => exact (h.keeps_of_succeeds success).sound sound
  | @appended _ text path _ s' _ success target added =>
    have kept := storage.sound_append path text ((h.keeps_of_succeeds success).sound sound)
    rwa [added] at kept
  | @unwritten _ text path _ _ s' _ success target refused =>
    have kept := storage.sound_append path text ((h.keeps_of_succeeds success).sound sound)
    rwa [refused] at kept

theorem Spares.content_of_silent (h : c.Spares storage s) (silent : ∀ addition, ¬ c.Appends storage s addition)
    (i : ι) : storage.content i (c.run sys s).2 = storage.content i s := by
  have answers : c.Answers sys s _ _ _ := run_answers c s
  generalize (c.run sys s).1.result = result, c.shown sys s = shown, (c.run sys s).2 = after at answers
  cases answers with
  | failed failure => exact (h.keeps_of_fails failure).content i
  | kept success silent => exact (h.keeps_of_succeeds success).content i
  | appended success target added => exact absurd (.intro success target added) (silent _)
  | unwritten success target refused =>
    exact (h.refused success target refused i).trans ((h.keeps_of_succeeds success).content i)

theorem Spares.content_of_appends (h : c.Spares storage s) (sound : storage.Sound s) {addition : Addition ι}
    (appends : c.Appends storage s addition) (i : ι) :
    (addition.place = some i → storage.content i (c.run sys s).2 =
      some ((storage.content i s).getD [] ++ utf8Bytes addition.text)) ∧
    (addition.place ≠ some i → storage.content i (c.run sys s).2 = storage.content i s) := by
  obtain ⟨success, target, added⟩ := appends
  have kept := h.keeps_of_succeeds success
  have after := (answers_iff.1 (.appended success target added)).2.2
  rw [after, ← kept.content i]
  exact storage.content_of_append (kept.sound sound) added i

end Call

def Call.runAll (sys : System σ) (calls : List (Call σ)) (s : σ) : σ := calls.foldl (fun s c => (c.run sys s).2) s

/-- Every call leaves the files alone but for its text, in the state that the calls before it have left. -/
def Call.SpareAll (storage : Storage sys.files ι) : List (Call σ) → σ → Prop
  | [], _ => True
  | c :: calls, s => c.Spares storage s ∧ SpareAll storage calls (c.run sys s).2

/-- The texts that a sequence of calls adds to files, one for a call at most, in the order of the calls. -/
inductive Additions (storage : Storage sys.files ι) : List (Call σ) → σ → List (Call.Addition ι) → Prop where
  | done {s : σ} : Additions storage [] s []
  | adds {c : Call σ} {calls : List (Call σ)} {s : σ} {addition : Call.Addition ι} {log : List (Call.Addition ι)}
      (now : c.Appends storage s addition) (later : Additions storage calls (c.run sys s).2 log) :
      Additions storage (c :: calls) s (addition :: log)
  | silent {c : Call σ} {calls : List (Call σ)} {s : σ} {log : List (Call.Addition ι)}
      (now : ∀ addition, ¬ c.Appends storage s addition) (later : Additions storage calls (c.run sys s).2 log) :
      Additions storage (c :: calls) s log

theorem exists_additions (storage : Storage sys.files ι) (calls : List (Call σ)) (s : σ) :
    ∃ log, Additions storage calls s log := by
  induction calls generalizing s with
  | nil => exact ⟨[], .done⟩
  | cons c calls ih =>
    obtain ⟨log, later⟩ := ih (c.run sys s).2
    by_cases appends : ∃ addition, c.Appends storage s addition
    · obtain ⟨addition, now⟩ := appends
      exact ⟨_, .adds now later⟩
    · exact ⟨log, .silent (fun addition now => appends ⟨addition, now⟩) later⟩

/-- A file with texts added to it. One that is missing is made by the first of them. -/
def extended (old : Option (List UInt8)) (texts : List String) : Option (List UInt8) :=
  if texts = [] then old else some (old.getD [] ++ texts.flatMap utf8Bytes)

theorem extended_cons (old : Option (List UInt8)) (text : String) (texts : List String) :
    extended old (text :: texts) = extended (some (old.getD [] ++ utf8Bytes text)) texts := by
  by_cases none : texts = []
  · simp [extended, none]
  · simp [extended, none]

def textsAt [DecidableEq ι] (i : ι) (log : List (Call.Addition ι)) : List String :=
  (log.filter fun addition => addition.place = some i).map Call.Addition.text

namespace Storage

variable [DecidableEq ι] (storage : Storage sys.files ι)

theorem content_runAll {calls : List (Call σ)} {s : σ} {log : List (Call.Addition ι)} (sound : storage.Sound s)
    (spared : Call.SpareAll storage calls s) (h : Additions storage calls s log) (i : ι) :
    storage.content i (Call.runAll sys calls s) = extended (storage.content i s) (textsAt i log) := by
  induction h with
  | done => rfl
  | @adds c calls s addition log now later ih =>
    obtain ⟨spares, spared⟩ := spared
    have rest := ih (spares.sound_run sound) spared
    obtain ⟨here, elsewhere⟩ := spares.content_of_appends sound now i
    show storage.content i (Call.runAll sys calls (c.run sys s).2) = _
    rw [rest]
    by_cases place : addition.place = some i
    · rw [here place, ← extended_cons]
      simp [textsAt, place]
    · rw [elsewhere place]
      simp [textsAt, place]
  | @silent c calls s log now later ih =>
    obtain ⟨spares, spared⟩ := spared
    have rest := ih (spares.sound_run sound) spared
    show storage.content i (Call.runAll sys calls (c.run sys s).2) = _
    rw [rest, spares.content_of_silent now i]

theorem isSome_content_runAll {calls : List (Call σ)} {s : σ} {log : List (Call.Addition ι)} (sound : storage.Sound s)
    (spared : Call.SpareAll storage calls s) (h : Additions storage calls s log) {addition : Call.Addition ι}
    (appended : addition ∈ log) {i : ι} (here : addition.place = some i) :
    (storage.content i (Call.runAll sys calls s)).isSome = true := by
  have some_text : addition.text ∈ textsAt i log :=
    List.mem_map.2 ⟨addition, List.mem_filter.2 ⟨appended, by simpa using here⟩, rfl⟩
  rw [storage.content_runAll sound spared h, extended, if_neg (List.ne_nil_of_mem some_text)]
  rfl

end Storage

theorem Call.SpareAll.spares {storage : Storage sys.files ι} {before after : List (Call σ)} {c : Call σ} {s : σ}
    (h : SpareAll storage (before ++ c :: after) s) : c.Spares storage (runAll sys before s) := by
  induction before generalizing s with
  | nil => exact h.1
  | cons first before ih => exact ih h.2

theorem Call.Spares.content_of_untold {storage : Storage sys.files ι} {c : Call σ} {s : σ} (h : c.Spares storage s)
    (untold : (∃ f s', c.Fails sys s f s') ∨ c.args.redirectTo = none) (i : ι) :
    storage.content i (c.run sys s).2 = storage.content i s := by
  apply h.content_of_silent
  rintro _ ⟨success, ⟨t, asked, -⟩, -⟩
  rcases untold with ⟨f, s', failure⟩ | none
  · exact success.not_fails failure
  · rw [none] at asked
    cases asked

/-- After any calls every file holds what it held before and then, in the order of the calls, the texts of those whose
script succeeded, whose target led to that file and whose text could be added. A target that was missing is there, even
if all its texts are empty. A call whose script fails, or that asks for no file, changes none. A call answers with its
outputs exactly when the script succeeded and the text was added where that was asked for; a text that could not be
added is told. -/
theorem Storage.content_after_calls [DecidableEq ι] (storage : Storage sys.files ι) (calls : List (Call σ)) (s : σ)
    (sound : storage.Sound s) (spared : Call.SpareAll storage calls s) :
    (∃ log, Additions storage calls s log) ∧
    (∀ log, Additions storage calls s log →
      (∀ i, storage.content i (Call.runAll sys calls s) = extended (storage.content i s) (textsAt i log)) ∧
      ∀ addition ∈ log, ∀ i, addition.place = some i →
        (storage.content i (Call.runAll sys calls s)).isSome = true) ∧
    (∀ before c after, calls = before ++ c :: after →
      (∃ f s', c.Fails sys (Call.runAll sys before s) f s') ∨ c.args.redirectTo = none → ∀ i,
        storage.content i (Call.runAll sys (before ++ [c]) s) = storage.content i (Call.runAll sys before s)) ∧
    ∀ (c : Call σ) s,
      (∀ outputs, (c.run sys s).1.result = .ok outputs ↔ ∃ text s', c.Succeeds sys s outputs text s' ∧
        ∀ path, c.Target path → (sys.files.append path text s').1 = .ok ()) ∧
      (∀ path cause, (c.run sys s).1.result = .error (.redirect path cause) ↔
        ∃ outputs text s', c.Succeeds sys s outputs text s' ∧ c.Target path ∧
          (sys.files.append path text s').1 = .error cause) ∧
      ∀ f, (c.run sys s).1.result = .error (.script f) ↔ ∃ s', c.Fails sys s f s' := by
  refine ⟨exists_additions storage calls s, ?_, ?_, ?_⟩
  · intro log additions
    refine ⟨storage.content_runAll sound spared additions, ?_⟩
    intro addition appended i here
    exact storage.isSome_content_runAll sound spared additions appended here
  · rintro before c after rfl untold i
    have one : Call.runAll sys (before ++ [c]) s = (c.run sys (Call.runAll sys before s)).2 := by simp [Call.runAll]
    rw [one]
    exact spared.spares.content_of_untold untold i
  · exact fun c s => ⟨fun _ => Call.result_ok_iff, fun _ _ => Call.result_redirect_iff, fun _ => Call.result_script_iff⟩

namespace Posix.Machine

open Execution (Order)

theorem files_deliver (signal : Nat) (k : Kernel) (p : Process) : (k.deliver signal p).files = k.files := by
  unfold Kernel.deliver
  repeat' split
  all_goals rfl

theorem files_obey (order : Order) (number : Nat) (m : Machine) : (m.obey order number).files = m.files := by
  have killed (chosen : Process → Bool) : (m.killWhere chosen).files = m.files := by
    refine List.foldlRecOn (motive := fun k : Kernel => k.files = m.files) _ _ rfl fun (k : Kernel) kept p _ => ?_
    exact (files_deliver Signal.kill k p).trans kept
  cases order with
  | killGroup => exact killed _
  | kill => exact killed _
  | reap => rfl

variable {δ : Type} [BufferedDecoder δ] {c : ScriptRunner.Call Machine} {m m' : Machine}

theorem files_dismiss (label : String) (child : Except String Execution.Child) (m : Machine) :
    ((system δ).dismiss label child m).files = m.files := by
  cases child with
  | error error => rfl
  | ok child =>
    refine List.foldlRecOn (motive := fun m' : Machine => m'.files = m.files) _ _ rfl ?_
    exact fun (m' : Machine) kept order _ => (files_obey order child.number m').trans kept

theorem content_storage (p : Place) (m : Machine) : (storage δ).content p m = m.files.content p := rfl

theorem keeps_of_files_eq (same : m'.files = m.files) : (storage δ).Keeps m m' where
  sound sound := by
    show m'.files.Sound
    rwa [same]
  content p := by rw [content_storage, content_storage, same]

theorem spares_of_shown {ui : Ui Machine} (active : c.context.activeUi = some ui)
    (shown : (ui.run (Driver.uiCall c.executor c.request) m).2.files = m.files) :
    c.Spares (storage δ) m where
  shown active' := by
    cases active.symm.trans active'
    exact keeps_of_files_eq shown
  asked direct := by cases active.symm.trans direct
  spawned direct _ := by cases active.symm.trans direct
  dismissed direct _ := by cases active.symm.trans direct
  refused _ _ refused p := (keeps_of_files_eq (files_of_refused refused)).content p

theorem spares_of_direct {answer : (Option String × String) × List Probe × Machine}
    (direct : c.context.activeUi = none)
    (answered : (system δ).host.answer (c.executor.inquire .linux c.request) m = answer)
    (asked : answer.2.2.files = m.files)
    (spawned : (spawn (.of answer.1.1 c.request.command .linux) c.request (c.executor.limit c.request)
      answer.2.2).2.files = answer.2.2.files) : c.Spares (storage δ) m where
  shown active := by cases active.symm.trans direct
  asked _ := by
    subst answered
    exact keeps_of_files_eq asked
  spawned _ starts := by
    subst answered
    obtain ⟨answered, started⟩ := starts
    rw [show (system δ).host.platform = .linux from rfl] at answered started ⊢
    rw [answered] at spawned ⊢
    rw [show spawn _ _ _ _ = _ from started] at spawned
    exact keeps_of_files_eq spawned
  dismissed _ _ := keeps_of_files_eq (files_dismiss _ _ _)
  refused _ _ refused p := (keeps_of_files_eq (files_of_refused refused)).content p

/-- Runners that hand back nothing, a line, and a text for a directory, one whose user stops the script, and a child
that prints. The last file is named in another way. -/
theorem content_after_five_calls :
    let sys := system Decoder
    let start : Machine := desk.addFile "log" (utf8Bytes "first\n") false
    let ui (result : Except UiError String) : Ui Machine := ⟨true, fun _ m => (⟨result, []⟩, m)⟩
    let hands (result : Except UiError String) : Context Machine := ⟨some (ui result), false, some "/w"⟩
    let calls : List (ScriptRunner.Call Machine) :=
      [⟨.default, hands (.ok ""), .ofCommand "a", some "/w/new"⟩,
        ⟨.default, hands (.ok "line\n"), .ofCommand "b", some "log"⟩,
        ⟨.default, hands (.ok "lost"), .ofCommand "c", some "."⟩,
        ⟨.default, hands (.error .cancelled), .ofCommand "d", some "log"⟩,
        ⟨.default, ⟨none, false, some "/w"⟩, .ofCommand "echo hi", some "..//w/./log"⟩]
    let last := ScriptRunner.Call.runAll sys calls start
    last.files.content ["w", "log"] = some (utf8Bytes "first\nline\nhi\n") ∧
    last.files.content ["w", "new"] = some [] ∧
    ∀ p : Place, p ≠ ["w", "log"] → p ≠ ["w", "new"] → last.files.content p = start.files.content p := by
  intro sys start hands runs calls last
  have sound : (storage Decoder).Sound start := (sound_start _ _).install _ _
  have spared : ScriptRunner.Call.SpareAll (storage Decoder) calls start := by
    have hosted := @spares_of_shown Decoder
    refine ⟨hosted rfl rfl, hosted rfl rfl, hosted rfl rfl, hosted rfl rfl, ?_, trivial⟩
    refine spares_of_direct rfl rfl ?_ ?_ <;> decide +kernel
  have log : Additions (storage Decoder) calls start
      [⟨"/w/new", some ["w", "new"], ""⟩, ⟨"/w/log", some ["w", "log"], "line\n"⟩,
        ⟨"/w/..//w/./log", some ["w", "log"], "hi\n"⟩] := by
    refine .adds ?_ (.adds ?_ (.silent ?_ (.silent ?_ (.adds ?_ .done))))
    · refine .of_dispatch (.ofPairs []) ?_ ?_ ?_ ?_ <;> decide +kernel
    · refine .of_dispatch (.ofPairs []) ?_ ?_ ?_ ?_ <;> decide +kernel
    · exact ScriptRunner.Call.not_appends (by decide +kernel)
    · exact ScriptRunner.Call.not_appends (by decide +kernel)
    · refine .of_dispatch (.ofPairs []) ?_ ?_ ?_ ?_ <;> decide +kernel
  obtain ⟨-, told, -⟩ := (storage Decoder).content_after_calls calls start sound spared
  obtain ⟨content, -⟩ := told _ log
  simp only [content_storage] at content
  refine ⟨?_, ?_, fun p other new => ?_⟩
  · rw [content]
    decide +kernel
  · rw [content]
    decide +kernel
  · rw [content]
    simp [textsAt, extended, Ne.symm other, Ne.symm new]

end Posix.Machine

end ScriptRunner
