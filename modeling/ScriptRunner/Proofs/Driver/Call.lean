import ScriptRunner.Driver
import ScriptRunner.Proofs.Bindings
import ScriptRunner.Proofs.Files

namespace ScriptRunner

namespace Path

/-- What a path means to a project: a relative one starts from the directory of the project. -/
inductive Resolves : Option String → String → String → Prop where
  | absolute {project : Option String} {path : String} (rooted : path.toList.head? = some '/') :
      Resolves project path path
  | free {path : String} : Resolves none path path
  | below {root path : String} (relative : path.toList.head? ≠ some '/') (named : root ≠ "")
      (apart : root.toList.getLast? ≠ some '/') : Resolves (some root) path (root ++ "/" ++ path)
  | joined {root path : String} (relative : path.toList.head? ≠ some '/')
      (ends : root = "" ∨ root.toList.getLast? = some '/') : Resolves (some root) path (root ++ path)

theorem isAbsolute_iff (path : String) : isAbsolute path = true ↔ path.toList.head? = some '/' := by
  have slash : "/".toList = ['/'] := rfl
  rw [isAbsolute, slash, List.isPrefixOf_iff_prefix]
  cases path.toList <;> simp [eq_comm]

theorem isSuffixOf_slash_iff (root : String) :
    "/".toList.isSuffixOf root.toList = true ↔ root.toList.getLast? = some '/' := by
  have slash : "/".toList = ['/'] := rfl
  rw [slash, List.isSuffixOf_iff_suffix, List.getLast?_eq_some_iff]
  constructor
  · rintro ⟨before, same⟩
    exact ⟨before, same.symm⟩
  · rintro ⟨before, same⟩
    exact ⟨before, same.symm⟩

theorem resolves_iff {project : Option String} {path full : String} :
    Resolves project path full ↔ resolve project path = full := by
  constructor
  · rintro (rooted | - | @⟨root, _, relative, named, apart⟩ | ⟨relative, ends⟩)
    · cases project with
      | none => rfl
      | some root => rw [resolve, join, if_pos ((isAbsolute_iff path).2 rooted)]
    · rfl
    · rw [Ne, ← isAbsolute_iff] at relative
      rw [Ne, ← isSuffixOf_slash_iff] at apart
      have empty : root.isEmpty = false := by simpa using named
      rw [resolve, join, if_neg relative, empty, Bool.false_or, if_neg apart]
    · rw [Ne, ← isAbsolute_iff] at relative
      rw [← isSuffixOf_slash_iff, ← String.isEmpty_iff] at ends
      rw [resolve, join, if_neg relative, if_pos (Bool.or_eq_true_iff.2 ends)]
  · rintro rfl
    cases project with
    | none => exact .free
    | some root =>
      rw [resolve, join]
      split
      · next rooted => exact .absolute ((isAbsolute_iff path).1 rooted)
      · next relative =>
        rw [isAbsolute_iff] at relative
        split
        · next ends =>
          rw [Bool.or_eq_true, isSuffixOf_slash_iff, String.isEmpty_iff] at ends
          exact .joined relative ends
        · next apart =>
          rw [Bool.or_eq_true, isSuffixOf_slash_iff, String.isEmpty_iff, not_or] at apart
          exact .below relative apart.1 apart.2

end Path

instance decidableEqExcept {ε α : Type} [DecidableEq ε] [DecidableEq α] : DecidableEq (Except ε α)
  | .ok a, .ok b => decidable_of_iff (a = b) (Except.ok.injEq a b).to_iff.symm
  | .error e, .error f => decidable_of_iff (e = f) (Except.error.injEq e f).to_iff.symm
  | .ok _, .error _ => isFalse nofun
  | .error _, .ok _ => isFalse nofun

structure Call (σ : Type) where
  executor : Executor
  context : Context σ
  args : ScriptArgs

namespace Call

variable {σ : Type} (sys : System σ) (c : Call σ) (s : σ)

def request : Request := (c.args.resolve c.context.project).request

def run : Report × σ := Driver.execute sys c.executor c.context c.args s

/-- The file that the call asks its output to be added to. -/
def Target (path : String) : Prop := ∃ t, c.args.redirectTo = some t ∧ Path.Resolves c.context.project t path

/-- The script of the call succeeds: the outputs, the text that was printed or handed back, and the system then. -/
inductive Succeeds : Outputs → String → σ → Prop where
  | shown {ui : Ui σ} {text : String} {notices : List Notice} {s' : σ} (active : c.context.activeUi = some ui)
      (reply : ui.run (Driver.uiCall c.executor c.request) s = (⟨.ok text, notices⟩, s')) :
      Succeeds (.parse (if Text.blank text then c.request.command else text)) text s'
  | printed {text : String} {report : ExecutionReport} {s' : σ} (direct : c.context.activeUi = none)
      (ran : c.executor.run sys c.request s = (report, s')) (outcome : report.outcome = .success (.parse text) text) :
      Succeeds (.parse text) text s'

/-- The script of the call fails, times out, cannot start or is cancelled. -/
inductive Fails : Failure → σ → Prop where
  | refused {ui : Ui σ} {e : UiError} {notices : List Notice} {s' : σ} (active : c.context.activeUi = some ui)
      (reply : ui.run (Driver.uiCall c.executor c.request) s = (⟨.error e, notices⟩, s')) :
      Fails (.ofUi c.request.command e) s'
  | failed {f : Failure} {report : ExecutionReport} {s' : σ} (direct : c.context.activeUi = none)
      (ran : c.executor.run sys c.request s = (report, s')) (outcome : report.outcome = .failure f) : Fails f s'

/-- What the call answers, what shows of the text that it adds to a file, and the system then. The text is that of a
success, and only when it stands in the file does the call answer with its outputs. -/
inductive Answers : Except RunError Outputs → List Notice → σ → Prop where
  | failed {f : Failure} {s' : σ} (failure : c.Fails sys s f s') : Answers (.error (.script f)) [] s'
  | kept {outputs : Outputs} {text : String} {s' : σ} (success : c.Succeeds sys s outputs text s')
      (silent : ∀ path, ¬ c.Target path) : Answers (.ok outputs) [] s'
  | appended {outputs : Outputs} {text path : String} {shown : List Notice} {s' s'' : σ}
      (success : c.Succeeds sys s outputs text s') (target : c.Target path)
      (added : sys.files.append path text s' = (.ok (), shown, s'')) : Answers (.ok outputs) shown s''
  | unwritten {outputs : Outputs} {text path cause : String} {shown : List Notice} {s' s'' : σ}
      (success : c.Succeeds sys s outputs text s') (target : c.Target path)
      (refused : sys.files.append path text s' = (.error cause, shown, s'')) :
      Answers (.error (.redirect path cause)) shown s''

end Call

namespace Execution.Outcome

theorem ofExit_outputs {command stderr stdout text : String} {exit : ExitInfo} {outputs : Outputs}
    (h : ofExit command exit stderr stdout = .success outputs text) : outputs = .parse text := by
  unfold ofExit at h
  split at h
  · cases h
    rfl
  · cases h

theorem ofChild_eq (δ : Type) [BufferedDecoder δ] (command label : String) (child : Child) :
    ∃ exit, (child.last δ label).exit? = some exit ∧ ofChild δ command label child =
      ofExit command exit (child.last δ label).err.captured.joined (child.last δ label).out.captured.joined := by
  obtain ⟨exit, told⟩ := Option.isSome_iff_exists.1 (child.exit?_last (δ := δ) label)
  exact ⟨exit, told, by simp [ofChild, ofState?, told]⟩

end Execution.Outcome

theorem ExecutionReport.outcome_ofChild (δ : Type) [BufferedDecoder δ] (command label : String) (probes : List Probe)
    (child : Except String Execution.Child) :
    ∃ exit stderr stdout, (ofChild δ command label probes child).outcome = .ofExit command exit stderr stdout := by
  cases child with
  | error error => exact ⟨.spawnFailed error, "", "", rfl⟩
  | ok child =>
    obtain ⟨exit, -, outcome⟩ := Execution.Outcome.ofChild_eq δ command label child
    exact ⟨exit, _, _, outcome⟩

theorem Executor.run_outcome {σ : Type} (sys : System σ) (x : Executor) (r : Request) (s : σ) :
    ∃ exit stderr stdout, (x.run sys r s).1.outcome = .ofExit r.command exit stderr stdout :=
  ExecutionReport.outcome_ofChild _ _ _ _ _

namespace Call

variable {σ : Type} {sys : System σ} {c : Call σ} {s s' : σ}

theorem target_iff {path : String} : c.Target path ↔ (c.args.resolve c.context.project).redirectTo = some path := by
  simp [Target, Path.resolves_iff, ScriptArgs.resolve]

theorem dispatch_cases {d : Dispatch} (dispatched : Driver.dispatch sys c.executor c.context c.request s = (d, s')) :
    (∃ outputs text, d.result = .ok (outputs, text) ∧ c.Succeeds sys s outputs text s') ∨
      ∃ f, d.result = .error f ∧ c.Fails sys s f s' := by
  unfold Driver.dispatch at dispatched
  cases route : c.context.activeUi with
  | some ui =>
    obtain ⟨⟨answer, notices⟩, s'', told⟩ : ∃ reply s'', ui.run (Driver.uiCall c.executor c.request) s = (reply, s'') :=
      ⟨_, _, rfl⟩
    simp only [route, told, Prod.mk.injEq] at dispatched
    obtain ⟨rfl, rfl⟩ := dispatched
    cases answer with
    | ok text => exact .inl ⟨_, text, rfl, .shown route told⟩
    | error e => exact .inr ⟨_, rfl, .refused route told⟩
  | none =>
    obtain ⟨report, s'', ran⟩ : ∃ report s'', c.executor.run sys c.request s = (report, s'') := ⟨_, _, rfl⟩
    simp only [route, ran, Prod.mk.injEq] at dispatched
    obtain ⟨rfl, rfl⟩ := dispatched
    obtain ⟨exit, stderr, stdout, made⟩ := Executor.run_outcome sys c.executor c.request s
    rw [ran] at made
    cases outcome : report.outcome with
    | success outputs text =>
      obtain rfl := Execution.Outcome.ofExit_outputs (made.symm.trans outcome)
      exact .inl ⟨_, text, rfl, .printed route ran outcome⟩
    | failure f => exact .inr ⟨f, rfl, .failed route ran outcome⟩

theorem succeeds_iff {outputs : Outputs} {text : String} :
    c.Succeeds sys s outputs text s' ↔ ∃ d : Dispatch,
      Driver.dispatch sys c.executor c.context c.request s = (d, s') ∧ d.result = .ok (outputs, text) := by
  constructor
  · rintro (⟨active, reply⟩ | ⟨direct, ran, outcome⟩)
    · simp only [Driver.dispatch, active, reply]
      exact ⟨_, rfl, rfl⟩
    · simp only [Driver.dispatch, direct, ran, outcome]
      exact ⟨_, rfl, rfl⟩
  · rintro ⟨d, dispatched, result⟩
    rcases dispatch_cases dispatched with ⟨_, _, same, success⟩ | ⟨_, other, -⟩
    · rw [result] at same
      cases same
      exact success
    · rw [result] at other
      cases other

theorem fails_iff {f : Failure} :
    c.Fails sys s f s' ↔ ∃ d : Dispatch,
      Driver.dispatch sys c.executor c.context c.request s = (d, s') ∧ d.result = .error f := by
  constructor
  · rintro (⟨active, reply⟩ | ⟨direct, ran, outcome⟩)
    · simp only [Driver.dispatch, active, reply]
      exact ⟨_, rfl, rfl⟩
    · simp only [Driver.dispatch, direct, ran, outcome]
      exact ⟨_, rfl, rfl⟩
  · rintro ⟨d, dispatched, result⟩
    rcases dispatch_cases dispatched with ⟨_, _, other, -⟩ | ⟨_, same, failure⟩
    · rw [result] at other
      cases other
    · rw [result] at same
      cases same
      exact failure

theorem Succeeds.not_fails {outputs : Outputs} {text : String} {s'' : σ} {f : Failure}
    (success : c.Succeeds sys s outputs text s') (failure : c.Fails sys s f s'') : False := by
  obtain ⟨d, dispatched, told⟩ := succeeds_iff.1 success
  obtain ⟨d', dispatched', told'⟩ := fails_iff.1 failure
  obtain ⟨rfl, -⟩ := Prod.mk.inj (dispatched.symm.trans dispatched')
  rw [told] at told'
  cases told'

theorem Succeeds.unique {outputs outputs' : Outputs} {text text' : String} {s'' : σ}
    (h : c.Succeeds sys s outputs text s') (h' : c.Succeeds sys s outputs' text' s'') : text = text' ∧ s' = s'' := by
  obtain ⟨d, dispatched, told⟩ := succeeds_iff.1 h
  obtain ⟨d', dispatched', told'⟩ := succeeds_iff.1 h'
  obtain ⟨rfl, rfl⟩ := Prod.mk.inj (dispatched.symm.trans dispatched')
  rw [told] at told'
  cases told'
  exact ⟨rfl, rfl⟩

/-- What shows of the text that the call adds to a file. -/
def shown (sys : System σ) (c : Call σ) (s : σ) : List Notice :=
  let (d, s') := Driver.dispatch sys c.executor c.context c.request s
  (Driver.deliver sys (c.args.resolve c.context.project).redirectTo d.result s').2.1

theorem run_eq_deliver {d : Dispatch} (dispatched : Driver.dispatch sys c.executor c.context c.request s = (d, s')) :
    ((c.run sys s).1.result, c.shown sys s, (c.run sys s).2) =
      Driver.deliver sys (c.args.resolve c.context.project).redirectTo d.result s' := by
  rw [shown, dispatched]
  simp only [request] at dispatched
  simp [run, Driver.execute, dispatched]

theorem answers_of_deliver {d : Dispatch} {result : Except RunError Outputs} {shown : List Notice} {s'' : σ}
    (dispatched : Driver.dispatch sys c.executor c.context c.request s = (d, s'))
    (delivered : Driver.deliver sys (c.args.resolve c.context.project).redirectTo d.result s' = (result, shown, s'')) :
    c.Answers sys s result shown s'' := by
  rcases dispatch_cases dispatched with ⟨outputs, text, told, success⟩ | ⟨f, told, failure⟩
  · rw [told] at delivered
    cases target : (c.args.resolve c.context.project).redirectTo with
    | none =>
      rw [target] at delivered
      cases delivered
      exact .kept success fun path asked => by simp [target_iff.1 asked] at target
    | some path =>
      obtain ⟨added, shown', s₁, came⟩ : ∃ added shown' s₁, sys.files.append path text s' = (added, shown', s₁) :=
        ⟨_, _, _, rfl⟩
      rw [target] at delivered
      simp only [Driver.deliver, came] at delivered
      cases added with
      | ok =>
        cases delivered
        exact .appended success (target_iff.2 target) came
      | error cause =>
        cases delivered
        exact .unwritten success (target_iff.2 target) came
  · rw [told] at delivered
    cases delivered
    exact .failed failure

theorem run_answers (c : Call σ) (s : σ) :
    c.Answers sys s (c.run sys s).1.result (c.shown sys s) (c.run sys s).2 := by
  obtain ⟨d, s', dispatched⟩ : ∃ d s', Driver.dispatch sys c.executor c.context c.request s = (d, s') := ⟨_, _, rfl⟩
  exact answers_of_deliver dispatched (run_eq_deliver dispatched).symm

theorem Answers.run_eq {result : Except RunError Outputs} {shown : List Notice} (h : c.Answers sys s result shown s') :
    ((c.run sys s).1.result, c.shown sys s, (c.run sys s).2) = (result, shown, s') := by
  cases h with
  | failed failure =>
    obtain ⟨d, dispatched, told⟩ := fails_iff.1 failure
    rw [run_eq_deliver dispatched, told]
    rfl
  | kept success silent =>
    obtain ⟨d, dispatched, told⟩ := succeeds_iff.1 success
    have target : (c.args.resolve c.context.project).redirectTo = none :=
      Option.eq_none_iff_forall_ne_some.2 fun path asked => silent path (target_iff.2 asked)
    rw [run_eq_deliver dispatched, told, target]
    rfl
  | appended success target added =>
    obtain ⟨d, dispatched, told⟩ := succeeds_iff.1 success
    rw [run_eq_deliver dispatched, told, target_iff.1 target]
    simp [Driver.deliver, added]
  | unwritten success target refused =>
    obtain ⟨d, dispatched, told⟩ := succeeds_iff.1 success
    rw [run_eq_deliver dispatched, told, target_iff.1 target]
    simp [Driver.deliver, refused]

theorem answers_iff {result : Except RunError Outputs} {shown : List Notice} :
    c.Answers sys s result shown s' ↔
      (c.run sys s).1.result = result ∧ c.shown sys s = shown ∧ (c.run sys s).2 = s' := by
  constructor
  · intro h
    simpa using h.run_eq
  · rintro ⟨rfl, rfl, rfl⟩
    exact run_answers c s

theorem exists_answers {result : Except RunError Outputs} (answer : (c.run sys s).1.result = result) :
    ∃ shown s', c.Answers sys s result shown s' ∧ c.shown sys s = shown ∧ (c.run sys s).2 = s' :=
  ⟨_, _, answers_iff.2 ⟨answer, rfl, rfl⟩, rfl, rfl⟩

theorem Target.unique {path path' : String} (h : c.Target path) (h' : c.Target path') : path = path' :=
  Option.some.inj ((target_iff.1 h).symm.trans (target_iff.1 h'))

theorem result_ok_iff {outputs : Outputs} :
    (c.run sys s).1.result = .ok outputs ↔ ∃ text s', c.Succeeds sys s outputs text s' ∧
      ∀ path, c.Target path → (sys.files.append path text s').1 = .ok () := by
  constructor
  · intro answer
    obtain ⟨_, _, answers, -⟩ := exists_answers answer
    cases answers with
    | kept success silent => exact ⟨_, _, success, fun path asked => absurd asked (silent path)⟩
    | appended success target added =>
      refine ⟨_, _, success, fun path asked => ?_⟩
      rw [← target.unique asked, added]
  · rintro ⟨text, s', success, done⟩
    by_cases asked : ∃ path, c.Target path
    · obtain ⟨path, target⟩ := asked
      exact (answers_iff.1 (.appended success target (Prod.ext (done path target) rfl))).1
    · exact (answers_iff.1 (.kept success fun path target => asked ⟨path, target⟩)).1

theorem result_redirect_iff {path cause : String} :
    (c.run sys s).1.result = .error (.redirect path cause) ↔ ∃ outputs text s', c.Succeeds sys s outputs text s' ∧
      c.Target path ∧ (sys.files.append path text s').1 = .error cause := by
  constructor
  · intro answer
    obtain ⟨_, _, answers, -⟩ := exists_answers answer
    cases answers with
    | unwritten success target refused => exact ⟨_, _, _, success, target, by rw [refused]⟩
  · rintro ⟨outputs, text, s', success, target, refused⟩
    exact (answers_iff.1 (.unwritten success target (Prod.ext refused rfl))).1

theorem result_script_iff {f : Failure} :
    (c.run sys s).1.result = .error (.script f) ↔ ∃ s', c.Fails sys s f s' := by
  constructor
  · intro answer
    obtain ⟨_, _, answers, -⟩ := exists_answers answer
    cases answers with
    | failed failure => exact ⟨_, failure⟩
  · rintro ⟨s', failure⟩
    exact (answers_iff.1 (.failed failure)).1

/-- The file that the call opens for its text is an output stream of the program, standard error or standard output. -/
inductive Reopens (sys : System σ) (c : Call σ) (s : σ) (toStderr : Bool) (text : String) : Prop where
  | intro {outputs : Outputs} {path : String} {h : sys.files.Handle} {s' s'' : σ}
      (success : c.Succeeds sys s outputs text s') (target : c.Target path)
      (opened : sys.files.openAppend path s' = (.ok h, s'')) (stream : sys.files.stream? h = some toStderr)

theorem reopens_of_mem_shown {notice : Notice} (told : notice ∈ c.shown sys s) :
    ∃ toStderr text taken, c.Reopens sys s toStderr text ∧ notice = .added toStderr taken := by
  have of_append {outputs : Outputs} {text path : String} {result : Except String Unit} {shown : List Notice}
      {s' s'' : σ} (success : c.Succeeds sys s outputs text s') (target : c.Target path)
      (came : sys.files.append path text s' = (result, shown, s'')) (told : notice ∈ shown) :
      ∃ toStderr text taken, c.Reopens sys s toStderr text ∧ notice = .added toStderr taken := by
    obtain ⟨h, s₁, toStderr, taken, opened, stream, rfl⟩ := Files.of_mem_shown came told
    exact ⟨toStderr, text, taken, .intro success target opened stream, rfl⟩
  obtain ⟨shown, _, answers, same, -⟩ := exists_answers (rfl : (c.run sys s).1.result = _)
  rw [same] at told
  generalize (c.run sys s).1.result = result at answers
  cases answers with
  | failed => cases told
  | kept => cases told
  | appended success target added => exact of_append success target added told
  | unwritten success target refused => exact of_append success target refused told

theorem Reopens.shown {toStderr : Bool} {text : String} (h : c.Reopens sys s toStderr text) {outputs : Outputs}
    (answer : (c.run sys s).1.result = .ok outputs) : c.shown sys s = [.added toStderr (utf8Bytes text)] := by
  obtain ⟨success, target, opened, stream⟩ := h
  obtain ⟨_, _, answers, same, -⟩ := exists_answers answer
  rw [same]
  cases answers with
  | kept _ silent => exact absurd target (silent _)
  | appended success' target' added =>
    obtain ⟨rfl, rfl⟩ := success.unique success'
    obtain rfl := target.unique target'
    obtain ⟨h, s₁, s₂, opened', -, -, rfl⟩ := Files.of_append_eq_ok added
    cases opened.symm.trans opened'
    simp [Files.shownOf, stream]

theorem notices_eq (sys : System σ) (c : Call σ) (s : σ) : (c.run sys s).1.notices =
    Driver.opening c.context.progress c.args.request.command ++
      ((Driver.dispatch sys c.executor c.context c.request s).1.notices ++ c.shown sys s) ++
      Driver.closing c.context.progress (c.run sys s).1.result.isOk := by
  obtain ⟨d, s', dispatched⟩ : ∃ d s', Driver.dispatch sys c.executor c.context c.request s = (d, s') := ⟨_, _, rfl⟩
  obtain ⟨result, told, s'', delivered⟩ : ∃ result told s'',
    Driver.deliver sys (c.args.resolve c.context.project).redirectTo d.result s' = (result, told, s'') := ⟨_, _, _, rfl⟩
  rw [shown, dispatched]
  simp only [request] at dispatched
  simp only [run, Driver.execute, dispatched, delivered]
  cases result <;> rfl

end Call

end ScriptRunner
