import ScriptRunner.Proofs.Driver.Child

namespace ScriptRunner

/-- Something done for a call. Questions to the system do not count, nor does what is done to a child or to a file
after it has been started or opened. -/
inductive Act where
  | shown (call : UiCall)
  | spawned (invocation : Invocation)
  | opened (path : String)

def Files.recording {σ : Type} (files : Files σ) : Files (σ × List Act) where
  Handle := files.Handle
  openAppend path s :=
    let (answer, s') := files.openAppend path s.1
    (answer, s', s.2 ++ [.opened path])
  write h bytes s :=
    let (answer, s') := files.write h bytes s.1
    (answer, s', s.2)
  flush h s :=
    let (answer, s') := files.flush h s.1
    (answer, s', s.2)
  stream? := files.stream?

def System.recording {σ : Type} (sys : System σ) : System (σ × List Act) where
  host :=
    { platform := sys.host.platform
      env name s := sys.host.env name s.1
      pathExists path s := sys.host.pathExists path s.1
      query program args s :=
        let (answer, s') := sys.host.query program args s.1
        (answer, s', s.2) }
  Decoding := sys.Decoding
  decoding := sys.decoding
  spawn invocation r limit s :=
    let (child, s') := sys.spawn invocation r limit s.1
    (child, s', s.2 ++ [.spawned invocation])
  obey order number s := (sys.obey order number s.1, s.2)
  files := sys.files.recording

def Ui.recording {σ : Type} (ui : Ui σ) : Ui (σ × List Act) where
  available := ui.available
  run call s :=
    let (reply, s') := ui.run call s.1
    (reply, s', s.2 ++ [.shown call])

def Context.recording {σ : Type} (ctx : Context σ) : Context (σ × List Act) :=
  ⟨ctx.ui.map Ui.recording, ctx.progress, ctx.project⟩

def Call.recording {σ : Type} (c : Call σ) : Call (σ × List Act) := ⟨c.executor, c.context.recording, c.args⟩

variable {σ : Type} {sys : System σ}

theorem Context.activeUi_recording (ctx : Context σ) : ctx.recording.activeUi = ctx.activeUi.map Ui.recording :=
  Option.filter_map

namespace Files

variable {files : Files σ}

theorem writeAll_recording (h : files.Handle) (bytes : List UInt8) (already : Nat) (s : σ) (acts : List Act) :
    files.recording.writeAll h bytes already (s, acts) =
      ((files.writeAll h bytes already s).1, (files.writeAll h bytes already s).2.1,
        (files.writeAll h bytes already s).2.2, acts) := by
  induction bytes generalizing already s with
  | nil => rfl
  | cons byte bytes ih =>
    cases already with
    | succ already => simp only [writeAll, ih]
    | zero =>
      obtain ⟨answer, s', wrote⟩ : ∃ answer s', files.write h (byte :: bytes) s = (answer, s') := ⟨_, _, rfl⟩
      have recorded : files.recording.write h (byte :: bytes) (s, acts) = (answer, s', acts) := by
        simp only [recording, wrote]
      cases answer with
      | error cause => simp only [writeAll, wrote, recorded]
      | ok taken =>
        cases taken with
        | zero => simp only [writeAll, wrote, recorded]
        | succ n => simp only [writeAll, wrote, recorded, ih]

theorem append_recording {path text : String} {s s' : σ} {result : Except String Unit} {shown : List Notice}
    (came : files.append path text s = (result, shown, s')) (acts : List Act) :
    files.recording.append path text (s, acts) = (result, shown, s', acts ++ [.opened path]) := by
  obtain ⟨answer, s₁, opened⟩ : ∃ answer s₁, files.openAppend path s = (answer, s₁) := ⟨_, _, rfl⟩
  have recorded : files.recording.openAppend path (s, acts) = (answer, s₁, acts ++ [.opened path]) := by
    simp only [recording, opened]
  cases answer with
  | error cause =>
    simp only [append, opened] at came
    cases came
    simp only [append, recorded]
  | ok h =>
    have wrote := writeAll_recording h (utf8Bytes text) 0 s₁ (acts ++ [.opened path])
    simp only [append, opened] at came
    simp only [append, recorded, wrote]
    cases told : (files.writeAll h (utf8Bytes text) 0 s₁).1 with
    | error cause =>
      simp only [told] at came
      cases came
      rfl
    | ok =>
      simp only [told] at came
      cases came
      rfl

end Files

namespace System

theorem spawn_recording {invocation : Invocation} {r : Request} {limit : Option Nat} {s s' : σ}
    {child : Except String Execution.Child} (spawned : sys.spawn invocation r limit s = (child, s'))
    (acts : List Act) :
    sys.recording.spawn invocation r limit (s, acts) = (child, s', acts ++ [.spawned invocation]) := by
  simp [recording, spawned]

theorem dismiss_recording (label : String) (child : Except String Execution.Child) (s : σ) (acts : List Act) :
    sys.recording.dismiss label child (s, acts) = (sys.dismiss label child s, acts) := by
  have carried (orders : List Execution.Order) (number : Nat) :
      sys.recording.carryOut orders number (s, acts) = (sys.carryOut orders number s, acts) := by
    induction orders generalizing s with
    | nil => rfl
    | cons order orders ih => exact ih (sys.obey order number s)
  cases child with
  | error error => rfl
  | ok child => exact carried _ _

theorem query_recording {program : String} {args : List String} {s s' : σ} {told : Except QueryError String}
    (asked : sys.host.query program args s = (told, s')) (acts : List Act) :
    sys.recording.host.query program args (s, acts) = (told, s', acts) := by
  simp [recording, asked]

theorem answer_recording {α : Type} {inquiry : Inquiry α} {s s' : σ} {a : α} {probes : List Probe}
    (answered : sys.host.answer inquiry s = (a, probes, s')) (acts : List Act) :
    sys.recording.host.answer inquiry (s, acts) = (a, probes, s', acts) := by
  induction inquiry generalizing s a probes s' with
  | done b =>
    cases answered
    rfl
  | env name next ih =>
    cases answered
    simp only [Host.answer]
    rw [ih _ rfl]
    rfl
  | path path next ih =>
    cases answered
    simp only [Host.answer]
    rw [ih _ rfl]
    rfl
  | query program args next ih =>
    obtain ⟨told, s₁, asked⟩ : ∃ told s₁, sys.host.query program args s = (told, s₁) := ⟨_, _, rfl⟩
    simp only [Host.answer, asked] at answered
    cases answered
    simp only [Host.answer, query_recording asked]
    rw [ih told rfl]

end System

/-- A record changes nothing of a run, which is one act. -/
theorem Executor.Starts.run_recording {x : Executor} {r : Request} {s s' : σ} {invocation : Invocation} {label : String}
    {child : Except String Execution.Child} (starts : x.Starts sys r s invocation label child s')
    (acts : List Act) :
    x.run sys.recording r (s, acts) = ((x.run sys r s).1, (x.run sys r s).2, acts ++ [.spawned invocation]) := by
  obtain ⟨answered, spawned⟩ := starts
  have asked := System.answer_recording answered acts
  have made := System.spawn_recording spawned acts
  have platform : sys.recording.host.platform = sys.host.platform := rfl
  simp only [run, platform, asked, made, answered, spawned, System.dismiss_recording]
  rfl

namespace Call

variable {c : Call σ} {s s' : σ}

/-- How the call runs its script: it shows the command to the runner if that can run commands, else it starts a
child. -/
inductive Runs (sys : System σ) (c : Call σ) (s : σ) : Act → Prop where
  | shown {ui : Ui σ} (active : c.context.activeUi = some ui) :
      Runs sys c s (.shown (Driver.uiCall c.executor c.request))
  | spawned {invocation : Invocation} {label : String} {child : Except String Execution.Child} {s' : σ}
      (direct : c.context.activeUi = none) (starts : c.executor.Starts sys c.request s invocation label child s') :
      Runs sys c s (.spawned invocation)

theorem dispatch_recording (sys : System σ) (c : Call σ) (s : σ) (acts : List Act) : ∃ run, c.Runs sys s run ∧
    Driver.dispatch sys.recording c.executor c.context.recording c.request (s, acts) =
      ((Driver.dispatch sys c.executor c.context c.request s).1,
        (Driver.dispatch sys c.executor c.context c.request s).2, acts ++ [run]) := by
  unfold Driver.dispatch
  rw [Context.activeUi_recording]
  cases route : c.context.activeUi with
  | some ui => exact ⟨_, .shown route, rfl⟩
  | none =>
    obtain ⟨invocation, label, child, s', starts⟩ := c.executor.exists_starts sys c.request s
    refine ⟨_, .spawned route starts, ?_⟩
    simp only [Option.map_none, starts.run_recording acts]

def opens (target : Option String) (result : Except Failure (Outputs × String)) : List Act :=
  match result, target with
  | .ok _, some path => [.opened path]
  | _, _ => []

theorem deliver_recording (sys : System σ) (target : Option String) (result : Except Failure (Outputs × String))
    (s : σ) (acts : List Act) : Driver.deliver sys.recording target result (s, acts) =
      ((Driver.deliver sys target result s).1, (Driver.deliver sys target result s).2.1,
        (Driver.deliver sys target result s).2.2, acts ++ opens target result) := by
  rcases result with f | ⟨outputs, text⟩
  · simp [Driver.deliver, opens]
  · cases target with
    | none => simp [Driver.deliver, opens]
    | some path =>
      obtain ⟨answer, shown, s', came⟩ : ∃ answer shown s', sys.files.append path text s = (answer, shown, s') :=
        ⟨_, _, _, rfl⟩
      have recorded : sys.recording.files.append path text (s, acts) = (answer, shown, s', acts ++ [.opened path]) :=
        Files.append_recording came acts
      simp only [Driver.deliver, opens, came, recorded]
      cases answer <;> rfl

/-- What the call has done, in order. -/
def acts (sys : System σ) (c : Call σ) (s : σ) : List Act := (c.recording.run sys.recording (s, [])).2.2

theorem exists_run_recording (sys : System σ) (c : Call σ) (s : σ) : ∃ run, c.Runs sys s run ∧
    c.recording.run sys.recording (s, []) = ((c.run sys s).1, (c.run sys s).2,
      run :: opens (c.args.resolve c.context.project).redirectTo
        (Driver.dispatch sys c.executor c.context c.request s).1.result) := by
  obtain ⟨run, runs, dispatched⟩ := dispatch_recording sys c s []
  refine ⟨run, runs, ?_⟩
  simp only [request] at dispatched
  have project : c.recording.context.project = c.context.project := rfl
  have progress : c.recording.context.progress = c.context.progress := rfl
  have executor : c.recording.executor = c.executor := rfl
  have args : c.recording.args = c.args := rfl
  have context : c.recording.context = c.context.recording := rfl
  simp only [Call.run, Driver.execute, request, project, progress, executor, args]
  rw [context, dispatched]
  simp only [deliver_recording]
  rfl

theorem run_recording (sys : System σ) (c : Call σ) (s : σ) :
    c.recording.run sys.recording (s, []) = ((c.run sys s).1, (c.run sys s).2, c.acts sys s) := by
  obtain ⟨run, -, recorded⟩ := exists_run_recording sys c s
  rw [acts, recorded]

def openings (c : Call σ) : List Act := ((c.args.resolve c.context.project).redirectTo.map Act.opened).toList

theorem mem_openings {act : Act} : act ∈ c.openings ↔ ∃ path, c.Target path ∧ act = .opened path := by
  simp only [openings, target_iff, Option.mem_toList, Option.map_eq_some_iff, eq_comm (a := act)]

theorem length_openings_le (c : Call σ) : c.openings.length ≤ 1 := Option.length_toList_le

theorem acts_of_succeeds {outputs : Outputs} {text : String} (success : c.Succeeds sys s outputs text s') :
    ∃ run, c.Runs sys s run ∧ c.acts sys s = run :: c.openings := by
  obtain ⟨run, runs, recorded⟩ := exists_run_recording sys c s
  obtain ⟨d, dispatched, told⟩ := succeeds_iff.1 success
  refine ⟨run, runs, ?_⟩
  rw [acts, recorded, dispatched, told, openings]
  cases (c.args.resolve c.context.project).redirectTo <;> rfl

theorem acts_of_fails {f : Failure} (failure : c.Fails sys s f s') :
    ∃ run, c.Runs sys s run ∧ c.acts sys s = [run] := by
  obtain ⟨run, runs, recorded⟩ := exists_run_recording sys c s
  obtain ⟨d, dispatched, told⟩ := fails_iff.1 failure
  refine ⟨run, runs, ?_⟩
  rw [acts, recorded, dispatched, told]
  rfl

end Call

end ScriptRunner
