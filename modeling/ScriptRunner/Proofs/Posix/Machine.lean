import ScriptRunner.Posix.Machine
import ScriptRunner.Proofs.Driver.Child
import ScriptRunner.Proofs.Driver.Storage
import ScriptRunner.Proofs.Posix.FileTree

namespace ScriptRunner.Posix.Machine

variable {m m' : Machine}

theorem cwd_of_launch {l : Launch} {child : Nat} (h : m.launch l = .ok (child, m')) : m'.cwd = m.cwd := by
  unfold launch at h
  split at h
  · cases h
  · dsimp only at h
    split at h
    · cases h
    · cases h
      rfl

theorem cwd_of_follow {l : Launch} {limit : Option Nat} {answer : Except SpawnError (Nat × List Execution.Event)}
    (h : m.follow l limit = (answer, m')) : m'.cwd = m.cwd := by
  unfold follow at h
  split at h
  · cases h
    rfl
  · next child m₁ launched =>
    obtain ⟨-, rfl⟩ := Prod.mk.inj h
    have kept := cwd_of_launch launched
    exact kept

theorem cwd_obey (order : Execution.Order) (number : Nat) (m : Machine) : (m.obey order number).cwd = m.cwd := by
  cases order <;> rfl

theorem cwd_query (program : String) (args : List String) (m : Machine) : (query program args m).2.cwd = m.cwd := by
  have kept : (m.capture program args (some queryLimit)).2.cwd = m.cwd := by
    unfold capture
    dsimp only
    split
    · next followed => exact cwd_of_follow followed
    · next followed =>
      have kept := cwd_of_follow followed
      dsimp only
      split <;> exact kept
  exact kept

theorem cwd_spawn (i : Invocation) (r : Request) (limit : Option Nat) (m : Machine) :
    (spawn i r limit m).2.cwd = m.cwd := by
  unfold spawn
  dsimp only
  split
  · next followed => exact cwd_of_follow followed
  · next followed =>
    have kept := cwd_of_follow followed
    split
    · exact kept
    · split <;> exact kept

theorem cwd_run (δ : Type) [BufferedDecoder δ] (x : Executor) (r : Request) (m : Machine) :
    (x.run (system δ) r m).2.cwd = m.cwd :=
  Executor.run_keeps (P := fun m' : Machine => m'.cwd = m.cwd)
    (fun program args m' kept => (cwd_query program args m').trans kept)
    (fun i r limit m' kept => (cwd_spawn i r limit m').trans kept)
    (fun order number m' kept => (m'.cwd_obey order number).trans kept) x r rfl

theorem stream?_eq_of_cwd_eq (same : m.cwd = m'.cwd) (path : String) : m.stream? path = m'.stream? path := by
  have place : m.placeOf path = m'.placeOf path := by simp only [placeOf, same]
  rw [stream?, stream?, place]

theorem openAppend_cases {path : String} {h : Handle} (opened : m.openAppend path = (.ok h, m')) :
    (Octets.ofText path).hasNul = false ∧
      ((∃ toStderr, m.stream? path = some toStderr ∧ h = .stream toStderr ∧ m' = m) ∨
        (m.stream? path = none ∧ ∃ files i, m.files.create m.cwd (.ofText path) = .ok (files, i) ∧ h = .node i ∧
          m' = m.withFiles files)) := by
  unfold openAppend at opened
  dsimp only at opened
  split at opened
  · cases opened
  · next plain =>
    refine ⟨Bool.eq_false_iff.2 plain, ?_⟩
    split at opened
    · next toStderr led =>
      cases opened
      exact .inl ⟨toStderr, led, rfl, rfl⟩
    · next unled =>
      split at opened
      · next files i created =>
        cases opened
        exact .inr ⟨unled, files, i, created, rfl, rfl⟩
      · cases opened

theorem stream?_of_openAppend {path : String} {h : Handle} {toStderr : Bool} (opened : m.openAppend path = (.ok h, m'))
    (stream : access.stream? h = some toStderr) : m.stream? path = some toStderr := by
  obtain ⟨-, ⟨_, led, rfl, -⟩ | ⟨-, _, _, -, rfl, -⟩⟩ := openAppend_cases opened
  · rw [led]
    exact stream
  · cases stream

theorem stream?_of_reopens {δ : Type} [BufferedDecoder δ] {c : ScriptRunner.Call Machine} {toStderr : Bool}
    {text : String} (direct : c.context.activeUi = none) (h : c.Reopens (system δ) m toStderr text) :
    ∃ t, c.args.redirectTo = some t ∧ m.stream? (Path.resolve c.context.project t) = some toStderr := by
  obtain ⟨success, ⟨t, asked, resolves⟩, opened, stream⟩ := h
  refine ⟨t, asked, ?_⟩
  rw [Path.resolves_iff.1 resolves]
  cases success with
  | shown active reply =>
    rw [direct] at active
    cases active
  | printed direct ran outcome =>
    have kept := cwd_run δ c.executor c.request m
    rw [ran] at kept
    exact (stream?_eq_of_cwd_eq kept.symm _).trans (stream?_of_openAppend opened stream)

def fileAt (path : String) (m : Machine) : Option Place :=
  if (Octets.ofText path).hasNul || (m.stream? path).isSome then none
  else
    match m.files.locateWritable m.cwd (.ofText path) with
    | .error _ => none
    | .ok p => m.files.regular? p

def view : View access Place where
  Sound m := m.files.Sound
  place := fileAt
  content p m := m.files.content p
  IsAt h p m := ∃ i, h = .node i ∧ m.files.number? p = some i ∧ (m.files.content p).isSome = true
  pending _ _ := []

theorem files_withFiles (m : Machine) (files : FileTree) : (m.withFiles files).files = files := rfl

theorem isAt_node_iff {i : Nat} {p : Place} :
    view.IsAt (.node i) p m ↔ m.files.number? p = some i ∧ (m.files.content p).isSome = true := by
  constructor
  · rintro ⟨j, ⟨⟩, held⟩
    exact held
  · exact fun held => ⟨i, rfl, held⟩

theorem not_isAt_stream {toStderr : Bool} {p : Place} : ¬ view.IsAt (.stream toStderr) p m := by
  rintro ⟨i, ⟨⟩, -⟩

theorem view_opened {path : String} {h : Handle} (sound : m.files.Sound) (opened : m.openAppend path = (.ok h, m'))
    (p : Place) : (view.IsAt h p m' ↔ m.fileAt path = some p) ∧
      (m.fileAt path = some p → m'.files.content p = some ((m.files.content p).getD [])) ∧
      (m.fileAt path ≠ some p → m'.files.content p = m.files.content p) := by
  obtain ⟨plain, ⟨toStderr, led, rfl, rfl⟩ | ⟨unled, files, i, created, rfl, rfl⟩⟩ := openAppend_cases opened
  · have nowhere : m'.fileAt path = none := by simp [fileAt, led]
    rw [nowhere]
    exact ⟨iff_of_false not_isAt_stream nofun, nofun, fun _ => rfl⟩
  · obtain ⟨q, located, each⟩ := sound.content_of_create created
    have here : m.fileAt path = m.files.regular? q := by simp [fileAt, plain, unled, located]
    rw [here, isAt_node_iff]
    exact each p

theorem write_cases {h : Handle} {bytes : List UInt8} {n : Nat} (wrote : m.write h bytes = (.ok n, m')) :
    n = bytes.length ∧ ((∃ toStderr, h = .stream toStderr ∧ m' = m) ∨
      ∃ i files, h = .node i ∧ m.files.extend i (.ofBytes bytes) = .ok files ∧ m' = m.withFiles files) := by
  unfold write at wrote
  split at wrote
  · cases wrote
    exact ⟨rfl, .inl ⟨_, rfl, rfl⟩⟩
  · split at wrote
    · next files extended =>
      cases wrote
      exact ⟨rfl, .inr ⟨_, files, rfl, extended, rfl⟩⟩
    · cases wrote

theorem view_wrote {h : Handle} {bytes : List UInt8} {n : Nat} (wrote : m.write h bytes = (.ok n, m')) :
    view.Takes h (bytes.take n) m m' := by
  obtain ⟨rfl, ⟨toStderr, rfl, rfl⟩ | ⟨i, files, rfl, extended, rfl⟩⟩ := write_cases wrote
  · exact ⟨fun _ => Iff.rfl, fun here => absurd here not_isAt_stream, fun _ => rfl⟩
  · have named := FileTree.number?_extend extended
    have content := FileTree.content_extend extended
    rw [List.take_length]
    refine ⟨fun p => ?_, fun {p old} here held => ?_, fun {p} other => ?_⟩
    · rw [isAt_node_iff, isAt_node_iff, files_withFiles, named, content]
      split <;> simp
    · refine ⟨old ++ bytes, ?_, by simp [view]⟩
      have wanted : files.content p = some (old ++ bytes) := by
        rw [content, if_pos (isAt_node_iff.1 here).1, show m.files.content p = some old from held, Option.map_some,
          Octets.toBytes_ofBytes]
      exact wanted
    · have wanted : files.content p = m.files.content p := by
        rw [content]
        split
        · next here =>
          cases held : m.files.content p with
          | none => rfl
          | some old => exact absurd (isAt_node_iff.2 ⟨here, by simp [held]⟩) other
        · rfl
      exact wanted

theorem sound_openAppend (sound : m.files.Sound) (path : String) : (m.openAppend path).2.files.Sound := by
  unfold openAppend
  dsimp only
  split
  · exact sound
  · split
    · exact sound
    · split
      · next created => exact sound.create created
      · exact sound

theorem sound_write (sound : m.files.Sound) (h : Handle) (bytes : List UInt8) : (m.write h bytes).2.files.Sound := by
  unfold write
  split
  · exact sound
  · split
    · next extended => exact sound.extend extended
    · exact sound

/-- The files of a machine keep what they are given, as long as every name has a node of its own. -/
def storage (δ : Type) [BufferedDecoder δ] : Storage (system δ).files Place where
  toView := view
  sound_open sound := sound_openAppend sound _
  sound_write sound := sound_write sound _ _
  sound_flush sound := sound
  opened sound opened := ⟨rfl, view_opened sound opened⟩
  wrote _ wrote := view_wrote wrote
  flushed {h m m'} _ flushed := by
    obtain ⟨-, rfl⟩ := Prod.mk.inj flushed
    exact ⟨.nothing _ _ _, rfl⟩

theorem eq_of_openAppend_eq_error {path cause : String} (refused : m.openAppend path = (.error cause, m')) :
    m' = m := by
  unfold openAppend at refused
  dsimp only at refused
  split at refused
  · cases refused
    rfl
  · split at refused
    · cases refused
    · split at refused
      · cases refused
      · cases refused
        rfl

theorem of_writeAll_eq_error {h : Handle} {bytes taken : List UInt8} {cause : String}
    (refused : access.writeAll h bytes 0 m = (.error cause, taken, m')) :
    m' = m ∧ ∃ i, h = .node i ∧ ∀ content executable, m.files.nodes[i]? ≠ some (.file content executable) := by
  cases bytes with
  | nil => cases refused
  | cons byte bytes =>
    cases h with
    | stream toStderr =>
      cases (Files.writeAll_of_write rfl).symm.trans refused
    | node i =>
      cases extended : m.files.extend i (.ofBytes (byte :: bytes)) with
      | ok files =>
        have wrote : access.write (.node i) (byte :: bytes) m = (.ok (byte :: bytes).length, m.withFiles files) := by
          simp only [access, write, extended]
        cases (Files.writeAll_of_write wrote).symm.trans refused
      | error e =>
        have wrote : access.write (.node i) (byte :: bytes) m = (.error e.message, m) := by
          simp only [access, write, extended]
        simp only [Files.writeAll, wrote] at refused
        cases refused
        exact ⟨rfl, i, rfl, FileTree.not_file_of_extend_eq_error extended⟩

/-- A text that cannot be added leaves the files as they were. -/
theorem files_of_refused {path text cause : String} {shown : List Notice}
    (refused : access.append path text m = (.error cause, shown, m')) : m'.files = m.files := by
  obtain ⟨answer, m₁, opened⟩ : ∃ answer m₁, access.openAppend path m = (answer, m₁) := ⟨_, _, rfl⟩
  cases answer with
  | error e =>
    simp only [Files.append, opened] at refused
    cases refused
    rw [eq_of_openAppend_eq_error opened]
  | ok h =>
    obtain ⟨result, taken, m₂, wrote⟩ : ∃ result taken m₂,
      access.writeAll h (utf8Bytes text) 0 m₁ = (result, taken, m₂) := ⟨_, _, _, rfl⟩
    simp only [Files.append, opened, wrote] at refused
    cases result with
    | ok => cases refused
    | error e =>
      cases refused
      obtain ⟨rfl, i, rfl, special⟩ := of_writeAll_eq_error wrote
      obtain ⟨-, ⟨_, -, ⟨⟩, -⟩ | ⟨-, files, _, created, ⟨⟩, rfl⟩⟩ := openAppend_cases opened
      obtain ⟨p, -, ⟨-, rfl⟩ | ⟨-, rfl, rfl⟩⟩ := FileTree.create_cases created
      · rfl
      · exact absurd (by simp [files, withFiles, FileTree.put]) (special "" false)

theorem sound_start (environment : List (String × String)) (cwd : String) : (start environment cwd).files.Sound := by
  have plain : Programs.files.Sound := FileTree.sound_plain Programs.names
  simp only [start, files, Kernel.start]
  exact plain.makePlace _

/-- A machine with the usual tools, and an empty directory to work in. -/
def desk : Machine := .start [("PATH", "/usr/bin:/bin"), ("LC_ALL", "C.UTF-8"), ("SHELL", "/bin/sh")] "/w"

end ScriptRunner.Posix.Machine
