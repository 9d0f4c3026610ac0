import ScriptRunner.Driver
import ScriptRunner.Proofs.Files

namespace ScriptRunner

variable {σ ι : Type} {files : Files σ}

/-- What stands in the files of a system, by the places where the files are. -/
structure View (files : Files σ) (ι : Type) where
  /-- The states in which the places are in order. -/
  Sound : σ → Prop
  /-- Where a path leads. Nothing is at the place while the file is missing, and a device or a stream has no place. -/
  place : String → σ → Option ι
  content : ι → σ → Option (List UInt8)
  /-- An open file is the one at the place. -/
  IsAt : files.Handle → ι → σ → Prop
  /-- What was taken for an open file and does not stand in it yet. -/
  pending : files.Handle → σ → List UInt8

namespace View

/-- Bytes are taken for an open file. -/
structure Takes (v : View files ι) (h : files.Handle) (bytes : List UInt8) (s s' : σ) : Prop where
  same (i : ι) : v.IsAt h i s' ↔ v.IsAt h i s
  here {i : ι} {old : List UInt8} : v.IsAt h i s → v.content i s = some old →
    ∃ new, v.content i s' = some new ∧ new ++ v.pending h s' = old ++ v.pending h s ++ bytes
  elsewhere {i : ι} : ¬ v.IsAt h i s → v.content i s' = v.content i s

structure Keeps (v : View files ι) (s s' : σ) : Prop where
  sound : v.Sound s → v.Sound s'
  content (i : ι) : v.content i s' = v.content i s

variable {v : View files ι} {h : files.Handle} {s s' s'' : σ}

theorem Takes.nothing (v : View files ι) (h : files.Handle) (s : σ) : v.Takes h [] s s where
  same _ := Iff.rfl
  here _ held := ⟨_, held, by simp⟩
  elsewhere _ := rfl

theorem Takes.trans {bytes more : List UInt8} (first : v.Takes h bytes s s') (second : v.Takes h more s' s'') :
    v.Takes h (bytes ++ more) s s'' where
  same i := (second.same i).trans (first.same i)
  here {i old} here held := by
    obtain ⟨_, held', whole'⟩ := first.here here held
    obtain ⟨new, held'', whole''⟩ := second.here ((first.same i).2 here) held'
    exact ⟨new, held'', by rw [whole'', whole', List.append_assoc]⟩
  elsewhere {i} other := (second.elsewhere fun here => other ((first.same i).1 here)).trans (first.elsewhere other)

theorem Keeps.trans (first : v.Keeps s s') (second : v.Keeps s' s'') : v.Keeps s s'' where
  sound sound := second.sound (first.sound sound)
  content i := (second.content i).trans (first.content i)

end View

/-- Files that keep what they are given: opening creates a file that is missing and changes no other, what is taken goes
to the end of the open file and nowhere else, and flushing brings all of it there. -/
structure Storage (files : Files σ) (ι : Type) extends View files ι where
  sound_open {path : String} {s : σ} : Sound s → Sound (files.openAppend path s).2
  sound_write {h : files.Handle} {bytes : List UInt8} {s : σ} : Sound s → Sound (files.write h bytes s).2
  sound_flush {h : files.Handle} {s : σ} : Sound s → Sound (files.flush h s).2
  opened {path : String} {h : files.Handle} {s s' : σ} : Sound s → files.openAppend path s = (.ok h, s') →
    pending h s' = [] ∧ ∀ i, (IsAt h i s' ↔ place path s = some i) ∧
      (place path s = some i → content i s' = some ((content i s).getD [])) ∧
      (place path s ≠ some i → content i s' = content i s)
  wrote {h : files.Handle} {bytes : List UInt8} {n : Nat} {s s' : σ} : Sound s → files.write h bytes s = (.ok n, s') →
    toView.Takes h (bytes.take n) s s'
  flushed {h : files.Handle} {s s' : σ} : Sound s → files.flush h s = (.ok (), s') →
    toView.Takes h [] s s' ∧ pending h s' = []

namespace Storage

variable (storage : Storage files ι) {path text : String} {s s' : σ}

theorem takes_of_writes {h : files.Handle} {bytes : List UInt8} (sound : storage.Sound s)
    (writes : files.Writes h bytes s s') : storage.Sound s' ∧ storage.Takes h bytes s s' := by
  induction writes with
  | done => exact ⟨sound, .nothing _ _ _⟩
  | @part byte bytes n s s₁ s' taken rest ih =>
    have kept : storage.Sound (files.write h (byte :: bytes) s).2 := storage.sound_write sound
    rw [taken] at kept
    obtain ⟨sound', takes⟩ := ih kept
    have all := (storage.wrote sound taken).trans takes
    rw [List.take_succ_cons, List.cons_append, List.take_append_drop] at all
    exact ⟨sound', all⟩

theorem sound_writeAll (h : files.Handle) (bytes : List UInt8) (already : Nat) (sound : storage.Sound s) :
    storage.Sound (files.writeAll h bytes already s).2.2 := by
  induction bytes generalizing already s with
  | nil => exact sound
  | cons byte bytes ih =>
    cases already with
    | succ already => exact ih already sound
    | zero =>
      have kept : storage.Sound (files.write h (byte :: bytes) s).2 := storage.sound_write sound
      obtain ⟨answer, s₁, wrote⟩ : ∃ answer s₁, files.write h (byte :: bytes) s = (answer, s₁) := ⟨_, _, rfl⟩
      rw [wrote] at kept
      cases answer with
      | error cause => simpa only [Files.writeAll, wrote] using kept
      | ok taken =>
        cases taken with
        | zero => simpa only [Files.writeAll, wrote] using kept
        | succ n => simpa only [Files.writeAll, wrote] using ih n kept

theorem sound_append (path text : String) (sound : storage.Sound s) :
    storage.Sound (files.append path text s).2.2 := by
  have kept : storage.Sound (files.openAppend path s).2 := storage.sound_open sound
  obtain ⟨answer, s₁, opened⟩ : ∃ answer s₁, files.openAppend path s = (answer, s₁) := ⟨_, _, rfl⟩
  rw [opened] at kept
  cases answer with
  | error cause => simpa only [Files.append, opened] using kept
  | ok h =>
    have written := storage.sound_writeAll h (utf8Bytes text) 0 kept
    simp only [Files.append, opened]
    cases (files.writeAll h (utf8Bytes text) 0 s₁).1 with
    | error cause => exact written
    | ok => exact storage.sound_flush written

/-- A text that is added to a file stands at its end, behind what was there, and the file is there even if the text is
empty. Every other file stays as it is. -/
theorem content_of_append {shown : List Notice} (sound : storage.Sound s)
    (added : files.append path text s = (.ok (), shown, s')) (i : ι) :
    (storage.place path s = some i →
      storage.content i s' = some ((storage.content i s).getD [] ++ utf8Bytes text)) ∧
    (storage.place path s ≠ some i → storage.content i s' = storage.content i s) := by
  obtain ⟨h, s₁, s₂, opened, writes, flushed, -⟩ := Files.of_append_eq_ok added
  have kept : storage.Sound (files.openAppend path s).2 := storage.sound_open sound
  rw [opened] at kept
  obtain ⟨fresh, each⟩ := storage.opened sound opened
  obtain ⟨here, created, spared⟩ := each i
  obtain ⟨sound₂, taken⟩ := storage.takes_of_writes kept writes
  obtain ⟨nothing, empty⟩ := storage.flushed sound₂ flushed
  have all := taken.trans nothing
  constructor
  · intro place
    obtain ⟨new, held, whole⟩ := all.here (here.2 place) (created place)
    rw [empty, fresh, List.append_nil, List.append_nil, List.append_nil] at whole
    rw [held, whole]
  · intro other
    rw [all.elsewhere fun at_ => other (here.1 at_), spared other]

end Storage

end ScriptRunner
