import ScriptRunner.Files

namespace ScriptRunner.Files

/-- Files that take everything and keep nothing. -/
def discarding (σ : Type) : Files σ where
  Handle := Unit
  openAppend _ s := (.ok (), s)
  write _ bytes s := (.ok bytes.length, s)
  flush _ s := (.ok (), s)
  stream? _ := none

variable {σ : Type} {files : Files σ} {h : files.Handle} {s s' : σ}

/-- Calls of `write` that take all bytes, one part after the other. -/
inductive Writes (files : Files σ) (h : files.Handle) : List UInt8 → σ → σ → Prop where
  | done {s : σ} : Writes files h [] s s
  | part {byte : UInt8} {bytes : List UInt8} {n : Nat} {s s₁ s' : σ}
      (taken : files.write h (byte :: bytes) s = (.ok (n + 1), s₁)) (rest : Writes files h (bytes.drop n) s₁ s') :
      Writes files h (byte :: bytes) s s'

theorem writes_of_writeAll {bytes taken : List UInt8} {already : Nat}
    (wrote : files.writeAll h bytes already s = (.ok (), taken, s')) :
    taken = bytes ∧ files.Writes h (bytes.drop already) s s' := by
  induction bytes generalizing already s taken with
  | nil =>
    cases wrote
    exact ⟨rfl, by simpa using Writes.done⟩
  | cons byte bytes ih =>
    cases already with
    | succ already =>
      obtain ⟨result, rest, last, later⟩ : ∃ result rest last,
        files.writeAll h bytes already s = (result, rest, last) := ⟨_, _, _, rfl⟩
      simp only [writeAll, later] at wrote
      cases wrote
      obtain ⟨rfl, writes⟩ := ih later
      exact ⟨rfl, writes⟩
    | zero =>
      obtain ⟨answer, s₁, first⟩ : ∃ answer s₁, files.write h (byte :: bytes) s = (answer, s₁) := ⟨_, _, rfl⟩
      cases answer with
      | error cause =>
        simp only [writeAll, first] at wrote
        cases wrote
      | ok count =>
        cases count with
        | zero =>
          simp only [writeAll, first] at wrote
          cases wrote
        | succ n =>
          obtain ⟨result, rest, last, later⟩ : ∃ result rest last,
            files.writeAll h bytes n s₁ = (result, rest, last) := ⟨_, _, _, rfl⟩
          simp only [writeAll, first, later] at wrote
          cases wrote
          obtain ⟨rfl, writes⟩ := ih later
          exact ⟨rfl, .part first writes⟩

theorem writeAll_length (h : files.Handle) (bytes : List UInt8) (s : σ) :
    files.writeAll h bytes bytes.length s = (.ok (), bytes, s) := by
  induction bytes with
  | nil => rfl
  | cons byte bytes ih => simp only [List.length_cons, writeAll, ih]

theorem writeAll_of_write {byte : UInt8} {bytes : List UInt8}
    (wrote : files.write h (byte :: bytes) s = (.ok (byte :: bytes).length, s')) :
    files.writeAll h (byte :: bytes) 0 s = (.ok (), byte :: bytes, s') := by
  simp only [writeAll, wrote, List.length_cons, writeAll_length]

def shownOf (files : Files σ) (h : files.Handle) (bytes : List UInt8) : List Notice :=
  ((files.stream? h).map fun toStderr => Notice.added toStderr bytes).toList

/-- A text is added when a file was opened, all bytes were taken and all that was taken came to the file. -/
theorem of_append_eq_ok {path text : String} {shown : List Notice}
    (added : files.append path text s = (.ok (), shown, s')) :
    ∃ h s₁ s₂, files.openAppend path s = (.ok h, s₁) ∧ files.Writes h (utf8Bytes text) s₁ s₂ ∧
      files.flush h s₂ = (.ok (), s') ∧ shown = files.shownOf h (utf8Bytes text) := by
  obtain ⟨opened, s₁, first⟩ : ∃ opened s₁, files.openAppend path s = (opened, s₁) := ⟨_, _, rfl⟩
  cases opened with
  | error cause =>
    simp only [append, first] at added
    cases added
  | ok h =>
    obtain ⟨result, taken, s₂, second⟩ : ∃ result taken s₂,
      files.writeAll h (utf8Bytes text) 0 s₁ = (result, taken, s₂) := ⟨_, _, _, rfl⟩
    simp only [append, first, second] at added
    cases result with
    | error cause => cases added
    | ok =>
      obtain ⟨flushed, s₃, third⟩ : ∃ flushed s₃, files.flush h s₂ = (flushed, s₃) := ⟨_, _, rfl⟩
      simp only [third] at added
      cases added
      obtain ⟨rfl, writes⟩ := writes_of_writeAll second
      refine ⟨h, s₁, s₂, first, writes, third, ?_⟩
      unfold shownOf
      cases files.stream? h <;> rfl

theorem of_mem_shown {path text : String} {result : Except String Unit} {shown : List Notice}
    (came : files.append path text s = (result, shown, s')) {notice : Notice} (told : notice ∈ shown) :
    ∃ h s₁ toStderr taken, files.openAppend path s = (.ok h, s₁) ∧ files.stream? h = some toStderr ∧
      notice = .added toStderr taken := by
  obtain ⟨opened, s₁, first⟩ : ∃ opened s₁, files.openAppend path s = (opened, s₁) := ⟨_, _, rfl⟩
  cases opened with
  | error cause =>
    simp only [append, first] at came
    cases came
    cases told
  | ok h =>
    obtain ⟨wrote, taken, s₂, second⟩ : ∃ wrote taken s₂,
      files.writeAll h (utf8Bytes text) 0 s₁ = (wrote, taken, s₂) := ⟨_, _, _, rfl⟩
    have same : shown = files.shownOf h taken := by
      simp only [append, first, second] at came
      unfold shownOf
      cases wrote <;> cases came <;> cases files.stream? h <;> rfl
    subst same
    cases stream : files.stream? h with
    | none => simp [shownOf, stream] at told
    | some toStderr =>
      refine ⟨h, s₁, toStderr, taken, first, stream, ?_⟩
      simpa [shownOf, stream] using told

end ScriptRunner.Files
