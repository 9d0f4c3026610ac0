import ScriptRunner.Proofs.Text.Span
import ScriptRunner.Text.Blank

namespace ScriptRunner.Text

variable {p : Char → Bool} {s a : List Char}

theorem dropWhile_eq_iff :
    s.dropWhile p = a ↔ ∃ t, s = t ++ a ∧ (∀ c ∈ t, p c = true) ∧ ∀ c ∈ a.head?, ¬ p c = true := by
  constructor
  · rintro rfl
    exact ⟨_, (span_iff p s _ _).1 ⟨rfl, rfl⟩⟩
  · rintro ⟨t, split⟩
    exact ((span_iff p s t a).2 split).2

theorem dropRightWhile_eq_iff :
    dropRightWhile p s = a ↔ ∃ t, s = a ++ t ∧ (∀ c ∈ t, p c = true) ∧ ∀ c ∈ a.getLast?, ¬ p c = true := by
  rw [dropRightWhile, List.reverse_eq_iff, dropWhile_eq_iff, List.head?_reverse]
  constructor
  · rintro ⟨t, whole, cut, ends⟩
    refine ⟨t.reverse, ?_, fun c member => cut c (List.mem_reverse.1 member), ends⟩
    simpa using congrArg List.reverse whole
  · rintro ⟨t, rfl, cut, ends⟩
    refine ⟨t.reverse, ?_, fun c member => cut c (List.mem_reverse.1 member), ends⟩
    simp

/-- A text with nothing to cut at either end. -/
structure Tight (p : Char → Bool) (s : List Char) : Prop where
  starts : ∀ c ∈ s.head?, ¬ p c = true
  ends : ∀ c ∈ s.getLast?, ¬ p c = true

variable {d : Char} {t : List Char}

theorem starts_append_cons (solid : ¬ p d = true) (starts : ∀ c ∈ s.head?, ¬ p c = true) (t : List Char) :
    ∀ c ∈ (s ++ d :: t).head?, ¬ p c = true := by
  cases s with
  | nil =>
    rintro _ ⟨⟩
    exact solid
  | cons c s => exact starts

theorem ends_append_cons (solid : ¬ p d = true) (ends : ∀ c ∈ t.getLast?, ¬ p c = true) (s : List Char) :
    ∀ c ∈ (s ++ d :: t).getLast?, ¬ p c = true := by
  intro c last
  rw [List.getLast?_append, List.getLast?_cons] at last
  cases final : t.getLast? with
  | none =>
    rw [final] at last
    cases last
    exact solid
  | some e =>
    rw [final] at last
    cases last
    exact ends e final

theorem Tight.append_cons (solid : ¬ p d = true) (starts : ∀ c ∈ s.head?, ¬ p c = true)
    (ends : ∀ c ∈ t.getLast?, ¬ p c = true) : Tight p (s ++ d :: t) :=
  ⟨starts_append_cons solid starts t, ends_append_cons solid ends s⟩

theorem trimmed_eq_iff :
    dropRightWhile p (s.dropWhile p) = a ↔
      ∃ before after, s = before ++ (a ++ after) ∧ (∀ c ∈ before, p c = true) ∧ (∀ c ∈ after, p c = true) ∧
        Tight p a := by
  rw [dropRightWhile_eq_iff]
  constructor
  · rintro ⟨after, kept, right, ends⟩
    obtain ⟨before, whole, left, starts⟩ := dropWhile_eq_iff.1 kept
    refine ⟨before, after, whole, left, right, ?_, ends⟩
    intro c first
    refine starts c ?_
    rw [List.head?_append, Option.mem_def.1 first]
    rfl
  · rintro ⟨before, after, rfl, left, right, tight⟩
    cases a with
    | nil =>
      -- All is cut, and from the left.
      refine ⟨[], dropWhile_eq_iff.2 ⟨before ++ after, by simp, ?_, nofun⟩, nofun, nofun⟩
      intro c member
      exact (List.mem_append.1 member).elim (left c) (right c)
    | cons c a =>
      exact ⟨after, dropWhile_eq_iff.2 ⟨before, rfl, left, tight.starts⟩, right, tight.ends⟩

end ScriptRunner.Text
