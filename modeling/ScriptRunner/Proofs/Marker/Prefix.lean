import Mathlib.Algebra.Group.Nat.Even
import Mathlib.Data.List.Induction
import ScriptRunner.Proofs.Marker.Boundary

namespace ScriptRunner.Marker

def colonRun (s : List Char) : Nat := (s.reverse.takeWhile (· == ':')).length

theorem colonRun_le (s : List Char) : colonRun s ≤ s.length := by
  have taken := (List.takeWhile_prefix (· == ':') (l := s.reverse)).length_le
  rwa [List.length_reverse] at taken

theorem colonRun_cons (c : Char) (s : List Char) :
    colonRun (c :: s) = if c = ':' ∧ colonRun s = s.length then s.length + 1 else colonRun s := by
  by_cases colon : c = ':'
  · by_cases all : (s.reverse.takeWhile (· == ':')).length = s.length
    · simp [colonRun, List.takeWhile_append, all, colon]
    · simp [colonRun, List.takeWhile_append, all]
  · by_cases all : (s.reverse.takeWhile (· == ':')).length = s.length
    · simp [colonRun, List.takeWhile_append, all, colon]
    · simp [colonRun, List.takeWhile_append, all]

theorem colonRun_cons_of_other {c d : Char} {s : List Char} (other : c = ':' → d ≠ ':') :
    colonRun (c :: d :: s) = colonRun (d :: s) := by
  rw [colonRun_cons]
  split
  · next run =>
    have short := colonRun_le s
    have all := run.2
    rw [colonRun_cons, if_neg fun h => other run.1 h.1, List.length_cons] at all
    omega
  · rfl

theorem even_colonRun_cons_cons (s : List Char) : Even (colonRun (':' :: ':' :: s)) ↔ Even (colonRun s) := by
  by_cases all : colonRun s = s.length
  · simp [colonRun_cons, all, Nat.even_add_one]
  · have short := colonRun_le s
    have longer : colonRun s ≠ s.length + 1 := by omega
    simp [colonRun_cons, all, longer]

theorem assignment?_of_no_word {s : List Char} (nowhere : ∀ w ∈ words, ¬ w <+: s) : assignment? s = none := by
  rw [← not_assignmentAt_iff]
  intro found rest here
  obtain ⟨w, marker, starts⟩ := here.starts
  exact nowhere w marker starts

theorem pairs_of_no_word {s : List Char} (nowhere : ∀ w ∈ words, ¬ w <+: ':' :: ':' :: s) :
    pairs (':' :: ':' :: s) = pairs s :=
  pairs_of_resume rfl (assignment?_of_no_word nowhere)

theorem AssignmentAt.pairs_eq {s rest : List Char} {found : Pair} (h : AssignmentAt s found rest) :
    pairs s = found :: pairs rest := by
  obtain ⟨r, rfl⟩ := h.letters
  exact pairs_of_assignment rfl (assignment?_eq_some_iff.2 h)

/-- Where no other marker starts before it, a marker is read when an even number of colons stands right before it.
Behind an odd number the scan goes on inside the marker, and it is lost. -/
theorem pairs_append_assignment {p s rest : List Char} {found : Pair} (here : AssignmentAt s found rest)
    (first : ∀ i < p.length, ∀ w ∈ words, ¬ w <+: (p ++ s).drop i) :
    pairs (p ++ s) = if Even (colonRun p) then found :: pairs rest else pairs (s.drop 2) := by
  induction p using List.twoStepInduction with
  | nil => exact here.pairs_eq
  | singleton c =>
    by_cases colon : c = ':'
    · subst colon
      obtain ⟨r, rfl⟩ := here.letters
      have skipped := pairs_of_no_word (first 0 (by simp))
      simpa [colonRun] using skipped.trans (pairs_cons fun _ _ other => by cases other)
    · have skipped := pairs_cons (s := s) fun _ is_colon => absurd is_colon colon
      simpa [colonRun, colon] using skipped.trans here.pairs_eq
  | cons_cons c d p ih ihd =>
    by_cases two : c = ':' ∧ d = ':'
    · obtain ⟨rfl, rfl⟩ := two
      have skipped := pairs_of_no_word (first 0 (by simp))
      have behind := ih fun i short => first (i + 2) (by simpa using short)
      simp only [even_colonRun_cons_cons]
      exact skipped.trans behind
    · have other : c = ':' → d ≠ ':' := fun first second => two ⟨first, second⟩
      have skipped := pairs_cons (c := c) (s := d :: p ++ s) fun _ colon next =>
        other colon (List.cons.inj next).1
      have behind := ihd d fun i short => first (i + 1) (by simpa using short)
      rw [colonRun_cons_of_other other]
      exact skipped.trans behind

/-- Two markers that are cut short and a quote that stays open, then four colons. -/
theorem pairs_behind_false_starts :
    let p := "::set-::set-env A=\"::::".toList
    let s := "::set-output K=v;".toList
    pairs (p ++ s) = ⟨['K'], ['v']⟩ :: pairs [';'] := by
  intro p s
  have here : AssignmentAt s ⟨['K'], ['v']⟩ [';'] := assignment?_eq_some_iff.1 (by decide +kernel)
  have read := pairs_append_assignment (p := p) here (by decide +kernel)
  rwa [if_pos (by decide +kernel)] at read

/-- A single colon before a marker hides it. -/
theorem marker_hidden_by_colon :
    ¬ ∀ (p s rest : List Char) (found : Pair), AssignmentAt s found rest →
      (∀ i < p.length, ∀ w ∈ words, ¬ w <+: (p ++ s).drop i) → (pairs (p ++ s)).head? = some found := by
  intro recognised
  have here : AssignmentAt "::set-output K=v".toList ⟨['K'], ['v']⟩ [] :=
    assignment?_eq_some_iff.1 (by decide +kernel)
  have read := recognised [':'] _ _ _ here (by decide +kernel)
  revert read
  decide +kernel

end ScriptRunner.Marker
