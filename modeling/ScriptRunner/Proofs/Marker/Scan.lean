import Mathlib.Data.List.Infix
import ScriptRunner.Proofs.Bindings
import ScriptRunner.Proofs.Marker.Grammar

namespace ScriptRunner

namespace Marker

/-- The assignments of a text when every place is tried, from left to right. -/
inductive Reading : List Char → List Pair → Prop where
  | done : Reading [] []
  | found {s rest : List Char} {p : Pair} {ps : List Pair} (here : AssignmentAt s p rest) (after : Reading rest ps) :
      Reading s (p :: ps)
  | skip {c : Char} {s : List Char} {ps : List Pair} (nothing : ∀ p rest, ¬ AssignmentAt (c :: s) p rest)
      (after : Reading s ps) : Reading (c :: s) ps

namespace Reading

variable {s t : List Char} {ps qs : List Pair}

theorem unique (h : Reading s ps) (h' : Reading s qs) : ps = qs := by
  induction h generalizing qs with
  | done =>
    cases h' with
    | done => rfl
    | found here _ =>
      obtain ⟨r, empty⟩ := here.colons
      cases empty
  | found here _ ih =>
    cases h' with
    | done =>
      obtain ⟨r, empty⟩ := here.colons
      cases empty
    | found here' after =>
      obtain ⟨rfl, rfl⟩ := here.unique here'
      rw [ih after]
    | skip nothing _ => exact absurd here (nothing _ _)
  | skip nothing _ ih =>
    cases h' with
    | found here _ => exact absurd here (nothing _ _)
    | skip _ after => exact ih after

theorem of_colons (next : colons? s = some t) (h : Reading t ps) : Reading s ps := by
  induction s with
  | nil => cases next
  | cons c s ih =>
    unfold colons? at next
    split at next
    · cases next
      exact h
    · next other => exact .skip (not_assignmentAt_of_no_colons other) (ih next)

theorem of_no_colons (nowhere : colons? s = none) : Reading s [] := by
  induction s with
  | nil => exact .done
  | cons c s ih =>
    unfold colons? at nowhere
    split at nowhere
    · cases nowhere
    · next other => exact .skip (not_assignmentAt_of_no_colons other) (ih nowhere)

/-- Behind two colons that start no assignment, none starts at the second unless a third follows. -/
theorem of_resume (nothing : ∀ p rest, ¬ AssignmentAt (':' :: ':' :: s) p rest)
    (plain : ¬ [':', ':', ':'] <+: ':' :: ':' :: s) (h : Reading s ps) : Reading (':' :: ':' :: s) ps := by
  refine .skip nothing (.skip (not_assignmentAt_of_no_colons ?_) h)
  rintro r - rfl
  exact plain ⟨r, rfl⟩

end Reading

theorem step_eq_stop_iff {s : List Char} : step s = .stop ↔ colons? s = none := by
  unfold step
  cases colons? s with
  | none => simp
  | some t => cases h : assignment? t <;> simp [h]

theorem step_eq_found_iff {s rest : List Char} {p : Pair} :
    step s = .found p rest ↔ ∃ t, colons? s = some t ∧ AssignmentAt t p rest := by
  unfold step
  cases colons? s with
  | none => simp
  | some t =>
    simp only [Option.some.injEq, exists_eq_left', ← assignment?_eq_some_iff]
    cases assignment? t with
    | none => simp
    | some found => simp [Prod.ext_iff]

theorem step_eq_resume_iff {s rest : List Char} :
    step s = .resume rest ↔ colons? s = some (':' :: ':' :: rest) ∧
      ∀ p r, ¬ AssignmentAt (':' :: ':' :: rest) p r := by
  rw [not_assignmentAt_iff]
  unfold step
  cases next : colons? s with
  | none => simp
  | some t =>
    obtain ⟨r, rfl, -⟩ := colons?_spec next
    cases h : assignment? (':' :: ':' :: r) with
    | none =>
      simp only [h, List.drop_succ_cons, List.drop_zero, Step.resume.injEq, Option.some.injEq, List.cons.injEq,
        true_and]
      constructor
      · rintro rfl
        exact ⟨rfl, h⟩
      · exact And.left
    | some found =>
      simp only [h, Option.some.injEq, List.cons.injEq, true_and]
      constructor
      · rintro ⟨⟩
      · rintro ⟨rfl, nothing⟩
        rw [h] at nothing
        cases nothing

/-- Without three colons in a row, the jumps of the scanner miss no assignment and invent none. -/
theorem reading_pairs {s : List Char} (plain : ¬ [':', ':', ':'] <:+: s) : Reading s (pairs s) := by
  fun_induction pairs s with
  | case1 s stop => exact .of_no_colons (step_eq_stop_iff.1 stop)
  | case2 s p rest found _ ih =>
    obtain ⟨t, next, here⟩ := step_eq_found_iff.1 found
    obtain ⟨-, -, behind⟩ := colons?_spec next
    have smaller := here.suffix.trans behind
    exact .of_colons next (.found here (ih fun run => plain (run.trans smaller.isInfix)))
  | case3 s rest resume _ ih =>
    obtain ⟨next, nothing⟩ := step_eq_resume_iff.1 resume
    obtain ⟨-, -, behind⟩ := colons?_spec next
    have smaller := (List.suffix_append [':', ':'] rest).trans behind
    have after := ih fun run => plain (run.trans smaller.isInfix)
    exact .of_colons next (.of_resume nothing (fun run => plain (run.isInfix.trans behind.isInfix)) after)

theorem reading_iff {s : List Char} (plain : ¬ [':', ':', ':'] <:+: s) (ps : List Pair) :
    Reading s ps ↔ ps = pairs s := by
  constructor
  · intro h
    exact h.unique (reading_pairs plain)
  · rintro rfl
    exact reading_pairs plain

end Marker

open Marker (Reading Pair pairs)

/-- Without three colons in a row, the outputs of a text are the assignments that trying every place finds: each key
where it first stands, with its last value. -/
theorem Outputs.parse_eq_reading (text : String) (plain : ¬ [':', ':', ':'] <:+: text.toList) :
    (∀ ps, Reading text.toList ps ↔ ps = pairs text.toList) ∧
    ∀ ps, Reading text.toList ps →
      (parse text).entries.map Prod.fst = ((ps.map Pair.binding).map Prod.fst).eraseDups ∧
      ∀ name, (parse text).get? name = (ps.map Pair.binding).reverse.lookup name := by
  refine ⟨Marker.reading_iff plain, ?_⟩
  intro ps reading
  obtain rfl := (Marker.reading_iff plain ps).1 reading
  exact ⟨Bindings.keys_ofPairs _, Bindings.get?_ofPairs _⟩

/-- An open quote hides nothing, a quoted marker is a value, and the last value of a key counts. -/
theorem Outputs.parse_of_open_quote :
    let text := "::set-output A=\"::set-output B=1\n::set-output A=2 " ++
      "::set-teamsfx-env\tB='::set-output C=3';::set-output A="
    Reading text.toList [⟨['B'], ['1']⟩, ⟨['A'], ['2']⟩, ⟨['B'], "::set-output C=3".toList⟩, ⟨['A'], []⟩] ∧
      (parse text).entries.map Prod.fst = ["B", "A"] ∧ (parse text).get? "A" = some "" := by
  intro text
  obtain ⟨unique, outputs⟩ := parse_eq_reading text (by decide +kernel)
  have reading := (unique [⟨['B'], ['1']⟩, ⟨['A'], ['2']⟩, ⟨['B'], "::set-output C=3".toList⟩, ⟨['A'], []⟩]).2
    (by decide +kernel)
  obtain ⟨keys, last⟩ := outputs _ reading
  exact ⟨reading, keys.trans (by decide +kernel), (last "A").trans (by decide +kernel)⟩

end ScriptRunner
