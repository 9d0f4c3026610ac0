import ScriptRunner.Driver
import ScriptRunner.Proofs.Marker.Lines

namespace ScriptRunner

namespace Marker

namespace Dangling

variable {s key : List Char}

theorem getLast? (h : Dangling s key) : s.getLast? = some '=' := by
  cases h
  simp

theorem assignment?_quote (h : Dangling s key) {q : Char} (quote : Quote q) : assignment? (s ++ [q]) = none := by
  have empty : value? [q] = none := by
    simp [value?, (isQuote_iff q).2 quote, quoted?]
  obtain ⟨marker, apart, gaps, named, letters⟩ := h
  simp only [List.append_assoc, List.singleton_append]
  rw [assignment?_word marker apart gaps, keyAndValue?_key named letters, empty, Option.map_none]
  intro c first
  obtain ⟨k, key, rfl⟩ := List.exists_cons_of_ne_nil named
  have same : k = c := by simpa using first
  exact (same ▸ letters k List.mem_cons_self).not_gapChar

theorem colons (h : Dangling s key) : ∃ r, s = ':' :: ':' :: r ∧ ':' ∉ r := by
  obtain ⟨marker, -, gaps, -, letters⟩ := h
  have gap : ':' ∉ _ := fun member => absurd (gaps ':' member) (by simp [GapChar])
  have letter : ':' ∉ key := fun member => absurd (letters ':' member) (by unfold KeyChar; decide)
  simp only [words_eq, List.mem_cons, List.not_mem_nil, or_false] at marker
  rcases marker with rfl | rfl
  · exact ⟨_, rfl, by simpa using ⟨gap, letter⟩⟩
  · exact ⟨_, rfl, by simpa using ⟨gap, letter⟩⟩

end Dangling

theorem colons?_eq_none_of_not_mem {s : List Char} (absent : ':' ∉ s) : colons? s = none := by
  induction s with
  | nil => rfl
  | cons c s ih =>
    rw [colons?_cons fun r colon _ => absent (by simp [colon])]
    exact ih fun later => absent (List.mem_cons_of_mem c later)

theorem pairs_append_of_not_mem {p : List Char} (absent : ':' ∉ p) (s : List Char) : pairs (p ++ s) = pairs s := by
  induction p with
  | nil => rfl
  | cons c p ih =>
    rw [List.cons_append, pairs_cons fun r colon _ => absent (by simp [colon])]
    exact ih fun later => absent (List.mem_cons_of_mem c later)

theorem boundary_quote {q : Char} (quote : Quote q) {s : List Char} (absent : q ∉ s) : Boundary s [q] where
  edge := by simpa [EdgeChar] using Or.inr quote
  unclosed p member _ := by
    have differs : q ≠ p := fun same => absent (same ▸ member)
    have line : q ≠ '\n' := by rcases quote with rfl | rfl <;> decide
    simp [quoted?, (isBodyChar_iff p q).2 ⟨differs, line⟩]

theorem Dangling.pairs_quote {s t key : List Char} {q : Char} (h : Dangling t key) (quote : Quote q)
    (next : colons? (s ++ [q]) = some (t ++ [q])) : pairs (s ++ [q]) = [] := by
  obtain ⟨r, rfl, plain⟩ := h.colons
  have none : q ≠ ':' := by rcases quote with rfl | rfl <;> decide
  rw [pairs_of_resume next (h.assignment?_quote quote)]
  exact pairs_of_no_colons (colons?_eq_none_of_not_mem (by simp [plain, none.symm]))

/-- A closing quote adds nothing. It takes away the last pair, if that has an empty value which the quote opens anew. -/
theorem pairs_concat_quote {q : Char} (quote : Quote q) {s : List Char} (absent : q ∉ s) :
    pairs (s ++ [q]) = pairs s ∨
      ∃ marker key, marker <:+ s ∧ Dangling marker key ∧ pairs s = pairs (s ++ [q]) ++ [⟨key, []⟩] := by
  fun_induction pairs s with
  | case1 s stop =>
    left
    have alone : ':' ∉ [q] := by rcases quote with rfl | rfl <;> decide
    rw [pairs_append_of_stop (boundary_quote quote absent) (step_eq_stop_iff.1 stop)]
    exact pairs_of_no_colons (colons?_eq_none_of_not_mem alone)
  | case2 s p rest found _ ih =>
    have edge := boundary_quote quote absent
    obtain ⟨t, next, here⟩ := step_eq_found_iff.1 found
    obtain ⟨-, -, behind⟩ := colons?_spec next
    by_cases open_ : ∃ key, Dangling t key
    · obtain ⟨key, dangling⟩ := open_
      obtain ⟨rfl, rfl⟩ := here.unique dangling.assignmentAt
      refine .inr ⟨t, key, behind, dangling, ?_⟩
      rw [dangling.pairs_quote quote (colons?_of_boundary edge next), pairs_of_no_colons rfl]
      rfl
    · have later : rest <:+ s := here.suffix.trans behind
      rw [pairs_append_of_found edge next here fun key dangling => absurd ⟨key, dangling⟩ open_]
      rcases ih fun member => absent (later.subset member) with same | ⟨marker, key, ends, dangling, last⟩
      · exact .inl (congrArg (p :: ·) same)
      · exact .inr ⟨marker, key, ends.trans later, dangling, congrArg (p :: ·) last⟩
  | case3 s rest resume _ ih =>
    obtain ⟨next, nothing⟩ := step_eq_resume_iff.1 resume
    obtain ⟨-, -, behind⟩ := colons?_spec next
    have later : rest <:+ s := (List.suffix_append [':', ':'] rest).trans behind
    rw [pairs_append_of_resume (boundary_quote quote absent) next nothing]
    rcases ih fun member => absent (later.subset member) with same | ⟨marker, key, ends, dangling, last⟩
    · exact .inl same
    · exact .inr ⟨marker, key, ends.trans later, dangling, last⟩

end Marker

open Marker (pairs Dangling Quote)

/-- When an interactive run hands back nothing, a command that echoes a text in quotes gives the outputs of what it
prints. Only where the text ends with a marker right behind its equals sign can the last of them be missing, which is
empty. -/
theorem Driver.uiOutputs_echo {q : Char} {s text : String} (quote : Quote q) (absent : q ∉ s.toList)
    (blank : Text.blank text = true) :
    let command := "echo " ++ String.singleton q ++ s ++ String.singleton q
    uiOutputs command text = Outputs.parse (s ++ "\n") ∨
      ∃ marker key, marker <:+ s.toList ∧ Dangling marker key ∧
        Outputs.parse (s ++ "\n") = (uiOutputs command text).insert (String.ofList key) "" := by
  intro command
  have fallback : uiOutputs command text = Outputs.parse command := by simp [uiOutputs, blank]
  have plain : ':' ∉ "echo ".toList ++ [q] := by rcases quote with rfl | rfl <;> decide
  have shell : pairs command.toList = pairs (s.toList ++ [q]) := by
    rw [← Marker.pairs_append_of_not_mem plain (s.toList ++ [q])]
    simp [command]
  have printed : pairs (s ++ "\n").toList = pairs s.toList := by
    have lines := Marker.pairs_append_newline s.toList []
    rw [Marker.pairs_of_no_colons (s := []) rfl, List.append_nil] at lines
    simpa using lines
  rw [fallback]
  simp only [Outputs.parse, shell, printed]
  rcases Marker.pairs_concat_quote quote absent with same | ⟨marker, key, ends, dangling, last⟩
  · exact .inl (by rw [same])
  · refine .inr ⟨marker, key, ends, dangling, ?_⟩
    rw [last, List.map_append]
    exact Bindings.ofPairs_concat _ _

/-- An empty value before other text, and a quote of the other kind that stays open. -/
theorem Driver.uiOutputs_echo_open_quote :
    let s := "::set-output A=;::set-output K='v"
    uiOutputs ("echo " ++ String.singleton '"' ++ s ++ String.singleton '"') " \n" = Outputs.parse (s ++ "\n") := by
  intro s
  rcases uiOutputs_echo (q := '"') (s := s) (.inl rfl) (by decide) (by decide : Text.blank " \n" = true) with
    same | ⟨marker, key, ⟨before, whole⟩, dangling, -⟩
  · exact same
  · have last : s.toList.getLast? = some '=' := by
      rw [← whole, List.getLast?_append, dangling.getLast?]
      rfl
    exact absurd last (by decide)

/-- The closing quote of the command hides an empty value at the end of the text. -/
theorem echo_of_empty_value :
    ¬ ∀ (q : Char) (s : String), Quote q → (∀ c ∈ s.toList, c ∉ [q, '\n', '$', '\x60', '\\']) →
      Outputs.parse ("echo " ++ String.singleton q ++ s ++ String.singleton q) = Outputs.parse (s ++ "\n") := by
  intro agrees
  have same := congrArg Bindings.entries (agrees '"' "::set-output K=" (.inl rfl) (by simp))
  revert same
  decide +kernel

end ScriptRunner
