namespace ScriptRunner.Text

theorem span_iff (p : Char → Bool) (s a b : List Char) :
    (s.takeWhile p = a ∧ s.dropWhile p = b) ↔
      s = a ++ b ∧ (∀ c ∈ a, p c = true) ∧ ∀ c ∈ b.head?, ¬ p c = true := by
  constructor
  · rintro ⟨rfl, rfl⟩
    refine ⟨List.takeWhile_append_dropWhile.symm, fun c hc => List.all_eq_true.1 List.all_takeWhile c hc, ?_⟩
    intro c hc
    have stops := List.head?_dropWhile_not p s
    rw [Option.mem_def.1 hc] at stops
    simpa using stops
  · rintro ⟨rfl, inside, ends⟩
    rw [List.takeWhile_append_of_pos inside, List.dropWhile_append_of_pos inside]
    cases b with
    | nil => simp
    | cons c b =>
      have stops := ends c rfl
      simp [List.takeWhile_cons_of_neg stops, List.dropWhile_cons_of_neg stops]

theorem forall_bne_iff {d : Char} {s : List Char} : (∀ c ∈ s, (c != d) = true) ↔ d ∉ s := by
  simp only [bne_iff_ne]
  constructor
  · exact fun differs member => differs d member rfl
  · exact fun absent c member same => absent (same ▸ member)

theorem not_mem_takeWhile_bne (d : Char) (s : List Char) : d ∉ s.takeWhile (· != d) :=
  forall_bne_iff.1 fun c member => List.all_eq_true.1 List.all_takeWhile c member

theorem span_append {p : Char → Bool} {u : List Char} (ends : ∀ c ∈ u.head?, ¬ p c = true) (s : List Char) :
    (s ++ u).takeWhile p = s.takeWhile p ∧ (s ++ u).dropWhile p = s.dropWhile p ++ u := by
  obtain ⟨whole, inside, stops⟩ := (span_iff p s _ _).1 ⟨rfl, rfl⟩
  refine (span_iff p (s ++ u) _ _).2 ⟨?_, inside, ?_⟩
  · rw [← List.append_assoc, ← whole]
  · cases dropped : s.dropWhile p with
    | nil => exact ends
    | cons c rest =>
      rw [dropped] at stops
      exact stops

end ScriptRunner.Text
