import ScriptRunner.Proofs.Marker.Scan

namespace ScriptRunner.Marker

def EdgeChar (c : Char) : Prop := c = '\n' ∨ Quote c

theorem EdgeChar.stops {c : Char} (h : EdgeChar c) :
    ¬ isGap c = true ∧ ¬ isKeyChar c = true ∧ ¬ isBareChar c = true ∧ c ≠ '=' ∧ c ≠ ':' := by
  rcases h with rfl | rfl | rfl <;> decide

theorem EdgeChar.not_mem_word {c : Char} (h : EdgeChar c) {w : List Char} (marker : w ∈ words) : c ∉ w := by
  simp only [words_eq, List.mem_cons, List.not_mem_nil, or_false] at marker
  rcases h with rfl | rfl | rfl <;> rcases marker with rfl | rfl <;> decide

/-- What follows the text `s` is set apart from it: it goes on with nothing that `s` has begun. -/
structure Boundary (s u : List Char) : Prop where
  edge : ∀ c ∈ u.head?, EdgeChar c
  unclosed : ∀ q ∈ s, Quote q → quoted? q u = none

theorem Boundary.of_suffix {s t u : List Char} (h : Boundary s u) (behind : t <:+ s) : Boundary t u :=
  ⟨h.edge, fun q member => h.unclosed q (behind.subset member)⟩

inductive Dangling : List Char → List Char → Prop where
  | intro {word gap key : List Char} (marker : word ∈ words) (apart : gap ≠ []) (gaps : ∀ c ∈ gap, GapChar c)
      (named : key ≠ []) (letters : ∀ c ∈ key, KeyChar c) : Dangling (word ++ (gap ++ (key ++ ['=']))) key

theorem Dangling.assignmentAt {s key : List Char} (h : Dangling s key) : AssignmentAt s ⟨key, []⟩ [] := by
  obtain ⟨marker, apart, gaps, named, letters⟩ := h
  exact .intro marker apart gaps (.intro named letters (@ValueAt.bare [] [] (by simp) (by simp) (by simp)))

theorem quoted?_append {q : Char} {u : List Char} (unclosed : quoted? q u = none) (s : List Char) :
    quoted? q (s ++ u) = (quoted? q s).map (Prod.map id (· ++ u)) := by
  cases dropped : s.dropWhile (isBodyChar q) with
  | nil =>
    obtain ⟨whole, inside, -⟩ := (Text.span_iff (isBodyChar q) s _ _).1 ⟨rfl, dropped⟩
    rw [List.append_nil] at whole
    rw [← whole] at inside
    simp only [quoted?, dropped, List.dropWhile_append_of_pos inside, Option.map_none]
    unfold quoted? at unclosed
    split at unclosed
    · rfl
    · split at unclosed
      · cases unclosed
      · next other => rw [if_neg other]
  | cons c rest =>
    obtain ⟨whole, inside, stops⟩ := (Text.span_iff (isBodyChar q) s _ _).1 ⟨rfl, dropped⟩
    have joined : s ++ u = s.takeWhile (isBodyChar q) ++ c :: (rest ++ u) := by
      rw [← List.cons_append, ← List.append_assoc, ← whole]
    obtain ⟨taken, left⟩ := (Text.span_iff (isBodyChar q) (s ++ u) _ _).2 ⟨joined, inside, stops⟩
    simp only [quoted?, dropped, taken, left]
    split <;> rfl

theorem value?_append {s u : List Char} (h : Boundary s u) (full : s = [] → value? u = some ([], u)) :
    value? (s ++ u) = (value? s).map (Prod.map id (· ++ u)) := by
  cases s with
  | nil => simpa [value?] using full rfl
  | cons c s =>
    by_cases quote : isQuote c = true
    · have unclosed := h.unclosed c List.mem_cons_self ((isQuote_iff c).1 quote)
      simpa [value?, quote] using quoted?_append unclosed s
    · obtain ⟨taken, left⟩ := Text.span_append (fun d first => (h.edge d first).stops.2.2.1) (c :: s)
      simp only [List.cons_append] at taken left
      simp [value?, quote, taken, left]

theorem keyAndValue?_append {s u : List Char} (h : Boundary s u)
    (full : ∀ key, s = key ++ ['='] → key ≠ [] → (∀ c ∈ key, KeyChar c) → value? u = some ([], u)) :
    keyAndValue? (s ++ u) = (keyAndValue? s).map (Prod.map id (· ++ u)) := by
  obtain ⟨taken, left⟩ := Text.span_append (fun d first => (h.edge d first).stops.2.1) s
  obtain ⟨whole, letters, -⟩ := (Text.span_iff isKeyChar s _ _).1 ⟨rfl, rfl⟩
  unfold keyAndValue?
  rw [taken, left]
  cases named : s.takeWhile isKeyChar with
  | nil => rfl
  | cons k key =>
    cases follows : s.dropWhile isKeyChar with
    | nil =>
      cases u with
      | nil => rfl
      | cons c u =>
        have other := (h.edge c rfl).stops.2.2.2.1
        simp [other]
    | cons c text =>
      by_cases equals : c = '='
      · subst equals
        rw [named, follows] at whole
        rw [named] at letters
        simp only [isKeyChar_iff] at letters
        have behind : text <:+ s := ⟨k :: key ++ ['='], by simp [whole]⟩
        have value := value?_append (h.of_suffix behind) fun none =>
          full (k :: key) (by rw [whole, none]) (List.cons_ne_nil k key) letters
        simp only [List.cons_append, value, Option.map_map]
        rfl
      · simp [equals]

theorem eq_append_of_edge {w s u r : List Char} (edge : ∀ c ∈ u.head?, c ∉ w) (joined : s ++ u = w ++ r) :
    ∃ rest, s = w ++ rest ∧ r = rest ++ u := by
  rcases List.append_eq_append_iff.1 joined with ⟨more, word, cut⟩ | ⟨rest, start, follows⟩
  · cases more with
    | nil => exact ⟨[], by simpa using word.symm, by simpa using cut.symm⟩
    | cons c more =>
      have first : c ∈ u.head? := by simp [cut]
      exact absurd (by simp [word]) (edge c first)
  · exact ⟨rest, start, follows⟩

theorem afterWord?_append {s u : List Char} (h : Boundary s u) :
    afterWord? (s ++ u) = (afterWord? s).map (· ++ u) := by
  apply Option.ext
  intro r
  simp only [Option.map_eq_some_iff, afterWord?_eq_some_iff]
  constructor
  · rintro ⟨w, marker, joined⟩
    obtain ⟨rest, start, follows⟩ := eq_append_of_edge (fun c first => (h.edge c first).not_mem_word marker) joined
    exact ⟨rest, ⟨w, marker, start⟩, follows.symm⟩
  · rintro ⟨rest, ⟨w, marker, rfl⟩, rfl⟩
    exact ⟨w, marker, List.append_assoc w rest u⟩

theorem assignment?_append {s u : List Char} (h : Boundary s u)
    (full : ∀ key, Dangling s key → value? u = some ([], u)) :
    assignment? (s ++ u) = (assignment? s).map (Prod.map id (· ++ u)) := by
  unfold assignment?
  rw [afterWord?_append h]
  cases after : afterWord? s with
  | none => rfl
  | some text =>
    obtain ⟨word, marker, whole⟩ := afterWord?_eq_some_iff.1 after
    cases text with
    | nil =>
      cases u with
      | nil => rfl
      | cons c u =>
        have other := (h.edge c rfl).stops.1
        simp [other]
    | cons c rest =>
      by_cases apart : isGap c = true
      · obtain ⟨-, left⟩ := Text.span_append (fun d first => (h.edge d first).stops.1) rest
        obtain ⟨gap, gaps, -⟩ := (Text.span_iff isGap rest _ _).1 ⟨rfl, rfl⟩
        have more : ∀ d ∈ c :: rest.takeWhile isGap, GapChar d := by
          simp only [← isGap_iff]
          simpa [apart] using gaps
        have whole : s = word ++ (c :: rest.takeWhile isGap ++ rest.dropWhile isGap) := by
          rw [List.cons_append, ← gap, whole]
        have behind : rest.dropWhile isGap <:+ s := by
          rw [whole]
          exact (List.suffix_append _ _).trans (List.suffix_append _ _)
        have given := keyAndValue?_append (h.of_suffix behind) fun key ends named letters =>
          full key (by rw [whole, ends]; exact .intro marker (List.cons_ne_nil c _) more named letters)
        simp [apart, left, given]
      · simp [apart]

theorem colons?_cons {c : Char} {s : List Char} (other : ∀ r, c = ':' → s = ':' :: r → False) :
    colons? (c :: s) = colons? s := by
  rw [colons?]
  exact other

theorem colons?_append {s u : List Char} (edge : ∀ c ∈ u.head?, c ≠ ':') :
    colons? (s ++ u) = ((colons? s).map (· ++ u)).or (colons? u) := by
  induction s with
  | nil => rfl
  | cons c s ih =>
    by_cases here : ∃ r, c = ':' ∧ s = ':' :: r
    · obtain ⟨r, rfl, rfl⟩ := here
      rfl
    · have other : ∀ r, c = ':' → s = ':' :: r → False := fun r first second => here ⟨r, first, second⟩
      have joined : ∀ r, c = ':' → s ++ u = ':' :: r → False := by
        intro r first second
        cases s with
        | nil => exact edge ':' (by rw [← List.nil_append u, second]; rfl) rfl
        | cons d s => exact other s first (by rw [(List.cons.inj second).1])
      rw [List.cons_append, colons?_cons joined, colons?_cons other, ih]

theorem pairs_of_no_colons {s : List Char} (nowhere : colons? s = none) : pairs s = [] := by
  rw [pairs]
  split
  · rfl
  · next found => simp [step, nowhere] at found
  · next resume => simp [step, nowhere] at resume

theorem pairs_of_assignment {s t rest : List Char} {p : Pair} (next : colons? s = some t)
    (here : assignment? t = some (p, rest)) : pairs s = p :: pairs rest := by
  rw [pairs]
  split
  · next stop => simp [step, next, here] at stop
  · next found =>
    simp only [step, next, here, Step.found.injEq] at found
    obtain ⟨rfl, rfl⟩ := found
    rfl
  · next resume => simp [step, next, here] at resume

theorem pairs_of_resume {s rest : List Char} (next : colons? s = some (':' :: ':' :: rest))
    (nothing : assignment? (':' :: ':' :: rest) = none) : pairs s = pairs rest := by
  rw [pairs]
  split
  · next stop => simp [step, next, nothing] at stop
  · next found => simp [step, next, nothing] at found
  · next resume =>
    simp only [step, next, nothing, List.drop_succ_cons, List.drop_zero, Step.resume.injEq] at resume
    rw [resume]

theorem pairs_congr {s t : List Char} (same : colons? s = colons? t) : pairs s = pairs t := by
  cases next : colons? t with
  | none => rw [pairs_of_no_colons next, pairs_of_no_colons (same.trans next)]
  | some place =>
    cases read : assignment? place with
    | some found => rw [pairs_of_assignment next read, pairs_of_assignment (same.trans next) read]
    | none =>
      obtain ⟨rest, rfl, -⟩ := colons?_spec next
      rw [pairs_of_resume next read, pairs_of_resume (same.trans next) read]

theorem pairs_cons {c : Char} {s : List Char} (other : ∀ r, c = ':' → s = ':' :: r → False) :
    pairs (c :: s) = pairs s := pairs_congr (colons?_cons other)

section Step

variable {s t u rest : List Char} {p : Pair}

theorem colons?_of_boundary (h : Boundary s u) (next : colons? s = some t) : colons? (s ++ u) = some (t ++ u) := by
  rw [colons?_append fun c first => (h.edge c first).stops.2.2.2.2, next]
  rfl

theorem pairs_append_of_stop (h : Boundary s u) (nowhere : colons? s = none) : pairs (s ++ u) = pairs u := by
  apply pairs_congr
  rw [colons?_append fun c first => (h.edge c first).stops.2.2.2.2, nowhere, Option.map_none, Option.none_or]

theorem pairs_append_of_found (h : Boundary s u) (next : colons? s = some t) (here : AssignmentAt t p rest)
    (full : ∀ key, Dangling t key → value? u = some ([], u)) : pairs (s ++ u) = p :: pairs (rest ++ u) := by
  obtain ⟨-, -, behind⟩ := colons?_spec next
  have read := assignment?_append (h.of_suffix behind) full
  rw [assignment?_eq_some_iff.2 here] at read
  exact pairs_of_assignment (colons?_of_boundary h next) read

theorem pairs_append_of_resume (h : Boundary s u) (next : colons? s = some (':' :: ':' :: rest))
    (nothing : ∀ p r, ¬ AssignmentAt (':' :: ':' :: rest) p r) : pairs (s ++ u) = pairs (rest ++ u) := by
  obtain ⟨-, -, behind⟩ := colons?_spec next
  have read := assignment?_append (h.of_suffix behind) fun key dangling =>
    absurd dangling.assignmentAt (nothing ⟨key, []⟩ [])
  rw [not_assignmentAt_iff.1 nothing] at read
  exact pairs_of_resume (colons?_of_boundary h next) read

end Step

/-- Behind a boundary the scan begins anew. -/
theorem pairs_append {s u : List Char} (h : Boundary s u) (full : value? u = some ([], u)) :
    pairs (s ++ u) = pairs s ++ pairs u := by
  fun_induction pairs s with
  | case1 s stop => exact pairs_append_of_stop h (step_eq_stop_iff.1 stop)
  | case2 s p rest found _ ih =>
    obtain ⟨t, next, here⟩ := step_eq_found_iff.1 found
    obtain ⟨-, -, behind⟩ := colons?_spec next
    rw [pairs_append_of_found h next here fun _ _ => full, ih (h.of_suffix (here.suffix.trans behind))]
    rfl
  | case3 s rest resume _ ih =>
    obtain ⟨next, nothing⟩ := step_eq_resume_iff.1 resume
    obtain ⟨-, -, behind⟩ := colons?_spec next
    rw [pairs_append_of_resume h next nothing]
    exact ih (h.of_suffix ((List.suffix_append [':', ':'] rest).trans behind))

end ScriptRunner.Marker
