import ScriptRunner.Marker
import ScriptRunner.Proofs.Text.Span

namespace ScriptRunner.Marker

def Quote (c : Char) : Prop := c = '"' ∨ c = '\''

def GapChar (c : Char) : Prop := c = ' ' ∨ c = '\t'

def KeyChar (c : Char) : Prop :=
  ('A' ≤ c ∧ c ≤ 'Z') ∨ ('a' ≤ c ∧ c ≤ 'z') ∨ ('0' ≤ c ∧ c ≤ '9') ∨ c = '_'

def BareChar (c : Char) : Prop := Text.isBlank c = false ∧ c ≠ ';' ∧ ¬ Quote c

/-- A value in quotes ends at the same quote, and no line ends in it. A bare value is as long as it can be. -/
inductive ValueAt : List Char → List Char → List Char → Prop where
  | quoted {q : Char} {body rest : List Char} (quote : Quote q) (inside : ∀ c ∈ body, c ≠ q ∧ c ≠ '\n') :
      ValueAt (q :: (body ++ q :: rest)) body rest
  | bare {value rest : List Char} (unquoted : ∀ c ∈ (value ++ rest).head?, ¬ Quote c)
      (inside : ∀ c ∈ value, BareChar c) (ends : ∀ c ∈ rest.head?, ¬ BareChar c) :
      ValueAt (value ++ rest) value rest

inductive BindingAt : List Char → Pair → List Char → Prop where
  | intro {key text value rest : List Char} (named : key ≠ []) (letters : ∀ c ∈ key, KeyChar c)
      (given : ValueAt text value rest) : BindingAt (key ++ '=' :: text) ⟨key, value⟩ rest

inductive AssignmentAt : List Char → Pair → List Char → Prop where
  | intro {word gap text rest : List Char} {p : Pair} (marker : word ∈ words) (apart : gap ≠ [])
      (gaps : ∀ c ∈ gap, GapChar c) (given : BindingAt text p rest) : AssignmentAt (word ++ (gap ++ text)) p rest

theorem isQuote_iff (c : Char) : isQuote c = true ↔ Quote c := by
  simp [isQuote, Quote]

theorem isGap_iff (c : Char) : isGap c = true ↔ GapChar c := by
  simp [isGap, GapChar]

theorem isBareChar_iff (c : Char) : isBareChar c = true ↔ BareChar c := by
  simp [isBareChar, BareChar, ← isQuote_iff, and_assoc]

theorem isBodyChar_iff (q c : Char) : isBodyChar q c = true ↔ c ≠ q ∧ c ≠ '\n' := by
  simp [isBodyChar]

theorem isKeyChar_iff (c : Char) : isKeyChar c = true ↔ KeyChar c := by
  have upper : c.isUpper = true ↔ 'A' ≤ c ∧ c ≤ 'Z' := decide_eq_true_iff
  have lower : c.isLower = true ↔ 'a' ≤ c ∧ c ≤ 'z' :=
    Bool.and_eq_true_iff.trans (and_congr decide_eq_true_iff decide_eq_true_iff)
  have digit : c.isDigit = true ↔ '0' ≤ c ∧ c ≤ '9' :=
    Bool.and_eq_true_iff.trans (and_congr decide_eq_true_iff decide_eq_true_iff)
  show (c.isUpper || c.isLower || c.isDigit || c == '_') = true ↔ KeyChar c
  simp only [Bool.or_eq_true, beq_iff_eq, upper, lower, digit, KeyChar, or_assoc]

instance : DecidablePred Quote := fun c => decidable_of_iff _ (isQuote_iff c)

instance : DecidablePred GapChar := fun c => decidable_of_iff _ (isGap_iff c)

instance : DecidablePred BareChar := fun c => decidable_of_iff _ (isBareChar_iff c)

instance : DecidablePred KeyChar := fun c => decidable_of_iff _ (isKeyChar_iff c)

theorem quoted?_eq_some_iff {q : Char} {s body rest : List Char} :
    quoted? q s = some (body, rest) ↔ s = body ++ q :: rest ∧ ∀ c ∈ body, c ≠ q ∧ c ≠ '\n' := by
  simp only [← isBodyChar_iff]
  constructor
  · intro h
    unfold quoted? at h
    split at h
    · cases h
    · next c r dropped =>
      split at h
      · next closed =>
        cases h
        subst closed
        obtain ⟨whole, inside, -⟩ := (Text.span_iff (isBodyChar c) s _ _).1 ⟨rfl, dropped⟩
        exact ⟨whole, inside⟩
      · cases h
  · rintro ⟨whole, inside⟩
    obtain ⟨taken, dropped⟩ := (Text.span_iff (isBodyChar q) s body (q :: rest)).2
      ⟨whole, inside, by simp [isBodyChar]⟩
    simp [quoted?, taken, dropped]

theorem value?_eq_some_iff {s value rest : List Char} :
    value? s = some (value, rest) ↔ ValueAt s value rest := by
  constructor
  · intro h
    unfold value? at h
    split at h
    · cases h
      exact @ValueAt.bare [] [] (by simp) (by simp) (by simp)
    · next c r =>
      split at h
      · next quote =>
        obtain ⟨rfl, inside⟩ := quoted?_eq_some_iff.1 h
        exact .quoted ((isQuote_iff c).1 quote) inside
      · next unquoted =>
        cases h
        obtain ⟨whole, inside, ends⟩ := (Text.span_iff isBareChar (c :: r) _ _).1 ⟨rfl, rfl⟩
        simp only [isBareChar_iff] at inside ends
        rw [isQuote_iff] at unquoted
        have given := ValueAt.bare (by rw [← whole]; simpa using unquoted) inside ends
        rwa [← whole] at given
  · rintro (⟨quote, inside⟩ | ⟨unquoted, inside, ends⟩)
    · simp only [value?, (isQuote_iff _).2 quote, if_true]
      exact quoted?_eq_some_iff.2 ⟨rfl, inside⟩
    · simp only [← isBareChar_iff] at inside ends
      obtain ⟨taken, dropped⟩ := (Text.span_iff isBareChar (value ++ rest) value rest).2 ⟨rfl, inside, ends⟩
      unfold value?
      split
      · next empty => simp_all
      · next c r start =>
        have plain : ¬ isQuote c = true := fun quote => unquoted c (by simp [start]) ((isQuote_iff c).1 quote)
        rw [if_neg plain, taken, dropped]

theorem keyAndValue?_key {key : List Char} (named : key ≠ []) (letters : ∀ c ∈ key, KeyChar c) (text : List Char) :
    keyAndValue? (key ++ '=' :: text) = (value? text).map fun (value, rest) => (⟨key, value⟩, rest) := by
  obtain ⟨k, key, rfl⟩ := List.exists_cons_of_ne_nil named
  simp only [← isKeyChar_iff] at letters
  obtain ⟨taken, dropped⟩ := (Text.span_iff isKeyChar (k :: key ++ '=' :: text) (k :: key) ('=' :: text)).2
    ⟨rfl, letters, by simp; decide⟩
  simp only [keyAndValue?, taken, dropped]

theorem keyAndValue?_eq_some_iff {s rest : List Char} {p : Pair} :
    keyAndValue? s = some (p, rest) ↔ BindingAt s p rest := by
  constructor
  · intro h
    unfold keyAndValue? at h
    split at h
    · next k key r taken dropped =>
      obtain ⟨⟨value, tail⟩, given, same⟩ := Option.map_eq_some_iff.1 h
      cases same
      obtain ⟨rfl, letters, -⟩ := (Text.span_iff isKeyChar s _ _).1 ⟨taken, dropped⟩
      simp only [isKeyChar_iff] at letters
      exact .intro (List.cons_ne_nil k key) letters (value?_eq_some_iff.1 given)
    · cases h
  · rintro ⟨named, letters, given⟩
    rw [keyAndValue?_key named letters, value?_eq_some_iff.2 given, Option.map_some]

theorem words_eq :
    words = [[':', ':', 's', 'e', 't', '-', 'o', 'u', 't', 'p', 'u', 't'],
      [':', ':', 's', 'e', 't', '-', 't', 'e', 'a', 'm', 's', 'f', 'x', '-', 'e', 'n', 'v']] := by
  decide

theorem afterWord?_eq_some_iff {s rest : List Char} : afterWord? s = some rest ↔ ∃ w ∈ words, s = w ++ rest := by
  constructor
  · intro h
    obtain ⟨w, found, rfl⟩ := Option.map_eq_some_iff.1 h
    have starts : w.isPrefixOf s = true := by simpa using List.find?_some found
    obtain ⟨tail, rfl⟩ := List.isPrefixOf_iff_prefix.1 starts
    exact ⟨w, List.mem_of_find?_eq_some found, by rw [List.drop_left]⟩
  · rintro ⟨w, marker, rfl⟩
    unfold afterWord?
    simp only [words_eq, List.mem_cons, List.not_mem_nil, or_false] at marker ⊢
    rcases marker with rfl | rfl <;> rfl

theorem BindingAt.head {s rest : List Char} {p : Pair} (h : BindingAt s p rest) :
    ∀ c ∈ s.head?, KeyChar c := by
  obtain ⟨named, letters, -⟩ := h
  obtain ⟨k, key, rfl⟩ := List.exists_cons_of_ne_nil named
  simpa using letters k

theorem KeyChar.not_gapChar {c : Char} (h : KeyChar c) : ¬ GapChar c := by
  rintro (rfl | rfl) <;> revert h <;> unfold KeyChar <;> decide

theorem assignment?_word {word gap text : List Char} (marker : word ∈ words) (apart : gap ≠ [])
    (gaps : ∀ c ∈ gap, GapChar c) (boundary : ∀ c ∈ text.head?, ¬ GapChar c) :
    assignment? (word ++ (gap ++ text)) = keyAndValue? text := by
  obtain ⟨g, gap, rfl⟩ := List.exists_cons_of_ne_nil apart
  simp only [← isGap_iff] at gaps boundary
  have after : afterWord? (word ++ (g :: gap ++ text)) = some (g :: (gap ++ text)) :=
    afterWord?_eq_some_iff.2 ⟨word, marker, rfl⟩
  have dropped := ((Text.span_iff isGap (gap ++ text) gap text).2 ⟨rfl, fun c hc => gaps c (by simp [hc]), boundary⟩).2
  simp only [assignment?, after, gaps g List.mem_cons_self, dropped, if_true]

theorem assignment?_eq_some_iff {s rest : List Char} {p : Pair} :
    assignment? s = some (p, rest) ↔ AssignmentAt s p rest := by
  constructor
  · intro h
    unfold assignment? at h
    split at h
    · next c r after =>
      obtain ⟨word, marker, rfl⟩ := afterWord?_eq_some_iff.1 after
      split at h
      · next apart =>
        obtain ⟨whole, gaps, -⟩ := (Text.span_iff isGap r _ _).1 ⟨rfl, rfl⟩
        have given := keyAndValue?_eq_some_iff.1 h
        have more : ∀ d ∈ c :: r.takeWhile isGap, GapChar d := by
          simp only [← isGap_iff]
          simpa [apart] using gaps
        rw [whole]
        exact .intro marker (List.cons_ne_nil c _) more given
      · cases h
    · cases h
  · rintro ⟨marker, apart, gaps, given⟩
    rw [assignment?_word marker apart gaps fun c first => (given.head c first).not_gapChar]
    exact keyAndValue?_eq_some_iff.2 given

theorem not_assignmentAt_iff {s : List Char} : (∀ p rest, ¬ AssignmentAt s p rest) ↔ assignment? s = none := by
  simp only [← assignment?_eq_some_iff, Option.eq_none_iff_forall_ne_some, Prod.forall]

theorem ValueAt.suffix {s value rest : List Char} (h : ValueAt s value rest) : rest <:+ s := by
  cases h with
  | @quoted q => exact ⟨q :: (value ++ [q]), by simp⟩
  | bare => exact List.suffix_append _ _

theorem BindingAt.suffix {s rest : List Char} {p : Pair} (h : BindingAt s p rest) : rest <:+ s := by
  obtain ⟨-, -, given⟩ := h
  exact (given.suffix.trans (List.suffix_cons _ _)).trans (List.suffix_append _ _)

namespace AssignmentAt

variable {s rest rest' : List Char} {p p' : Pair}

theorem unique (h : AssignmentAt s p rest) (h' : AssignmentAt s p' rest') : p = p' ∧ rest = rest' := by
  have same := (assignment?_eq_some_iff.2 h).symm.trans (assignment?_eq_some_iff.2 h')
  exact Prod.mk.inj (Option.some.inj same)

theorem suffix (h : AssignmentAt s p rest) : rest <:+ s := by
  obtain ⟨-, -, -, given⟩ := h
  exact (given.suffix.trans (List.suffix_append _ _)).trans (List.suffix_append _ _)

theorem starts (h : AssignmentAt s p rest) : ∃ w ∈ words, w <+: s := by
  obtain ⟨marker, -, -, -⟩ := h
  exact ⟨_, marker, List.prefix_append _ _⟩

theorem letters (h : AssignmentAt s p rest) : ∃ r, s = ':' :: ':' :: 's' :: r := by
  obtain ⟨marker, -, -, -⟩ := h
  simp only [words_eq, List.mem_cons, List.not_mem_nil, or_false] at marker
  rcases marker with rfl | rfl <;> exact ⟨_, rfl⟩

theorem colons (h : AssignmentAt s p rest) : ∃ r, s = ':' :: ':' :: r := by
  obtain ⟨r, rfl⟩ := h.letters
  exact ⟨_, rfl⟩

end AssignmentAt

theorem not_assignmentAt_of_no_colons {c : Char} {s : List Char} (other : ∀ r, c = ':' → s = ':' :: r → False)
    (p : Pair) (rest : List Char) : ¬ AssignmentAt (c :: s) p rest := by
  intro here
  obtain ⟨r, start⟩ := here.colons
  obtain ⟨first, second⟩ := List.cons.inj start
  exact other r first second

end ScriptRunner.Marker
