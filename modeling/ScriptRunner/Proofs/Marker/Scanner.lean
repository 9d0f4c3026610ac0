import ScriptRunner.Proofs.Marker.Boundary
import ScriptRunner.Proofs.Text.Slice

namespace ScriptRunner.Marker

open Text (from? upTo? find? startsWith)
open String (utf8Len utf8Len_cons utf8Len_append)

/-- Where the scanner is: its position, the byte of the two colons that it tries, and the token that it has just
read. -/
inductive Place where
  | seeking (pos : Nat)
  | colons (start : Nat)
  | behindWord (start pos : Nat)
  | behindGap (start pos : Nat) (gap : List Char)
  | behindKey (start pos : Nat) (key : List Char)
  | behindEquals (start pos : Nat) (key : List Char)
  | found (pos : Nat) (p : Pair)
  | finished (pos : Nat)
  deriving DecidableEq

namespace Place

def pos : Place → Nat
  | seeking pos | colons pos | behindWord _ pos | behindGap _ pos _ | behindKey _ pos _ | behindEquals _ pos _
  | found pos _ | finished pos => pos

def handed : Place → List Pair
  | found _ p => [p]
  | _ => []

end Place

def run? (p : Char → Bool) (text : List Char) (pos : Nat) : Option (List Char × Nat) := do
  let rest ← from? text pos
  let size := (find? (startsWith fun c => !p c) rest).getD (utf8Len rest)
  let taken ← upTo? rest size
  return (taken, pos + size)

def quotedFrom? (q : Char) (rest : List Char) (pos : Nat) : Option (Option (List Char × Nat)) := do
  let body ← from? rest 1
  match find? (startsWith fun c => c == q || c == '\n') body with
  | none => return none
  | some size =>
    let behind ← from? body size
    if startsWith (· == q) behind then
      let value ← upTo? body size
      return some (value, pos + 1 + size + 1)
    else return none

def valueFrom? (text : List Char) (pos : Nat) : Option (Option (List Char × Nat)) := do
  let rest ← from? text pos
  match rest.head?.filter isQuote with
  | some q => quotedFrom? q rest pos
  | none => return some (← run? isBareChar text pos)

def Place.next? (text : List Char) : Place → Option Place
  | seeking pos => do
    let rest ← from? text pos
    match find? ([':', ':'].isPrefixOf ·) rest with
    | none => return finished pos
    | some offset => return colons (pos + offset)
  | colons start => do
    let rest ← from? text start
    match words.find? (·.isPrefixOf rest) with
    | none => return seeking (start + 2)
    | some word => return behindWord start (start + utf8Len word)
  | behindWord start pos => do
    let (gap, pos) ← run? isGap text pos
    return behindGap start pos gap
  | behindGap start pos gap =>
    if gap = [] then some (seeking (start + 2))
    else do
      let (key, pos) ← run? isKeyChar text pos
      return behindKey start pos key
  | behindKey start pos key =>
    if key = [] then some (seeking (start + 2))
    else do
      let rest ← from? text pos
      if rest.head? = some '=' then return behindEquals start (pos + 1) key else return seeking (start + 2)
  | behindEquals start pos key => do
    match ← valueFrom? text pos with
    | none => return seeking (start + 2)
    | some (value, pos) => return found pos ⟨key, value⟩
  | found pos _ => some (seeking pos)
  | finished pos => some (seeking pos)

/-- The place after so many steps from the start of the text, and the pairs handed over on the way. -/
def scan? (text : List Char) : Nat → Option (Place × List Pair)
  | 0 => some (.seeking 0, [])
  | n + 1 => do
    let (c, ps) ← scan? text n
    let d ← c.next? text
    return (d, ps ++ d.handed)

section Tokens

variable {text rest : List Char} {pos : Nat}

theorem run?_eq (p : Char → Bool) (here : from? text pos = some rest) :
    run? p text pos = some (rest.takeWhile p, pos + utf8Len (rest.takeWhile p)) := by
  have size : (find? (startsWith fun c => !p c) rest).getD (utf8Len rest) = utf8Len (rest.takeWhile p) := by
    rw [Text.find?_startsWith fun _ => rfl]
    have whole := List.takeWhile_append_dropWhile (p := p) (l := rest)
    split
    · next all =>
      rw [all, List.append_nil] at whole
      rw [whole, Option.getD_none]
    · rfl
  have taken : upTo? rest (utf8Len (rest.takeWhile p)) = some (rest.takeWhile p) := by
    have cut := Text.upTo?_append (rest.takeWhile p) (rest.dropWhile p)
    rwa [List.takeWhile_append_dropWhile] at cut
  simp [run?, here, size, taken]

theorem from?_run (p : Char → Bool) (here : from? text pos = some rest) :
    from? text (pos + utf8Len (rest.takeWhile p)) = some (rest.dropWhile p) := by
  rw [← List.takeWhile_append_dropWhile (p := p) (l := rest)] at here
  exact Text.from?_add here

theorem utf8Size_of_isQuote {q : Char} (quote : isQuote q = true) : q.utf8Size = 1 := by
  rcases (isQuote_iff q).1 quote with rfl | rfl <;> decide

theorem from?_quote {q : Char} (quote : isQuote q = true) (body : List Char) : from? (q :: body) 1 = some body := by
  have behind := Text.from?_append [q] body
  rwa [utf8Len_cons, utf8Size_of_isQuote quote] at behind

theorem quotedFrom?_eq {q : Char} (quote : isQuote q = true) (body : List Char) (pos : Nat) :
    quotedFrom? q (q :: body) pos =
      some ((quoted? q body).map fun (value, _) => (value, pos + 1 + utf8Len value + 1)) := by
  have other : ∀ c, (c == q || c == '\n') = !isBodyChar q c := by
    intro c
    cases first : c == q <;> cases second : c == '\n' <;> simp [isBodyChar, bne, first, second]
  have whole := List.takeWhile_append_dropWhile (p := isBodyChar q) (l := body)
  simp only [quotedFrom?, from?_quote quote, Text.find?_startsWith other, Option.bind_eq_bind, Option.bind_some]
  unfold quoted?
  cases closing : body.dropWhile (isBodyChar q) with
  | nil => rfl
  | cons c after =>
    rw [closing] at whole
    have behind := Text.from?_append (body.takeWhile (isBodyChar q)) (c :: after)
    have value := Text.upTo?_append (body.takeWhile (isBodyChar q)) (c :: after)
    rw [whole] at behind value
    by_cases same : c = q <;> simp [behind, value, startsWith, same]

theorem valueFrom?_eq (here : from? text pos = some rest) :
    valueFrom? text pos =
      some ((value? rest).map fun (value, after) => (value, pos + (utf8Len rest - utf8Len after))) := by
  have bare (unquoted : rest.head?.filter isQuote = none) :
      valueFrom? text pos = some (some (rest.takeWhile isBareChar, pos + utf8Len (rest.takeWhile isBareChar))) := by
    simp [valueFrom?, here, unquoted, run?_eq isBareChar here]
  cases rest with
  | nil => simpa [value?] using bare rfl
  | cons c rest =>
    cases quote : isQuote c with
    | true =>
      have first : (c :: rest).head?.filter isQuote = some c := if_pos quote
      have quoted : valueFrom? text pos = quotedFrom? c (c :: rest) pos := by
        simp only [valueFrom?, here, Option.bind_eq_bind, Option.bind_some, first]
      rw [quoted, quotedFrom?_eq quote, value?, if_pos quote]
      cases read : quoted? c rest with
      | none => rfl
      | some found =>
        obtain ⟨value, after⟩ := found
        obtain ⟨rfl, -⟩ := quoted?_eq_some_iff.1 read
        have size : utf8Len (c :: (value ++ c :: after)) - utf8Len after = 1 + utf8Len value + 1 := by
          simp only [utf8Len_cons, utf8Len_append, utf8Size_of_isQuote quote]
          omega
        simp only [Option.map_some, size, Nat.add_assoc]
    | false =>
      have unquoted : (c :: rest).head?.filter isQuote = none := if_neg (by simp [quote])
      have whole := congrArg utf8Len (List.takeWhile_append_dropWhile (p := isBareChar) (l := c :: rest))
      rw [utf8Len_append] at whole
      have size : utf8Len (c :: rest) - utf8Len ((c :: rest).dropWhile isBareChar) =
          utf8Len ((c :: rest).takeWhile isBareChar) := by omega
      rw [bare unquoted, value?, if_neg (by simp [quote]), Option.map_some]
      simp only [size]

theorem find?_colons (s : List Char) :
    find? ([':', ':'].isPrefixOf ·) s = (colons? s).map fun t => utf8Len s - utf8Len t := by
  induction s with
  | nil => rfl
  | cons c s ih =>
    by_cases here : ∃ r, c = ':' ∧ s = ':' :: r
    · obtain ⟨r, rfl, rfl⟩ := here
      simp [find?, colons?]
    · have other : ∀ r, c = ':' → s = ':' :: r → False := fun r first second => here ⟨r, first, second⟩
      have apart : ¬ [':', ':'].isPrefixOf (c :: s) = true := by
        intro starts
        obtain ⟨r, same⟩ := List.isPrefixOf_iff_prefix.1 starts
        obtain ⟨rfl, rfl⟩ := List.cons.inj same
        exact other r rfl rfl
      rw [find?, if_neg apart, ih, colons?_cons other, Option.map_map]
      cases next : colons? s with
      | none => rfl
      | some t =>
        obtain ⟨-, -, behind⟩ := colons?_spec next
        have smaller := String.utf8Len_le_of_suffix behind
        simp only [Option.map_some, Function.comp_apply, utf8Len_cons, Option.some.injEq]
        omega

end Tokens

theorem assignment?_of_word {s rest : List Char} (word : afterWord? s = some rest) :
    assignment? s = if rest.takeWhile isGap = [] then none else keyAndValue? (rest.dropWhile isGap) := by
  unfold assignment?
  rw [word]
  cases rest with
  | nil => rfl
  | cons c rest => cases gap : isGap c <;> simp [gap]

theorem keyAndValue?_eq (s : List Char) :
    keyAndValue? s =
      if s.takeWhile isKeyChar = [] ∨ (s.dropWhile isKeyChar).head? ≠ some '=' then none
      else (value? (s.dropWhile isKeyChar).tail).map fun (value, rest) => (⟨s.takeWhile isKeyChar, value⟩, rest) := by
  unfold keyAndValue?
  cases s.takeWhile isKeyChar with
  | nil => rfl
  | cons k key =>
    cases s.dropWhile isKeyChar with
    | nil => rfl
    | cons c rest => by_cases equals : c = '=' <;> simp [equals]

/-- The scanner tries the two colons at a byte. The pairs `ps` are those before them, and what it is to read there is
the outcome. -/
structure Attempt (text : List Char) (start : Nat) (ps : List Pair) (behind : List Char)
    (outcome : Option (Pair × List Char)) : Prop where
  here : from? text start = some (':' :: ':' :: behind)
  left : pairs text = ps ++ pairs (':' :: ':' :: behind)
  reads : assignment? (':' :: ':' :: behind) = outcome

/-- The position is a place of the text. The pairs handed over are those before it, and those that the text has behind
it are still to come. -/
inductive Sound (text : List Char) : Place → List Pair → Prop where
  | seeking {pos : Nat} {rest : List Char} {ps : List Pair} (here : from? text pos = some rest)
      (left : pairs text = ps ++ pairs rest) : Sound text (.seeking pos) ps
  | colons {start : Nat} {behind : List Char} {ps : List Pair} {outcome : Option (Pair × List Char)}
      (attempt : Attempt text start ps behind outcome) : Sound text (.colons start) ps
  | behindWord {start pos : Nat} {rest behind : List Char} {ps : List Pair} (here : from? text pos = some rest)
      (attempt : Attempt text start ps behind
        (if rest.takeWhile isGap = [] then none else keyAndValue? (rest.dropWhile isGap))) :
      Sound text (.behindWord start pos) ps
  | behindGap {start pos : Nat} {gap rest behind : List Char} {ps : List Pair} (here : from? text pos = some rest)
      (attempt : Attempt text start ps behind (if gap = [] then none else keyAndValue? rest)) :
      Sound text (.behindGap start pos gap) ps
  | behindKey {start pos : Nat} {key rest behind : List Char} {ps : List Pair} (here : from? text pos = some rest)
      (attempt : Attempt text start ps behind
        (if key = [] ∨ rest.head? ≠ some '=' then none
        else (value? rest.tail).map fun (value, after) => (⟨key, value⟩, after))) :
      Sound text (.behindKey start pos key) ps
  | behindEquals {start pos : Nat} {key rest behind : List Char} {ps : List Pair} (here : from? text pos = some rest)
      (attempt : Attempt text start ps behind ((value? rest).map fun (value, after) => (⟨key, value⟩, after))) :
      Sound text (.behindEquals start pos key) ps
  | found {pos : Nat} {rest : List Char} {p : Pair} {ps : List Pair} (here : from? text pos = some rest)
      (left : pairs text = ps ++ pairs rest) : Sound text (.found pos p) ps
  | finished {pos : Nat} {rest : List Char} {ps : List Pair} (here : from? text pos = some rest)
      (nowhere : colons? rest = none) (left : pairs text = ps) : Sound text (.finished pos) ps

/-- The scanner gets from a place to another one that is sound again, and the slices that it takes for this are within
the text. -/
def Advances (text : List Char) (c : Place) (ps : List Pair) : Prop :=
  ∃ d, c.next? text = some d ∧ Sound text d (ps ++ d.handed)

section Soundness

variable {text rest behind : List Char} {start pos : Nat} {c d : Place} {ps : List Pair}

theorem Sound.advances_to (sound : Sound text d ps) (step : c.next? text = some d) (nothing : d.handed = []) :
    Advances text c ps := by
  refine ⟨d, step, ?_⟩
  rwa [nothing, List.append_nil]

theorem advances_seeking (here : from? text pos = some rest) (left : pairs text = ps ++ pairs rest) :
    Advances text (.seeking pos) ps := by
  cases next : colons? rest with
  | none =>
    rw [pairs_of_no_colons next, List.append_nil] at left
    have stop : (Place.seeking pos).next? text = some (.finished pos) := by
      simp [Place.next?, here, find?_colons, next]
    exact (Sound.finished here next left).advances_to stop rfl
  | some t =>
    obtain ⟨r, rfl, suffix⟩ := colons?_spec next
    have same : pairs rest = pairs (':' :: ':' :: r) := pairs_congr next
    rw [same] at left
    have jump : (Place.seeking pos).next? text =
        some (.colons (pos + (utf8Len rest - utf8Len (':' :: ':' :: r)))) := by
      simp [Place.next?, here, find?_colons, next]
    exact (Sound.colons ⟨Text.from?_suffix here suffix, left, rfl⟩).advances_to jump rfl

theorem Attempt.seeking (h : Attempt text start ps behind none) : Sound text (.seeking (start + 2)) ps := by
  have colons : from? text start = some ([':', ':'] ++ behind) := h.here
  refine .seeking (Text.from?_add colons) ?_
  rw [h.left, pairs_of_resume rfl h.reads]

theorem Attempt.found {p : Pair} (h : Attempt text start ps behind (some (p, rest)))
    (here : from? text pos = some rest) : Sound text (.found pos p) (ps ++ [p]) := by
  refine .found here ?_
  rw [h.left, pairs_of_assignment rfl h.reads, List.append_assoc]
  rfl

namespace Attempt

theorem advances_colons {outcome : Option (Pair × List Char)} (h : Attempt text start ps behind outcome) :
    Advances text (.colons start) ps := by
  obtain ⟨here, left, reads⟩ := h
  cases marker : words.find? (·.isPrefixOf (':' :: ':' :: behind)) with
  | none =>
    have malformed : assignment? (':' :: ':' :: behind) = none := by
      simp only [assignment?, afterWord?, marker, Option.map_none]
    have back : (Place.colons start).next? text = some (.seeking (start + 2)) := by
      simp [Place.next?, here, marker]
    exact (Attempt.seeking ⟨here, left, malformed⟩).advances_to back rfl
  | some word =>
    have starts : word.isPrefixOf (':' :: ':' :: behind) = true := by simpa using List.find?_some marker
    obtain ⟨rest, whole⟩ := List.isPrefixOf_iff_prefix.1 starts
    have after : afterWord? (':' :: ':' :: behind) = some rest := by
      rw [afterWord?, marker, ← whole, Option.map_some, List.drop_left]
    have on : (Place.colons start).next? text = some (.behindWord start (start + utf8Len word)) := by
      simp [Place.next?, here, marker]
    have place : from? text (start + utf8Len word) = some rest := by
      apply Text.from?_add
      rw [here, whole]
    exact (Sound.behindWord place ⟨here, left, assignment?_of_word after⟩).advances_to on rfl

theorem advances_behindWord (here : from? text pos = some rest)
    (h : Attempt text start ps behind
      (if rest.takeWhile isGap = [] then none else keyAndValue? (rest.dropWhile isGap))) :
    Advances text (.behindWord start pos) ps := by
  have on : (Place.behindWord start pos).next? text =
      some (.behindGap start (pos + utf8Len (rest.takeWhile isGap)) (rest.takeWhile isGap)) := by
    simp [Place.next?, run?_eq isGap here]
  exact (Sound.behindGap (from?_run isGap here) h).advances_to on rfl

theorem advances_behindGap {gap : List Char} (here : from? text pos = some rest)
    (h : Attempt text start ps behind (if gap = [] then none else keyAndValue? rest)) :
    Advances text (.behindGap start pos gap) ps := by
  by_cases apart : gap = []
  · rw [if_pos apart] at h
    exact h.seeking.advances_to (if_pos apart) rfl
  · rw [if_neg apart, keyAndValue?_eq] at h
    have on : (Place.behindGap start pos gap).next? text =
        some (.behindKey start (pos + utf8Len (rest.takeWhile isKeyChar)) (rest.takeWhile isKeyChar)) := by
      simp [Place.next?, apart, run?_eq isKeyChar here]
    exact (Sound.behindKey (from?_run isKeyChar here) h).advances_to on rfl

theorem advances_behindKey {key : List Char} (here : from? text pos = some rest)
    (h : Attempt text start ps behind
      (if key = [] ∨ rest.head? ≠ some '=' then none
      else (value? rest.tail).map fun (value, after) => (⟨key, value⟩, after))) :
    Advances text (.behindKey start pos key) ps := by
  by_cases named : key = []
  · rw [if_pos (Or.inl named)] at h
    exact h.seeking.advances_to (if_pos named) rfl
  by_cases equals : rest.head? = some '='
  · rw [if_neg (by simp [named, equals])] at h
    obtain ⟨after, rfl⟩ := List.head?_eq_some_iff.1 equals
    have on : (Place.behindKey start pos key).next? text = some (.behindEquals start (pos + 1) key) := by
      simp [Place.next?, named, here]
    have sign : from? text pos = some (['='] ++ after) := here
    have place : from? text (pos + 1) = some after := Text.from?_add sign
    exact (Sound.behindEquals place h).advances_to on rfl
  · rw [if_pos (Or.inr equals)] at h
    have back : (Place.behindKey start pos key).next? text = some (.seeking (start + 2)) := by
      simp [Place.next?, named, here, equals]
    exact h.seeking.advances_to back rfl

theorem advances_behindEquals {key : List Char} (here : from? text pos = some rest)
    (h : Attempt text start ps behind ((value? rest).map fun (value, after) => (⟨key, value⟩, after))) :
    Advances text (.behindEquals start pos key) ps := by
  cases read : value? rest with
  | none =>
    rw [read] at h
    have back : (Place.behindEquals start pos key).next? text = some (.seeking (start + 2)) := by
      simp [Place.next?, valueFrom?_eq here, read]
    exact h.seeking.advances_to back rfl
  | some found =>
    obtain ⟨value, after⟩ := found
    rw [read] at h
    have on : (Place.behindEquals start pos key).next? text =
        some (.found (pos + (utf8Len rest - utf8Len after)) ⟨key, value⟩) := by
      simp [Place.next?, valueFrom?_eq here, read]
    have suffix := (value?_eq_some_iff.1 read).suffix
    exact ⟨_, on, h.found (Text.from?_suffix here suffix)⟩

end Attempt

theorem Sound.advances (sound : Sound text c ps) : Advances text c ps := by
  cases sound with
  | seeking here left => exact advances_seeking here left
  | colons attempt => exact attempt.advances_colons
  | behindWord here attempt => exact attempt.advances_behindWord here
  | behindGap here attempt => exact attempt.advances_behindGap here
  | behindKey here attempt => exact attempt.advances_behindKey here
  | behindEquals here attempt => exact attempt.advances_behindEquals here
  | found here left => exact (Sound.seeking here left).advances_to rfl rfl
  | finished here nowhere left =>
    have nothing := pairs_of_no_colons nowhere
    exact (Sound.seeking here (by rw [nothing, List.append_nil, left])).advances_to rfl rfl

theorem Sound.exists_from? (sound : Sound text c ps) : ∃ rest, from? text c.pos = some rest := by
  cases sound with
  | seeking here | behindWord here | behindGap here | behindKey here | behindEquals here | found here
  | finished here => exact ⟨_, here⟩
  | colons attempt => exact ⟨_, attempt.here⟩

theorem Sound.pos_le (sound : Sound text c ps) : c.pos ≤ utf8Len text := by
  obtain ⟨rest, here⟩ := sound.exists_from?
  have size := Text.size_of_from? here
  omega

theorem Sound.prefix_pairs (sound : Sound text c ps) : ps <+: pairs text := by
  cases sound with
  | seeking _ left | found _ left => exact ⟨_, left.symm⟩
  | colons attempt | behindWord _ attempt | behindGap _ attempt | behindKey _ attempt | behindEquals _ attempt =>
    exact ⟨_, attempt.left.symm⟩
  | finished _ _ left => exact ⟨[], by rw [List.append_nil, left]⟩

end Soundness

end ScriptRunner.Marker
