import ScriptRunner.Bindings
import ScriptRunner.Text.Blank

namespace ScriptRunner.Marker

def words : List (List Char) := ["::set-output".toList, "::set-teamsfx-env".toList]

def isGap (c : Char) : Bool := c == ' ' || c == '\t'

def isKeyChar (c : Char) : Bool := c.isAlphanum || c == '_'

def isQuote (c : Char) : Bool := c == '"' || c == '\''

def isBareChar (c : Char) : Bool := !(Text.isBlank c || c == ';' || isQuote c)

def isBodyChar (q c : Char) : Bool := c != q && c != '\n'

structure Pair where
  key : List Char
  value : List Char
deriving DecidableEq, Repr

namespace Pair

def binding (p : Pair) : String × String := (String.ofList p.key, String.ofList p.value)

end Pair

def quoted? (q : Char) (s : List Char) : Option (List Char × List Char) :=
  match s.dropWhile (isBodyChar q) with
  | [] => none
  | c :: rest => if c = q then some (s.takeWhile (isBodyChar q), rest) else none

def value? (s : List Char) : Option (List Char × List Char) :=
  match s with
  | [] => some ([], [])
  | c :: rest =>
    if isQuote c then quoted? c rest
    else some (s.takeWhile isBareChar, s.dropWhile isBareChar)

def afterWord? (s : List Char) : Option (List Char) :=
  (words.find? (·.isPrefixOf s)).map fun w => s.drop w.length

def keyAndValue? (s : List Char) : Option (Pair × List Char) :=
  match s.takeWhile isKeyChar, s.dropWhile isKeyChar with
  | k :: key, '=' :: rest => (value? rest).map fun (value, rest) => (⟨k :: key, value⟩, rest)
  | _, _ => none

def assignment? (s : List Char) : Option (Pair × List Char) :=
  match afterWord? s with
  | some (c :: rest) => if isGap c then keyAndValue? (rest.dropWhile isGap) else none
  | _ => none

def colons? : List Char → Option (List Char)
  | [] => none
  | c :: rest =>
    match c, rest with
    | ':', ':' :: _ => some (c :: rest)
    | _, _ => colons? rest

inductive Step where
  | stop
  | found (p : Pair) (rest : List Char)
  | resume (rest : List Char)

/-- Jumps to the next two colons. Where they start no assignment, scanning resumes right behind them. -/
def step (s : List Char) : Step :=
  match colons? s with
  | none => .stop
  | some t =>
    match assignment? t with
    | some (p, rest) => .found p rest
    | none => .resume (t.drop 2)

theorem length_dropWhile_le (p : Char → Bool) (s : List Char) : (s.dropWhile p).length ≤ s.length := by
  have h := congrArg List.length (List.takeWhile_append_dropWhile (p := p) (l := s))
  simp only [List.length_append] at h
  omega

theorem quoted?_length {q : Char} {s b rest : List Char} (h : quoted? q s = some (b, rest)) :
    rest.length < s.length := by
  have hl := length_dropWhile_le (isBodyChar q) s
  unfold quoted? at h
  split at h
  · cases h
  · next c r hd =>
    rw [hd] at hl
    split at h
    · cases h; simp only [List.length_cons] at hl; omega
    · cases h

theorem value?_length {s v rest : List Char} (h : value? s = some (v, rest)) : rest.length ≤ s.length := by
  unfold value? at h
  split at h
  · cases h; simp
  · next c r =>
    split at h
    · have := quoted?_length h
      simp only [List.length_cons]; omega
    · cases h; exact length_dropWhile_le _ _

theorem keyAndValue?_length {s : List Char} {p : Pair} {rest : List Char}
    (h : keyAndValue? s = some (p, rest)) : rest.length < s.length := by
  have hl := length_dropWhile_le isKeyChar s
  unfold keyAndValue? at h
  split at h
  · next k key r _ hd =>
    rw [hd] at hl
    obtain ⟨⟨v, t⟩, hv, he⟩ := Option.map_eq_some_iff.1 h
    cases he
    have := value?_length hv
    simp only [List.length_cons] at hl
    omega
  · cases h

theorem afterWord?_length {s rest : List Char} (h : afterWord? s = some rest) : rest.length ≤ s.length := by
  obtain ⟨w, _, rfl⟩ := Option.map_eq_some_iff.1 h
  simp

theorem assignment?_length {s : List Char} {p : Pair} {rest : List Char}
    (h : assignment? s = some (p, rest)) : rest.length < s.length := by
  unfold assignment? at h
  split at h
  · next c r hw =>
    have h1 := afterWord?_length hw
    have h2 := length_dropWhile_le isGap r
    split at h
    · have h3 := keyAndValue?_length h
      simp only [List.length_cons] at h1
      omega
    · cases h
  · cases h

theorem colons?_spec {s t : List Char} (h : colons? s = some t) : ∃ r, t = ':' :: ':' :: r ∧ t <:+ s := by
  induction s with
  | nil => cases h
  | cons c s ih =>
    unfold colons? at h
    split at h
    · cases h; exact ⟨_, rfl, List.suffix_refl _⟩
    · obtain ⟨r, hr, hs⟩ := ih h
      exact ⟨r, hr, hs.trans (List.suffix_cons _ _)⟩

theorem step_found_length {s : List Char} {p : Pair} {rest : List Char} (h : step s = .found p rest) :
    rest.length < s.length := by
  unfold step at h
  split at h
  · cases h
  · next t ht =>
    obtain ⟨r, rfl, hs⟩ := colons?_spec ht
    have hl := hs.length_le
    split at h
    · next ha =>
      cases h
      have := assignment?_length ha
      omega
    · cases h

theorem step_resume_length {s rest : List Char} (h : step s = .resume rest) : rest.length < s.length := by
  unfold step at h
  split at h
  · cases h
  · next t ht =>
    obtain ⟨r, rfl, hs⟩ := colons?_spec ht
    have hl := hs.length_le
    split at h
    · cases h
    · cases h
      simp only [List.drop_succ_cons, List.drop_zero, List.length_cons] at hl ⊢
      omega

def pairs (s : List Char) : List Pair :=
  match h : step s with
  | .stop => []
  | .found p rest =>
    have : rest.length < s.length := step_found_length h
    p :: pairs rest
  | .resume rest =>
    have : rest.length < s.length := step_resume_length h
    pairs rest
termination_by s.length

end Marker

/-- The outputs of a run: every key once, where it first appeared, with its last value. -/
abbrev Outputs := Bindings

def Outputs.parse (text : String) : Outputs :=
  Bindings.ofPairs ((Marker.pairs text.toList).map Marker.Pair.binding)

end ScriptRunner
