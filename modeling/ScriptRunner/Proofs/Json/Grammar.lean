import ScriptRunner.Json.Token
import ScriptRunner.Proofs.Text.Span

namespace ScriptRunner.Json

/-- What may stand between quotes, and the characters that it means. -/
inductive Quoted : List Char → List Char → Prop where
  | done : Quoted [] []
  | plain {c : Char} {w s : List Char} (quote : c ≠ '"') (slash : c ≠ '\\') (printed : 0x20 ≤ c.toNat)
      (after : Quoted w s) : Quoted (c :: w) (c :: s)
  | letter {l c : Char} {w s : List Char} (known : letter? l = some c) (after : Quoted w s) :
      Quoted ('\\' :: l :: w) (c :: s)
  | unit {a b c d : Char} {u : Nat} {w s : List Char} (digits : hex4? a b c d = some u)
      (high : isHighSurrogate u = false) (low : isLowSurrogate u = false) (after : Quoted w s) :
      Quoted ('\\' :: 'u' :: a :: b :: c :: d :: w) (Char.ofNat u :: s)
  | pair {a b c d a' b' c' d' : Char} {u v : Nat} {w s : List Char} (digits : hex4? a b c d = some u)
      (digits' : hex4? a' b' c' d' = some v) (high : isHighSurrogate u = true) (low : isLowSurrogate v = true)
      (after : Quoted w s) :
      Quoted ('\\' :: 'u' :: a :: b :: c :: d :: '\\' :: 'u' :: a' :: b' :: c' :: d' :: w)
        (Char.ofNat (0x10000 + (u - 0xD800) * 0x400 + (v - 0xDC00)) :: s)

theorem units?_plain {c : Char} (quote : c ≠ '"') (slash : c ≠ '\\') (printed : 0x20 ≤ c.toNat) (s : List Char) :
    units? (c :: s) = consUnit c.toNat (units? s) := by
  rw [units?]
  · rw [if_neg (Nat.not_lt.2 printed)]
  · exact quote
  · exact fun _ _ _ _ _ same => absurd same slash
  · exact fun _ _ same => absurd same slash
  · exact fun same => absurd same slash

theorem units?_letter {l c : Char} (known : letter? l = some c) (s : List Char) :
    units? ('\\' :: l :: s) = consUnit c.toNat (units? s) := by
  rw [units?, known]
  rintro _ _ _ _ _ rfl
  cases known

theorem units?_unit {a b c d : Char} {u : Nat} (digits : hex4? a b c d = some u) (s : List Char) :
    units? ('\\' :: 'u' :: a :: b :: c :: d :: s) = consUnit u (units? s) := by
  rw [units?, digits]

theorem ofUnits?_cons {u : Nat} (high : isHighSurrogate u = false) (low : isLowSurrogate u = false) (us : List Nat) :
    ofUnits? (u :: us) = (ofUnits? us).map (Char.ofNat u :: ·) := by
  cases us with
  | nil => simp [ofUnits?, high, low]
  | cons v us => simp [ofUnits?, high, low]

theorem not_surrogate (c : Char) : isHighSurrogate c.toNat = false ∧ isLowSurrogate c.toNat = false := by
  have valid : c.toNat.isValidChar := c.valid
  simp only [Nat.isValidChar] at valid
  simp only [isHighSurrogate, isLowSurrogate, Bool.and_eq_false_iff, decide_eq_false_iff_not]
  omega

theorem ofUnits?_char (c : Char) (us : List Nat) : ofUnits? (c.toNat :: us) = (ofUnits? us).map (c :: ·) := by
  obtain ⟨high, low⟩ := not_surrogate c
  rw [ofUnits?_cons high low, Char.ofNat_toNat]

theorem Quoted.exists_units {w s : List Char} (h : Quoted w s) (rest : List Char) :
    ∃ us, units? (w ++ '"' :: rest) = some (us, rest) ∧ ofUnits? us = some s := by
  induction h with
  | done => exact ⟨[], rfl, rfl⟩
  | @plain c _ _ quote slash printed _ ih =>
    obtain ⟨us, read, meant⟩ := ih
    refine ⟨c.toNat :: us, ?_, by rw [ofUnits?_char, meant, Option.map_some]⟩
    rw [List.cons_append, units?_plain quote slash printed, read, consUnit, Option.map_some]
  | @letter _ c _ _ known _ ih =>
    obtain ⟨us, read, meant⟩ := ih
    refine ⟨c.toNat :: us, ?_, by rw [ofUnits?_char, meant, Option.map_some]⟩
    rw [List.cons_append, List.cons_append, units?_letter known, read, consUnit, Option.map_some]
  | @unit _ _ _ _ u _ _ digits high low _ ih =>
    obtain ⟨us, read, meant⟩ := ih
    refine ⟨u :: us, ?_, by rw [ofUnits?_cons high low, meant, Option.map_some]⟩
    simp only [List.cons_append, units?_unit digits, read, consUnit, Option.map_some]
  | @pair _ _ _ _ _ _ _ _ u v _ _ digits digits' high low _ ih =>
    obtain ⟨us, read, meant⟩ := ih
    refine ⟨u :: v :: us, ?_, by simp [ofUnits?, high, low, meant]⟩
    simp only [List.cons_append, units?_unit digits, units?_unit digits', read, consUnit, Option.map_some]

theorem Quoted.unescape? {w s : List Char} (h : Quoted w s) (rest : List Char) :
    unescape? (w ++ '"' :: rest) = some (some s, rest) := by
  obtain ⟨us, read, meant⟩ := h.exists_units rest
  rw [Json.unescape?, read, ← meant]
  rfl

namespace Number

theorem isMark_of_isDigit {c : Char} (h : c.isDigit = true) : isMark c = true := by
  simp [isMark, h]

theorem isMark_of_all {s : List Char} (digits : s.all Char.isDigit = true) : ∀ c ∈ s, isMark c = true :=
  fun c member => isMark_of_isDigit (List.all_eq_true.1 digits c member)

theorem isMark_of_isExponent {s : List Char} (h : isExponent s = true) : ∀ c ∈ s, isMark c = true := by
  have signed {c d : Char} {r : List Char} (letter : isMark c = true) (sign : isMark d = true)
      (digits : (r != [] && r.all Char.isDigit) = true) : ∀ x ∈ c :: d :: r, isMark x = true := by
    rw [Bool.and_eq_true] at digits
    simpa [letter, sign] using isMark_of_all digits.2
  have plain {c : Char} {r : List Char} (letter : isMark c = true)
      (digits : (r != [] && r.all Char.isDigit) = true) : ∀ x ∈ c :: r, isMark x = true := by
    rw [Bool.and_eq_true] at digits
    simpa [letter] using isMark_of_all digits.2
  unfold isExponent at h
  split at h
  · exact nofun
  · split at h
    · exact signed rfl rfl h
    · exact signed rfl rfl h
    · exact plain rfl h
  · split at h
    · exact signed rfl rfl h
    · exact signed rfl rfl h
    · exact plain rfl h
  · cases h

theorem isMark_of_isTail {s : List Char} (h : isTail s = true) : ∀ c ∈ s, isMark c = true := by
  unfold isTail at h
  split at h
  · next s =>
    rw [Bool.and_eq_true] at h
    have digits := isMark_of_all (List.all_takeWhile (p := Char.isDigit) (l := s))
    have exponent := isMark_of_isExponent h.2
    rw [← List.takeWhile_append_dropWhile (p := Char.isDigit) (l := s), List.forall_mem_cons, List.forall_mem_append]
    exact ⟨rfl, digits, exponent⟩
  · exact isMark_of_isExponent h

theorem isMark_of_read? {s : List Char} {n : Number} (h : read? s = some n) : s ≠ [] ∧ ∀ c ∈ s, isMark c = true := by
  have body {r : List Char}
      (accepted : (isWhole (r.takeWhile Char.isDigit) && isTail (r.dropWhile Char.isDigit)) = true) :
      r ≠ [] ∧ ∀ c ∈ r, isMark c = true := by
    obtain ⟨whole, tail⟩ := (Bool.and_eq_true _ _).mp accepted
    constructor
    · rintro rfl
      cases whole
    · rw [← List.takeWhile_append_dropWhile (p := Char.isDigit) (l := r), List.forall_mem_append]
      exact ⟨isMark_of_all List.all_takeWhile, isMark_of_isTail tail⟩
  unfold read? at h
  split at h
  next negative r sign =>
    by_cases accepted : (isWhole (r.takeWhile Char.isDigit) && isTail (r.dropWhile Char.isDigit)) = true
    · split at sign
      · cases sign
        exact ⟨List.cons_ne_nil _ _, List.forall_mem_cons.2 ⟨rfl, (body accepted).2⟩⟩
      · cases sign
        exact body accepted
    · rw [if_neg accepted] at h
      cases h

end Number

theorem not_isMark_of_isSpace {c : Char} (blank : isSpace c = true) : ¬ Number.isMark c = true := by
  simp only [isSpace, Bool.or_eq_true, beq_iff_eq] at blank
  rcases blank with ((rfl | rfl) | rfl) | rfl <;> decide

namespace Token

/-- A token that is written in one way. Only numbers and strings are not, and of the strings that mean no text one stands
for all. -/
def isFixed : Token → Bool
  | .number _ | .string _ => false
  | _ => true

inductive Spelling : Token → List Char → Prop where
  | fixed {t : Token} (one : t.isFixed = true) : Spelling t t.text
  | number {n : Number} {w : List Char} (read : Number.read? w = some n) : Spelling (.number n) w
  | string {w s : List Char} (quoted : Quoted w s) : Spelling (.string (String.ofList s)) ('"' :: w ++ ['"'])

def StopsBefore (t : Token) (s : List Char) : Prop :=
  ∀ n, t = .number n → ∀ c ∈ s.head?, ¬ Number.isMark c = true

theorem next?_of_isMark {c : Char} (mark : Number.isMark c = true) (s : List Char) :
    next? (c :: s) =
      (Number.read? ((c :: s).takeWhile Number.isMark)).map fun n => (.number n, (c :: s).dropWhile Number.isMark) := by
  have other (d : Char) (unmarked : Number.isMark d = false) (r : List Char) : c :: s ≠ d :: r := by
    rintro ⟨⟩
    rw [mark] at unmarked
    cases unmarked
  rw [next?]
  all_goals exact fun _ => other _ rfl _

theorem Spelling.next? {t : Token} {w s : List Char} (h : t.Spelling w) (stops : t.StopsBefore s) :
    next? (w ++ s) = some (t, s) := by
  cases h with
  | fixed one =>
    cases t with
    | bool b => cases b <;> rfl
    | number n => cases one
    | string s => cases one
    | _ => rfl
  | @number n _ read =>
    obtain ⟨filled, marks⟩ := Number.isMark_of_read? read
    obtain ⟨c, r, rfl⟩ := List.exists_cons_of_ne_nil filled
    obtain ⟨taken, dropped⟩ := (Text.span_iff Number.isMark (c :: r ++ s) (c :: r) s).2 ⟨rfl, marks, stops n rfl⟩
    have found := next?_of_isMark (marks c List.mem_cons_self) (r ++ s)
    rw [← List.cons_append, taken, dropped, read] at found
    exact found
  | @string w _ quoted =>
    show (Json.unescape? (w ++ ['"'] ++ s)).map _ = _
    rw [List.append_assoc, List.singleton_append, quoted.unescape?]
    rfl

theorem Spelling.exists_cons {t : Token} {w : List Char} (h : t.Spelling w) : ∃ c r, w = c :: r ∧ isSpace c = false := by
  cases h with
  | fixed one =>
    cases t with
    | bool b => cases b <;> exact ⟨_, _, rfl, rfl⟩
    | number n => cases one
    | string s => cases one
    | _ => exact ⟨_, _, rfl, rfl⟩
  | number read =>
    obtain ⟨filled, marks⟩ := Number.isMark_of_read? read
    obtain ⟨c, r, rfl⟩ := List.exists_cons_of_ne_nil filled
    refine ⟨c, r, rfl, Bool.eq_false_iff.2 fun blank => ?_⟩
    exact not_isMark_of_isSpace blank (marks c List.mem_cons_self)
  | string quoted => exact ⟨_, _, rfl, rfl⟩

end Token

/-- A text with tokens one after the other, each of them in any spelling, and with white space where it likes. -/
inductive Written : List Char → List Token → Prop where
  | done : Written [] []
  | space {c : Char} {s : List Char} {ts : List Token} (blank : isSpace c = true) (after : Written s ts) :
      Written (c :: s) ts
  | token {t : Token} {w s : List Char} {ts : List Token} (spelling : t.Spelling w) (stops : t.StopsBefore s)
      (after : Written s ts) : Written (w ++ s) (t :: ts)

theorem Written.lex? {s : List Char} {ts : List Token} (h : Written s ts) : Token.lex? s = some ts := by
  suffices enough : ∀ fuel, s.length < fuel → Token.lexWithin fuel s = some ts from
    enough _ (Nat.lt_succ_self _)
  induction h with
  | done =>
    intro fuel positive
    obtain ⟨fuel, rfl⟩ := Nat.exists_eq_add_one.2 positive
    rfl
  | space blank after ih =>
    intro fuel enough
    obtain ⟨fuel, rfl⟩ := Nat.exists_eq_add_one.2 (Nat.zero_lt_of_lt enough)
    rw [Token.lexWithin, if_pos blank]
    exact ih fuel (Nat.lt_of_succ_lt_succ enough)
  | @token t w s ts spelling stops after ih =>
    intro fuel enough
    obtain ⟨fuel, rfl⟩ := Nat.exists_eq_add_one.2 (Nat.zero_lt_of_lt enough)
    have next := spelling.next? stops
    obtain ⟨c, r, rfl, solid⟩ := spelling.exists_cons
    rw [List.cons_append] at next enough ⊢
    rw [Token.lexWithin, solid, next]
    have rest := ih fuel (by simp at enough; omega)
    simp [rest]

end ScriptRunner.Json
