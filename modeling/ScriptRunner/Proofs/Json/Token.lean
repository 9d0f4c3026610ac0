import ScriptRunner.Proofs.Json.Grammar
import ScriptRunner.Proofs.Text.Decimal

namespace ScriptRunner.Json

theorem hexDigits_of_control :
    ∀ u < 0x20, hex4? '0' '0' (hexDigit (u / 16)) (hexDigit (u % 16)) = some u := by
  decide

theorem Quoted.escapeChar (c : Char) {w s : List Char} (after : Quoted w s) : Quoted (escapeChar c ++ w) (c :: s) := by
  unfold Json.escapeChar
  split
  · next same => subst same; exact .letter rfl after
  split
  · next same => subst same; exact .letter rfl after
  split
  · next same => subst same; exact .letter rfl after
  split
  · next same => subst same; exact .letter rfl after
  split
  · next same => subst same; exact .letter rfl after
  split
  · next same => subst same; exact .letter rfl after
  split
  · next same => subst same; exact .letter rfl after
  split
  · next control =>
    obtain ⟨high, low⟩ := not_surrogate c
    have quoted := Quoted.unit (hexDigits_of_control c.toNat control) high low after
    rwa [Char.ofNat_toNat] at quoted
  · next quote slash _ _ _ _ _ printed => exact .plain quote slash (Nat.not_lt.1 printed) after

theorem quoted_escape (s : List Char) : Quoted (escape s) s := by
  induction s with
  | nil => exact .done
  | cons c s ih =>
    rw [escape, List.flatMap_cons]
    exact ih.escapeChar c

namespace Number

def Exact (n : Number) : Prop := read? n.text = some n

theorem digit_of_mem_toDigits {n : Nat} {c : Char} (member : c ∈ Nat.toDigits 10 n) : c.isDigit = true :=
  Nat.isDigit_of_mem_toDigits (by decide) (by decide) member

theorem head?_toDigits {n : Nat} (positive : n ≠ 0) : (Nat.toDigits 10 n).head? ≠ some '0' := by
  induction n using Nat.strongRecOn with
  | ind n ih =>
    by_cases small : n < 10
    · have digit : ∀ n < 10, n ≠ 0 → n.digitChar ≠ '0' := by decide
      rw [Nat.toDigits_of_lt_base small]
      simpa using digit n small positive
    · have front := ih (n / 10) (by omega) (by omega)
      rw [Nat.toDigits_of_base_le (by decide) (by omega), List.head?_append]
      cases first : (Nat.toDigits 10 (n / 10)).head? with
      | none => exact absurd (List.head?_eq_none_iff.1 first) Nat.toDigits_ne_nil
      | some c =>
        rw [first] at front
        exact front

theorem isWhole_toDigits (n : Nat) : isWhole (Nat.toDigits 10 n) = true := by
  by_cases zero : n = 0
  · subst zero
    rfl
  · have digits : (Nat.toDigits 10 n).all Char.isDigit = true :=
      List.all_eq_true.2 fun c member => digit_of_mem_toDigits member
    simp [isWhole, digits, Nat.toDigits_ne_nil, head?_toDigits zero]

theorem text_ofNat (n : Nat) : (int n).text = Nat.toDigits 10 n := Nat.toList_repr

theorem text_negSucc (n : Nat) : (int (Int.negSucc n)).text = '-' :: Nat.toDigits 10 (n + 1) := by
  simp [text, Int.repr]

theorem read?_of_isWhole {s : List Char} (digits : ∀ c ∈ s, c.isDigit = true) (whole : isWhole s = true) :
    read? s = some (.int (Text.decimal s)) ∧
      (s ≠ ['0'] → read? ('-' :: s) = some (.int (-(Text.decimal s : Int)))) := by
  obtain ⟨taken, dropped⟩ := (Text.span_iff Char.isDigit s s []).2 ⟨(List.append_nil s).symm, digits, nofun⟩
  constructor
  · cases s with
    | nil => cases whole
    | cons c s =>
      have sign : c ≠ '-' := by
        rintro rfl
        exact absurd (digits '-' List.mem_cons_self) (by decide)
      simp [read?, sign, taken, dropped, whole, isTail, isExponent]
  · intro nonzero
    simp [read?, taken, dropped, whole, nonzero, isTail, isExponent]

theorem exact_int (n : Int) : (int n).Exact := by
  have digits (n : Nat) : ∀ c ∈ Nat.toDigits 10 n, c.isDigit = true := fun c member => digit_of_mem_toDigits member
  cases n with
  | ofNat n =>
    have read := (read?_of_isWhole (digits n) (isWhole_toDigits n)).1
    rwa [Text.decimal_toDigits, ← text_ofNat] at read
  | negSucc n =>
    have nonzero : Nat.toDigits 10 (n + 1) ≠ ['0'] := fun zero => head?_toDigits n.succ_ne_zero (by rw [zero]; rfl)
    have read := (read?_of_isWhole (digits (n + 1)) (isWhole_toDigits (n + 1))).2 nonzero
    rwa [Text.decimal_toDigits, ← text_negSucc] at read

end Number

namespace Token

/-- A token that ends where it is followed by `s`. Nothing goes on but a number. -/
def EndsBefore (t : Token) (s : List Char) : Prop :=
  ∀ n, t = .number n → n.Exact ∧ ∀ c ∈ s.head?, ¬ Number.isMark c = true

theorem EndsBefore.spelling {t : Token} {s : List Char} (h : t.EndsBefore s) : t.Spelling t.text := by
  cases t with
  | number n => exact .number (h n rfl).1
  | string s =>
    have spelling := Spelling.string (quoted_escape s.toList)
    rwa [String.ofList_toList] at spelling
  | _ => exact .fixed rfl

end Token

/-- A text that spells tokens one after the other, with white space where it likes. -/
inductive Spelled : List Char → List Token → Prop where
  | done : Spelled [] []
  | space {c : Char} {s : List Char} {ts : List Token} (blank : isSpace c = true) (after : Spelled s ts) :
      Spelled (c :: s) ts
  | token {t : Token} {s : List Char} {ts : List Token} (ends : t.EndsBefore s) (after : Spelled s ts) :
      Spelled (t.text ++ s) (t :: ts)

theorem Spelled.other {t : Token} (other : ∀ n, t ≠ .number n) {s : List Char} {ts : List Token}
    (after : Spelled s ts) : Spelled (t.text ++ s) (t :: ts) :=
  .token (fun n same => absurd same (other n)) after

theorem Spelled.written {s : List Char} {ts : List Token} (h : Spelled s ts) : Written s ts := by
  induction h with
  | done => exact .done
  | space blank _ ih => exact .space blank ih
  | token ends _ ih => exact .token ends.spelling (fun n same => (ends n same).2) ih

end ScriptRunner.Json
