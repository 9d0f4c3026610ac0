import Mathlib.Data.String.Basic

namespace ScriptRunner.Text

open String (utf8Len utf8Len_append utf8Len_cons)

def cut? : List Char → Nat → Option (List Char × List Char)
  | s, 0 => some ([], s)
  | [], _ + 1 => none
  | c :: s, n + 1 =>
    if c.utf8Size ≤ n + 1 then (cut? s (n + 1 - c.utf8Size)).map fun (front, rest) => (c :: front, rest) else none

def from? (s : List Char) (n : Nat) : Option (List Char) := (cut? s n).map Prod.snd

def upTo? (s : List Char) (n : Nat) : Option (List Char) := (cut? s n).map Prod.fst

def find? (looks : List Char → Bool) : List Char → Option Nat
  | [] => none
  | c :: s => if looks (c :: s) then some 0 else (find? looks s).map (· + c.utf8Size)

def startsWith (p : Char → Bool) (s : List Char) : Bool := s.head?.any p

variable {s front rest : List Char} {n : Nat}

theorem cut?_eq_some_iff : cut? s n = some (front, rest) ↔ s = front ++ rest ∧ utf8Len front = n := by
  fun_induction cut? s n generalizing front rest with
  | case1 s =>
    rw [Option.some.injEq, Prod.mk.injEq, String.utf8Len_eq_zero]
    constructor
    · rintro ⟨rfl, rfl⟩
      exact ⟨rfl, rfl⟩
    · rintro ⟨whole, rfl⟩
      exact ⟨rfl, whole⟩
  | case2 n =>
    simp only [reduceCtorEq, false_iff, List.nil_eq, List.append_eq_nil_iff]
    rintro ⟨⟨rfl, -⟩, size⟩
    cases size
  | case3 n c s fits ih =>
    simp only [Option.map_eq_some_iff, Prod.exists, ih, Prod.mk.injEq]
    constructor
    · rintro ⟨front, rest, ⟨rfl, size⟩, rfl, rfl⟩
      refine ⟨rfl, ?_⟩
      rw [utf8Len_cons]
      omega
    · rintro ⟨whole, size⟩
      cases front with
      | nil => cases size
      | cons d front =>
        obtain ⟨rfl, same⟩ := List.cons.inj whole
        rw [utf8Len_cons] at size
        exact ⟨front, rest, ⟨same, by omega⟩, rfl, rfl⟩
  | case4 n c s within =>
    simp only [reduceCtorEq, false_iff]
    rintro ⟨whole, size⟩
    cases front with
    | nil => cases size
    | cons d front =>
      obtain ⟨rfl, -⟩ := List.cons.inj whole
      rw [utf8Len_cons] at size
      omega

theorem from?_eq_some_iff : from? s n = some rest ↔ ∃ front, s = front ++ rest ∧ utf8Len front = n := by
  simp only [from?, Option.map_eq_some_iff, Prod.exists, cut?_eq_some_iff]
  constructor
  · rintro ⟨front, rest, cut, rfl⟩
    exact ⟨front, cut⟩
  · rintro ⟨front, cut⟩
    exact ⟨front, rest, cut, rfl⟩

theorem from?_append (front rest : List Char) : from? (front ++ rest) (utf8Len front) = some rest :=
  from?_eq_some_iff.2 ⟨front, rfl, rfl⟩

theorem upTo?_append (front rest : List Char) : upTo? (front ++ rest) (utf8Len front) = some front := by
  rw [upTo?, cut?_eq_some_iff.2 ⟨rfl, rfl⟩, Option.map_some]

theorem from?_zero (s : List Char) : from? s 0 = some s := from?_append [] s

theorem from?_add (here : from? s n = some (front ++ rest)) : from? s (n + utf8Len front) = some rest := by
  obtain ⟨before, rfl, rfl⟩ := from?_eq_some_iff.1 here
  exact from?_eq_some_iff.2 ⟨before ++ front, by rw [List.append_assoc], utf8Len_append before front⟩

theorem from?_suffix {after : List Char} (here : from? s n = some rest) (behind : after <:+ rest) :
    from? s (n + (utf8Len rest - utf8Len after)) = some after := by
  obtain ⟨passed, rfl⟩ := behind
  rw [utf8Len_append, Nat.add_sub_cancel]
  exact from?_add here

theorem size_of_from? (here : from? s n = some rest) : n + utf8Len rest = utf8Len s := by
  obtain ⟨before, rfl, rfl⟩ := from?_eq_some_iff.1 here
  exact (utf8Len_append before rest).symm

/-- A text can be cut where the standard library has a position in the bytes of the string. -/
theorem isValid_iff {text : String} : String.Pos.Raw.IsValid text ⟨n⟩ ↔ ∃ rest, from? text.toList n = some rest := by
  simp only [String.Pos.Raw.isValid_iff_exists_append, from?_eq_some_iff]
  constructor
  · rintro ⟨front, rest, rfl, place⟩
    refine ⟨rest.toList, front.toList, String.toList_append, ?_⟩
    rw [String.utf8Len_toList]
    exact (congrArg String.Pos.Raw.byteIdx place).symm
  · rintro ⟨rest, front, whole, size⟩
    refine ⟨String.ofList front, String.ofList rest, ?_, ?_⟩
    · rw [← String.ofList_append, ← whole, String.ofList_toList]
    · rw [String.Pos.Raw.ext_iff, ← size]
      exact (String.utf8ByteSize_ofList front).symm

theorem find?_startsWith {p q : Char → Bool} (other : ∀ c, q c = !p c) (s : List Char) :
    find? (startsWith q) s = if s.dropWhile p = [] then none else some (utf8Len (s.takeWhile p)) := by
  induction s with
  | nil => rfl
  | cons c s ih =>
    have here : startsWith q (c :: s) = !p c := other c
    rw [find?, here, ih, List.dropWhile_cons, List.takeWhile_cons]
    cases p c with
    | false => rfl
    | true =>
      simp only [Bool.not_true, Bool.false_eq_true, if_false, if_true, utf8Len_cons]
      split <;> rfl

end ScriptRunner.Text
