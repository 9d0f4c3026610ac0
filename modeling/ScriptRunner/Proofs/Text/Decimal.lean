import Mathlib.Data.Nat.Digits.Defs
import Mathlib.Data.List.Induction
import ScriptRunner.Proofs.Text.Trim
import ScriptRunner.Text.Ascii

namespace ScriptRunner.Text

/-- The number that digits stand for: the last one counts ones, and each of the others ten times as much as the next. -/
def valueOf (digits : List Char) : Nat := Nat.ofDigits 10 (digits.reverse.map digitValue)

theorem decimal_eq_valueOf (digits : List Char) : decimal digits = valueOf digits := by
  induction digits using List.reverseRecOn with
  | nil => rfl
  | append_singleton front c ih =>
    rw [decimal] at ih
    rw [decimal, List.foldl_append, ih, List.foldl_cons, List.foldl_nil, valueOf, valueOf, List.reverse_concat,
      List.map_cons, Nat.ofDigits_cons, Nat.add_comm]

theorem decimal_toDigits (n : Nat) : decimal (Nat.toDigits 10 n) = n := Nat.ofDigitChars_ten_toDigits

theorem valueOf_zeros_append (zeros : Nat) (digits : List Char) :
    valueOf (List.replicate zeros '0' ++ digits) = valueOf digits := by
  have zero : digitValue '0' = 0 := rfl
  rw [valueOf, List.reverse_append, List.map_append, List.reverse_replicate, List.map_replicate, zero,
    Nat.ofDigits_append_replicate_zero, valueOf]

theorem not_isBlank_of_isDigit {c : Char} (digit : c.isDigit = true) : ¬ isBlank c = true := by
  have range := Char.isDigit_iff_toNat.1 digit
  have zero : '0'.toNat = 48 := rfl
  have nine : '9'.toNat = 57 := rfl
  simp only [isBlank, Bool.or_eq_true, Bool.and_eq_true, decide_eq_true_eq, beq_iff_eq]
  omega

variable {bound n : Nat} {s : List Char}

theorem decimalBelow?_eq_some_iff :
    decimalBelow? bound s = some n ↔
      s ≠ [] ∧ (∀ c ∈ s, c.isDigit = true) ∧ valueOf s = n ∧ n < bound := by
  rw [decimalBelow?, decimal_eq_valueOf]
  constructor
  · intro read
    split at read
    · next number =>
      obtain ⟨filled, digits, small⟩ := number
      cases read
      exact ⟨filled, List.all_eq_true.1 digits, rfl, small⟩
    · cases read
  · rintro ⟨filled, digits, rfl, small⟩
    rw [if_pos ⟨filled, List.all_eq_true.2 digits, small⟩]

/-- A number as it may be written: digits, with a plus sign in front of them or not. -/
inductive Written : List Char → Nat → Prop where
  | bare {digits : List Char} (filled : digits ≠ []) (all : ∀ c ∈ digits, c.isDigit = true) :
      Written digits (valueOf digits)
  | plus {digits : List Char} (filled : digits ≠ []) (all : ∀ c ∈ digits, c.isDigit = true) :
      Written ('+' :: digits) (valueOf digits)

theorem Written.tight (h : Written s n) : Tight isBlank s := by
  cases h with
  | bare filled all =>
    constructor
    · exact fun c first => not_isBlank_of_isDigit (all c (List.mem_of_mem_head? first))
    · exact fun c last => not_isBlank_of_isDigit (all c (List.mem_of_mem_getLast? last))
  | @plus digits filled all =>
    constructor
    · rintro _ ⟨⟩
      decide
    · intro c last
      rw [List.getLast?_cons_of_ne_nil filled] at last
      exact not_isBlank_of_isDigit (all c (List.mem_of_mem_getLast? last))

theorem signedDecimalBelow?_eq_some_iff : signedDecimalBelow? bound s = some n ↔ Written s n ∧ n < bound := by
  constructor
  · intro read
    unfold signedDecimalBelow? at read
    split at read
    · obtain ⟨filled, digits, rfl, small⟩ := decimalBelow?_eq_some_iff.1 read
      exact ⟨.plus filled digits, small⟩
    · obtain ⟨filled, digits, rfl, small⟩ := decimalBelow?_eq_some_iff.1 read
      exact ⟨.bare filled digits, small⟩
  · rintro ⟨@⟨_, filled, digits⟩ | ⟨filled, digits⟩, small⟩
    · have unsigned : s.head? ≠ some '+' := fun sign =>
        absurd (digits '+' (List.mem_of_mem_head? sign)) (by decide)
      unfold signedDecimalBelow?
      split
      · exact absurd rfl unsigned
      · exact decimalBelow?_eq_some_iff.2 ⟨filled, digits, rfl, small⟩
    · exact decimalBelow?_eq_some_iff.2 ⟨filled, digits, rfl, small⟩

theorem Written.unique {m : Nat} (h : Written s m) (h' : Written s n) : m = n := by
  have first := signedDecimalBelow?_eq_some_iff.2 ⟨h, Nat.lt_succ_of_le (Nat.le_add_right m n)⟩
  have second := signedDecimalBelow?_eq_some_iff.2 ⟨h', Nat.lt_succ_of_le (Nat.le_add_left n m)⟩
  exact Option.some.inj (first.symm.trans second)

end ScriptRunner.Text
