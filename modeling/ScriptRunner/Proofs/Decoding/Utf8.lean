import Mathlib.Tactic.Positivity
import Mathlib.Tactic.Ring
import Mathlib.Tactic.SplitIfs
import ScriptRunner.Encoding.Decoder

namespace ScriptRunner.Utf8

open String (utf8EncodeChar)

/-- The bytes that complete a character. -/
inductive Completes : Nat → UInt8 → UInt8 → Nat → List UInt8 → Char → Prop where
  | done {low high : UInt8} {value : Nat} {c : Char} (same : c.toNat = value) : Completes 0 low high value [] c
  | byte {n : Nat} {low high b : UInt8} {value : Nat} {tail : List UInt8} {c : Char} (within : low ≤ b ∧ b ≤ high)
      (after : Completes n 0x80 0xBF (value * 64 + (b.toNat - 0x80)) tail c) :
      Completes (n + 1) low high value (b :: tail) c

theorem toNat_ofNat_of_valid {n : Nat} (valid : n.isValidChar) : (Char.ofNat n).toNat = n := by
  rw [Char.ofNat, dif_pos valid]
  rfl

theorem ofNat_eq_iff {n : Nat} (small : n < 256) {b : UInt8} : UInt8.ofNat n = b ↔ b.toNat = n := by
  rw [← UInt8.toNat_inj, UInt8.toNat_ofNat', Nat.mod_eq_of_lt small, eq_comm]

theorem toNat_ofNat {n : Nat} (small : n < 256) : (UInt8.ofNat n).toNat = n := (ofNat_eq_iff small).1 rfl

theorem Completes.ofNat {n r value : Nat} {low high : UInt8} {tail : List UInt8} {c : Char} (small : r < 64)
    (within : low.toNat ≤ r + 128 ∧ r + 128 ≤ high.toNat) (after : Completes n 0x80 0xBF (value * 64 + r) tail c) :
    Completes (n + 1) low high value (UInt8.ofNat (r + 128) :: tail) c := by
  have same : (UInt8.ofNat (r + 128)).toNat = r + 128 := toNat_ofNat (by omega)
  refine .byte ?_ ?_
  · simpa only [UInt8.le_iff_toNat_le, same] using within
  · simpa only [same, UInt8.reduceToNat, Nat.add_sub_cancel] using after

theorem Completes.ofNat_tail {n r value : Nat} {tail : List UInt8} {c : Char} (small : r < 64)
    (after : Completes n 0x80 0xBF (value * 64 + r) tail c) :
    Completes (n + 1) 0x80 0xBF value (UInt8.ofNat (r + 128) :: tail) c := by
  refine .ofNat small ?_ after
  simp only [UInt8.reduceToNat]
  omega

theorem first_of_encode {c : Char} {b : UInt8} {tail : List UInt8} (h : utf8EncodeChar c = b :: tail) :
    (b < 0x80 ∧ tail = [] ∧ c.toNat = b.toNat) ∨
      ∃ n low high value, Codec.utf8First b = ([], .utf8 (n + 1) low high value) ∧
        Completes (n + 1) low high value tail c := by
  have valid : c.toNat.isValidChar := c.valid
  rw [String.utf8EncodeChar.eq_1, Char.toNat_val] at h
  generalize same : c.toNat = v at *
  simp only [Nat.isValidChar] at valid
  unfold Codec.utf8First
  simp only [UInt8.lt_iff_toNat_lt, UInt8.reduceToNat, ← UInt8.toNat_inj]
  split_ifs at h with one two three
  all_goals
    obtain ⟨first, rfl⟩ := List.cons.inj h
    rw [ofNat_eq_iff (by omega)] at first
  · exact .inl ⟨by omega, rfl, first.symm⟩
  · rw [if_neg (by omega), if_neg (by omega), if_pos (by omega)]
    exact .inr ⟨_, _, _, _, rfl, .ofNat_tail (by omega) (.done (by omega))⟩
  · rw [if_neg (by omega), if_neg (by omega), if_neg (by omega), if_pos (by omega)]
    refine .inr ⟨_, _, _, _, rfl, .ofNat (by omega) ?_ ?_⟩
    · split_ifs <;> simp only [UInt8.reduceToNat] <;> omega
    · exact .ofNat_tail (by omega) (.done (by omega))
  · rw [if_neg (by omega), if_neg (by omega), if_neg (by omega), if_neg (by omega), if_pos (by omega)]
    refine .inr ⟨_, _, _, _, rfl, .ofNat (by omega) ?_ ?_⟩
    · split_ifs <;> simp only [UInt8.reduceToNat] <;> omega
    · exact .ofNat_tail (by omega) (.ofNat_tail (by omega) (.done (by omega)))

/-- The three kinds of lead bytes. What may follow them leaves out overlong forms, surrogates and codes that are too
large. -/
theorem lead_cases {b : UInt8} {n : Nat} {low high : UInt8} {value : Nat}
    (lead : Codec.utf8First b = ([], .utf8 n low high value)) :
    0x80 ≤ low.toNat ∧ low.toNat ≤ high.toNat ∧ high.toNat ≤ 0xBF ∧
      ((n = 1 ∧ 0xC2 ≤ b.toNat ∧ value + 0xC0 = b.toNat ∧ value < 0x20) ∨
        (n = 2 ∧ value + 0xE0 = b.toNat ∧ value < 0x10 ∧ (value = 0 → 0xA0 ≤ low.toNat) ∧
          (value = 0x0D → high.toNat ≤ 0x9F)) ∨
        (n = 3 ∧ value + 0xF0 = b.toNat ∧ value < 5 ∧ (value = 0 → 0x90 ≤ low.toNat) ∧
          (value = 4 → high.toNat ≤ 0x8F))) := by
  unfold Codec.utf8First at lead
  simp only [UInt8.lt_iff_toNat_lt, UInt8.reduceToNat, ← UInt8.toNat_inj] at lead
  split at lead
  · cases lead
  split at lead
  · cases lead
  split at lead
  · cases lead
    exact ⟨by decide, by decide, by decide, .inl ⟨rfl, by omega⟩⟩
  split at lead
  · cases lead
    refine ⟨?_, ?_, ?_, .inr (.inl ⟨rfl, ?_⟩)⟩ <;> split_ifs <;> simp only [UInt8.reduceToNat] <;> omega
  split at lead
  · cases lead
    refine ⟨?_, ?_, ?_, .inr (.inr ⟨rfl, ?_⟩)⟩ <;> split_ifs <;> simp only [UInt8.reduceToNat] <;> omega
  · cases lead

theorem encode_of_completes {b : UInt8} {n : Nat} {low high : UInt8} {value : Nat} {tail : List UInt8} {c : Char}
    (lead : Codec.utf8First b = ([], .utf8 n low high value)) (h : Completes n low high value tail c) :
    utf8EncodeChar c = b :: tail := by
  rw [String.utf8EncodeChar.eq_1, Char.toNat_val]
  rcases lead_cases lead with ⟨above, -, below, ⟨rfl, bounds⟩ | ⟨rfl, bounds⟩ | ⟨rfl, bounds⟩⟩
  · obtain _ | ⟨first, _ | _⟩ := h
    simp only [UInt8.le_iff_toNat_le] at *
    rw [if_neg (by omega), if_pos (by omega)]
    simp only [List.cons.injEq, and_true]
    rw [ofNat_eq_iff (by omega), ofNat_eq_iff (by omega)]
    omega
  · obtain _ | ⟨first, _ | ⟨second, _ | _⟩⟩ := h
    simp only [UInt8.le_iff_toNat_le, UInt8.reduceToNat] at *
    rw [if_neg (by omega), if_neg (by omega), if_pos (by omega)]
    simp only [List.cons.injEq, and_true]
    rw [ofNat_eq_iff (by omega), ofNat_eq_iff (by omega), ofNat_eq_iff (by omega)]
    omega
  · obtain _ | ⟨first, _ | ⟨second, _ | ⟨third, _ | _⟩⟩⟩ := h
    simp only [UInt8.le_iff_toNat_le, UInt8.reduceToNat] at *
    rw [if_neg (by omega), if_neg (by omega), if_neg (by omega)]
    simp only [List.cons.injEq, and_true]
    rw [ofNat_eq_iff (by omega), ofNat_eq_iff (by omega), ofNat_eq_iff (by omega), ofNat_eq_iff (by omega)]
    omega

theorem first_cases (b : UInt8) :
    (b < 0x80 ∧ Codec.utf8First b = ([Char.ofNat b.toNat], .utf8Start)) ∨
      (∃ n low high value, Codec.utf8First b = ([], .utf8 (n + 1) low high value)) ∨
      (¬ b < 0x80 ∧ Codec.utf8First b = ([replacementChar], .utf8Start)) := by
  by_cases ascii : b < 0x80
  · exact .inl ⟨ascii, by rw [Codec.utf8First, if_pos ascii]⟩
  · right
    unfold Codec.utf8First
    rw [if_neg ascii]
    split
    · exact .inr ⟨ascii, rfl⟩
    split
    · exact .inl ⟨_, _, _, _, rfl⟩
    split
    · exact .inl ⟨_, _, _, _, rfl⟩
    split
    · exact .inl ⟨_, _, _, _, rfl⟩
    · exact .inr ⟨ascii, rfl⟩

theorem encode_ascii {b : UInt8} (ascii : b < 0x80) : utf8EncodeChar (Char.ofNat b.toNat) = [b] := by
  simp only [UInt8.lt_iff_toNat_lt, UInt8.reduceToNat] at ascii
  rw [String.utf8EncodeChar.eq_1, Char.toNat_val, toNat_ofNat_of_valid (.inl (by omega)), if_pos (by omega),
    UInt8.ofNat_toNat]

theorem encode_append_inj {c d : Char} {r s : List UInt8} (h : utf8EncodeChar c ++ r = utf8EncodeChar d ++ s) :
    c = d ∧ r = s := by
  have decoded := congrArg (fun bytes : List UInt8 => bytes.toByteArray.utf8DecodeChar? 0) h
  simp only [List.toByteArray_append, ByteArray.utf8DecodeChar?_utf8EncodeChar_append, Option.some.injEq] at decoded
  subst decoded
  exact ⟨rfl, List.append_cancel_left h⟩

theorem toList_loop (bytes : ByteArray) (i : Nat) (done : List UInt8) :
    ByteArray.toList.loop bytes i done = done.reverse ++ bytes.data.toList.drop i := by
  fun_induction ByteArray.toList.loop bytes i done with
  | case1 i done short ih =>
    have inside : i < bytes.data.toList.length := by simpa using short
    rw [ih, List.drop_eq_getElem_cons inside]
    simp [ByteArray.get!, short]
  | case2 i done long => rw [List.drop_eq_nil_of_le (by simpa using long), List.append_nil]

theorem utf8Bytes_eq_data (s : String) : utf8Bytes s = s.toByteArray.data.toList := by
  rw [utf8Bytes, ByteArray.toList, toList_loop]
  rfl

theorem utf8Bytes_ofList (text : List Char) : utf8Bytes (String.ofList text) = text.flatMap utf8EncodeChar := by
  simp [utf8Bytes_eq_data, List.utf8Encode]

theorem utf8Bytes_eq_flatMap (s : String) : utf8Bytes s = s.toList.flatMap utf8EncodeChar := by
  rw [← utf8Bytes_ofList, String.ofList_toList]

theorem utf8Bytes_of_strict {bytes : List UInt8} {text : String} (valid : utf8Strict? bytes = some text) :
    utf8Bytes text = bytes := by
  rw [utf8Bytes_eq_data]
  unfold utf8Strict? String.fromUTF8? at valid
  split at valid
  · cases valid
    rfl
  · cases valid

def Begins (bytes : List UInt8) : Prop := ∃ c, bytes <+: utf8EncodeChar c

/-- What the machine knows in the middle of a character: the characters that its bytes begin, and that there are
some. -/
structure Held (seen : List UInt8) (n : Nat) (low high : UInt8) (value : Nat) : Prop where
  started : seen ≠ []
  completed : ∀ tail c, utf8EncodeChar c = seen ++ tail ↔ Completes (n + 1) low high value tail c
  unfinished : ∀ c, ¬ utf8EncodeChar c <+: seen
  room : low ≤ high
  valid : ∀ b, low ≤ b ∧ b ≤ high → ∀ k < 64 ^ n, ((value * 64 + (b.toNat - 0x80)) * 64 ^ n + k).isValidChar

theorem Held.lead {b : UInt8} {n : Nat} {low high : UInt8} {value : Nat}
    (first : Codec.utf8First b = ([], .utf8 (n + 1) low high value)) : Held [b] n low high value := by
  obtain ⟨above, room, below, kinds⟩ := lead_cases first
  have completed (tail : List UInt8) (c : Char) :
      utf8EncodeChar c = [b] ++ tail ↔ Completes (n + 1) low high value tail c := by
    constructor
    · intro h
      rcases first_of_encode h with ⟨ascii, -⟩ | ⟨_, _, _, _, same, completes⟩
      · rw [Codec.utf8First, if_pos ascii] at first
        cases first
      · rw [same] at first
        cases first
        exact completes
    · exact encode_of_completes first
  refine ⟨List.cons_ne_nil b [], completed, ?_, room, ?_⟩
  · intro c starts
    have whole : utf8EncodeChar c = [b] ++ [] := by
      rcases List.prefix_cons_iff.1 starts with empty | ⟨t, same, rest⟩
      · exact absurd empty String.utf8EncodeChar_ne_nil
      · rw [same, List.prefix_nil.1 rest]; rfl
    cases (completed [] c).1 whole
  · intro d within k small
    simp only [UInt8.le_iff_toNat_le] at within
    rcases kinds with ⟨same, bounds⟩ | ⟨same, bounds⟩ | ⟨same, bounds⟩
    · obtain rfl : n = 0 := by omega
      simp only [Nat.isValidChar] at small ⊢
      omega
    · obtain rfl : n = 1 := by omega
      simp only [Nat.isValidChar] at small ⊢
      omega
    · obtain rfl : n = 2 := by omega
      simp only [Nat.isValidChar] at small ⊢
      omega

theorem Held.next {seen : List UInt8} {n : Nat} {low high b : UInt8} {value : Nat}
    (h : Held seen (n + 1) low high value) (within : low ≤ b ∧ b ≤ high) :
    Held (seen ++ [b]) n 0x80 0xBF (value * 64 + (b.toNat - 0x80)) := by
  have completed (tail : List UInt8) (c : Char) : utf8EncodeChar c = seen ++ [b] ++ tail ↔
      Completes (n + 1) 0x80 0xBF (value * 64 + (b.toNat - 0x80)) tail c := by
    rw [List.append_assoc, h.completed]
    constructor
    · rintro (_ | ⟨-, after⟩)
      exact after
    · exact .byte within
  refine ⟨by simp, completed, ?_, by decide, ?_⟩
  · intro c starts
    rcases List.prefix_concat_iff.1 starts with whole | inside
    · cases (completed [] c).1 (by rw [List.append_nil]; exact whole)
    · exact h.unfinished c inside
  · intro d within' k small
    simp only [UInt8.le_iff_toNat_le, UInt8.reduceToNat] at within'
    have inner : (d.toNat - 0x80) * 64 ^ n + k < 64 ^ (n + 1) := by
      have most : (d.toNat - 0x80) * 64 ^ n ≤ 63 * 64 ^ n := Nat.mul_le_mul_right _ (by omega)
      omega
    have valid := h.valid b within _ inner
    have same : ((value * 64 + (b.toNat - 0x80)) * 64 + (d.toNat - 0x80)) * 64 ^ n + k =
        (value * 64 + (b.toNat - 0x80)) * 64 ^ (n + 1) + ((d.toNat - 0x80) * 64 ^ n + k) := by ring
    rwa [same]

theorem completes_replicate (n value : Nat) (valid : (value * 64 ^ n).isValidChar) :
    Completes n 0x80 0xBF value (List.replicate n 0x80) (Char.ofNat (value * 64 ^ n)) := by
  induction n generalizing value with
  | zero => exact .done (by rw [toNat_ofNat_of_valid valid, Nat.pow_zero, Nat.mul_one])
  | succ n ih =>
    have same : value * 64 ^ (n + 1) = (value * 64 + ((0x80 : UInt8).toNat - 0x80)) * 64 ^ n := by
      simp only [UInt8.reduceToNat]
      ring
    rw [same] at valid ⊢
    exact .byte (by decide) (ih _ valid)

theorem Held.begins {seen : List UInt8} {n : Nat} {low high : UInt8} {value : Nat} (h : Held seen n low high value) :
    Begins seen := by
  have valid := h.valid low ⟨Nat.le_refl _, h.room⟩ 0 (by positivity)
  have completes := Completes.byte ⟨Nat.le_refl _, h.room⟩ (completes_replicate n _ valid)
  exact ⟨_, _, ((h.completed _ _).2 completes).symm⟩

end ScriptRunner.Utf8
