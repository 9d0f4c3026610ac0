import ScriptRunner.Proofs.Decoding.Utf8

namespace ScriptRunner.Utf8

open String (utf8EncodeChar)

theorem div_lt_or_mod_lt {n m : Nat} (less : n < m) : n / 64 < m / 64 ∨ n / 64 = m / 64 ∧ n % 64 < m % 64 := by omega

theorem div_64_again (n : Nat) : n / 4096 = n / 64 / 64 ∧ n / 262144 = n / 64 / 64 / 64 := by omega

theorem encode_append_lt {c d : Char} (less : c < d) (s t : List UInt8) :
    utf8EncodeChar c ++ s < utf8EncodeChar d ++ t := by
  have valid : d.toNat.isValidChar := d.valid
  rw [Char.lt_def, UInt32.lt_iff_toNat_lt, Char.toNat_val, Char.toNat_val] at less
  rw [String.utf8EncodeChar.eq_1, String.utf8EncodeChar.eq_1, Char.toNat_val, Char.toNat_val]
  generalize c.toNat = n at *
  generalize d.toNat = m at *
  simp only [Nat.isValidChar] at valid
  have last := div_lt_or_mod_lt less
  have middle : n / 64 < m / 64 → _ := div_lt_or_mod_lt
  have first : n / 64 / 64 < m / 64 / 64 → _ := div_lt_or_mod_lt
  simp only [div_64_again]
  -- Of two codes of one length the first group that differs decides, of two lengths the first byte.
  split_ifs
  all_goals
    simp only [List.cons_append, List.nil_append, List.cons_lt_cons_iff, UInt8.lt_iff_toNat_lt, ← UInt8.toNat_inj]
    simp (disch := omega) only [toNat_ofNat]
    omega

theorem utf8Bytes_lt {a b : String} (less : a < b) : utf8Bytes a < utf8Bytes b := by
  rw [String.lt_iff] at less
  rw [utf8Bytes_eq_flatMap, utf8Bytes_eq_flatMap]
  generalize a.toList = s at *
  generalize b.toList = t at *
  induction less with
  | nil =>
    obtain ⟨first, rest, encoded⟩ := List.exists_cons_of_ne_nil String.utf8EncodeChar_ne_nil
    rw [List.flatMap_cons, encoded]
    exact .nil
  | rel less => exact encode_append_lt less _ _
  | cons _ ih => exact List.append_left_lt ih

end ScriptRunner.Utf8
