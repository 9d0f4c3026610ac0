import ScriptRunner.Text.Ascii
import ScriptRunner.Text.Blank

namespace ScriptRunner.Text

theorem isUpper_iff (c : Char) : c.isUpper = true ↔ 65 ≤ c.toNat ∧ c.toNat ≤ 90 :=
  decide_eq_true_iff.trans (and_congr UInt32.le_iff_toNat_le UInt32.le_iff_toNat_le)

theorem isLower_iff (c : Char) : c.isLower = true ↔ 97 ≤ c.toNat ∧ c.toNat ≤ 122 :=
  Bool.and_eq_true_iff.trans (and_congr (decide_eq_true_iff.trans UInt32.le_iff_toNat_le)
    (decide_eq_true_iff.trans UInt32.le_iff_toNat_le))

theorem isAlpha_iff (c : Char) :
    c.isAlpha = true ↔ (65 ≤ c.toNat ∧ c.toNat ≤ 90) ∨ (97 ≤ c.toNat ∧ c.toNat ≤ 122) :=
  Bool.or_eq_true_iff.trans (or_congr (isUpper_iff c) (isLower_iff c))

theorem toNat_toLower (c : Char) :
    c.toLower.toNat = if 65 ≤ c.toNat ∧ c.toNat ≤ 90 then c.toNat + 32 else c.toNat := by
  by_cases upper : c.val ≥ 'A'.val ∧ c.val ≤ 'Z'.val
  · have capital : 65 ≤ c.toNat ∧ c.toNat ≤ 90 := upper.imp UInt32.le_iff_toNat_le.1 UInt32.le_iff_toNat_le.1
    have moved : (c.val + ('a'.val - 'A'.val)).toNat = c.toNat + 32 := by
      rw [UInt32.toNat_add]
      exact Nat.mod_eq_of_lt (show c.toNat + 32 < 2 ^ 32 by omega)
    rw [if_pos capital]
    exact (congrArg Char.toNat (dif_pos upper)).trans moved
  · have apart : ¬ (65 ≤ c.toNat ∧ c.toNat ≤ 90) := fun capital =>
      upper (capital.imp UInt32.le_iff_toNat_le.2 UInt32.le_iff_toNat_le.2)
    rw [if_neg apart]
    exact congrArg Char.toNat (dif_neg upper)

theorem toLower_eq_iff {c d : Char} (other : d.isAlpha = false) : c.toLower = d ↔ c = d := by
  rw [← Bool.not_eq_true, isAlpha_iff] at other
  rw [← Char.toNat_inj, ← Char.toNat_inj, toNat_toLower]
  split <;> omega

theorem isBlank_toLower (c : Char) : isBlank c.toLower = isBlank c := by
  simp only [isBlank, toNat_toLower]
  split
  · next letter =>
    rw [Bool.eq_iff_iff]
    simp
    omega
  · rfl

theorem toList_lowerAscii (s : String) : (lowerAscii s).toList = s.toList.map Char.toLower := String.toList_map

theorem lowerAscii_ofList (s : List Char) : lowerAscii (String.ofList s) = String.ofList (s.map Char.toLower) := by
  apply String.toList_injective
  simp [toList_lowerAscii]

theorem lowerAscii_lowerAscii (s : String) : lowerAscii (lowerAscii s) = lowerAscii s := by
  apply String.toList_injective
  rw [toList_lowerAscii, toList_lowerAscii, List.map_map]
  refine List.map_congr_left fun c _ => Char.toNat_inj.1 ?_
  simp only [Function.comp, toNat_toLower]
  split
  · rw [if_neg (by omega)]
  · rfl

theorem not_isUpper_of_mem_lowerAscii {s : String} {c : Char} (member : c ∈ (lowerAscii s).toList) :
    c.isUpper = false := by
  rw [toList_lowerAscii] at member
  obtain ⟨d, -, rfl⟩ := List.mem_map.1 member
  rw [← Bool.not_eq_true, isUpper_iff, toNat_toLower]
  split <;> omega

theorem isBlank_of_isAsciiBlank {c : Char} (blank : isAsciiBlank c = true) : isBlank c = true := by
  simp only [isAsciiBlank, Bool.or_eq_true, beq_iff_eq] at blank
  rcases blank with (((rfl | rfl) | rfl) | rfl) | rfl <;> rfl

end ScriptRunner.Text
