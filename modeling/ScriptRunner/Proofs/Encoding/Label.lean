import ScriptRunner.Encoding.Label
import ScriptRunner.Proofs.Decoding.Utf8
import ScriptRunner.Proofs.Text.Ascii
import ScriptRunner.Proofs.Text.Trim

namespace ScriptRunner

open Text (isBlank isAsciiBlank lowerAscii)

namespace Utf8

theorem exists_byte_of_ascii {s : String} (ascii : ∀ b ∈ utf8Bytes s, b < 0x80) {c : Char} (member : c ∈ s.toList) :
    ∃ b ∈ utf8Bytes s, c.toNat = b.toNat := by
  obtain ⟨b, tail, encoded⟩ := List.exists_cons_of_ne_nil (String.utf8EncodeChar_ne_nil (c := c))
  have inside : b ∈ utf8Bytes s := by
    rw [utf8Bytes_eq_flatMap, List.mem_flatMap]
    exact ⟨c, member, by rw [encoded]; exact List.mem_cons_self⟩
  refine ⟨b, inside, ?_⟩
  rcases first_of_encode encoded with ⟨-, -, same⟩ | ⟨n, low, high, value, lead, -⟩
  · exact same
  · rw [Codec.utf8First, if_pos (ascii b inside)] at lead
    cases lead

end Utf8

namespace Encoding

theorem mem_all (e : Encoding) : e ∈ all := by cases e <;> decide

-- The kernel runs through some two hundred labels here, so the bound on their bytes is a Boolean.
theorem bytes_of_labels : ∀ e ∈ all, ∀ l ∈ e.labels, l.toByteArray.data.toList ≠ [] ∧
    l.toByteArray.data.toList.all (fun b => 0x2D ≤ b.toNat && b.toNat ≤ 0x7A && b.toNat != 0x40) = true := by
  decide +kernel

theorem dotted_label : ∀ e ∈ all, ∀ l ∈ e.labels, 0x2E ∈ l.toByteArray.data.toList → l = "ansi_x3.4-1968" := by
  decide +kernel

/-- What every label is: some characters, none of them white space or the sign of a modifier. -/
structure Solid (s : List Char) : Prop where
  filled : s ≠ []
  solid : ∀ c ∈ s, isBlank c = false
  unmarked : '@' ∉ s

theorem Solid.tight {s : List Char} (h : Solid s) : Text.Tight isBlank s := by
  constructor
  · intro c first
    simp [h.solid c (List.mem_of_head? first)]
  · intro c last
    simp [h.solid c (List.mem_of_getLast? last)]

theorem solid_of_label {e : Encoding} {l : String} (label : l ∈ e.labels) : Solid l.toList := by
  obtain ⟨filled, range⟩ := bytes_of_labels e (mem_all e) l label
  simp only [← Utf8.utf8Bytes_eq_data, List.all_eq_true, Bool.and_eq_true, decide_eq_true_eq, bne_iff_ne, and_assoc]
    at filled range
  have ascii : ∀ b ∈ utf8Bytes l, b < 0x80 := by
    intro b member
    obtain ⟨-, below, -⟩ := range b member
    rw [UInt8.lt_iff_toNat_lt]
    exact Nat.lt_of_le_of_lt below (by decide)
  have code : ∀ c ∈ l.toList, 0x2D ≤ c.toNat ∧ c.toNat ≤ 0x7A ∧ c.toNat ≠ 0x40 := by
    intro c member
    obtain ⟨b, inside, same⟩ := Utf8.exists_byte_of_ascii ascii member
    rw [same]
    exact range b inside
  refine ⟨?_, fun c member => ?_, fun marked => ?_⟩
  · intro empty
    rw [Utf8.utf8Bytes_eq_flatMap, empty] at filled
    exact filled rfl
  · have bounds := code c member
    simp only [isBlank, Bool.or_eq_false_iff, Bool.and_eq_false_iff, decide_eq_false_iff_not, beq_eq_false_iff_ne]
    omega
  · exact (code '@' marked).2.2 rfl

/-- Behind a dot in a label no label stands. -/
theorem eq_of_dotted {e : Encoding} {l : String} (label : l ∈ e.labels) (dot : '.' ∈ l.toList) :
    l = "ansi_x3.4-1968" := by
  apply dotted_label e (mem_all e) l label
  rw [← Utf8.utf8Bytes_eq_data, Utf8.utf8Bytes_eq_flatMap, List.mem_flatMap]
  exact ⟨'.', dot, by decide⟩

theorem ofLabel?_isSome_iff {s : String} : (ofLabel? s).isSome = true ↔ ∃ e : Encoding, normalLabel s ∈ e.labels := by
  rw [ofLabel?, List.find?_isSome]
  simp [mem_all]

theorem mem_labels_of_ofLabel? {s : String} {e : Encoding} (known : ofLabel? s = some e) : normalLabel s ∈ e.labels := by
  simpa using List.find?_some known

theorem ofLabel?_congr {s t : String} (same : normalLabel s = normalLabel t) : ofLabel? s = ofLabel? t := by
  simp only [ofLabel?, same]

theorem normalLabel_of_padded {before s after : List Char} (left : ∀ c ∈ before, isAsciiBlank c = true)
    (right : ∀ c ∈ after, isAsciiBlank c = true) (tight : Text.Tight isAsciiBlank s) :
    normalLabel (String.ofList (before ++ (s ++ after))) = lowerAscii (String.ofList s) := by
  have cut : Text.dropRightWhile isAsciiBlank ((before ++ (s ++ after)).dropWhile isAsciiBlank) = s :=
    Text.trimmed_eq_iff.2 ⟨before, after, rfl, left, right, tight⟩
  rw [normalLabel, String.toList_ofList, cut]

theorem Solid.tight_ascii {s : List Char} (h : Solid s) : Text.Tight isAsciiBlank s :=
  ⟨fun c first => mt Text.isBlank_of_isAsciiBlank (h.tight.starts c first),
    fun c last => mt Text.isBlank_of_isAsciiBlank (h.tight.ends c last)⟩

theorem Solid.normalLabel {s : List Char} (h : Solid s) : normalLabel (String.ofList s) = lowerAscii (String.ofList s) := by
  have same : Encoding.normalLabel (String.ofList ([] ++ (s ++ []))) = lowerAscii (String.ofList s) :=
    normalLabel_of_padded nofun nofun h.tight_ascii
  rwa [List.nil_append, List.append_nil] at same

theorem solid_map_toLower_iff {s : List Char} : Solid (s.map Char.toLower) ↔ Solid s := by
  constructor
  · rintro ⟨filled, solid, unmarked⟩
    refine ⟨fun empty => filled (by rw [empty]; rfl), fun c member => ?_, fun marked => ?_⟩
    · rw [← Text.isBlank_toLower]
      exact solid _ (List.mem_map_of_mem member)
    · exact unmarked (List.mem_map.2 ⟨'@', marked, rfl⟩)
  · rintro ⟨filled, solid, unmarked⟩
    refine ⟨by simpa using filled, fun c member => ?_, fun marked => ?_⟩
    · obtain ⟨d, inside, rfl⟩ := List.mem_map.1 member
      rw [Text.isBlank_toLower]
      exact solid d inside
    · obtain ⟨d, inside, same⟩ := List.mem_map.1 marked
      rw [Text.toLower_eq_iff rfl] at same
      exact unmarked (same ▸ inside)

theorem Solid.ofLabel?_lowerAscii {s : List Char} (h : Solid s) :
    ofLabel? (lowerAscii (String.ofList s)) = ofLabel? (String.ofList s) := by
  apply ofLabel?_congr
  rw [Text.lowerAscii_ofList, (solid_map_toLower_iff.2 h).normalLabel, h.normalLabel, ← Text.lowerAscii_ofList,
    Text.lowerAscii_lowerAscii]

theorem forLabel_of_solid {s : String} (h : Solid s.toList) : forLabel s = (ofLabel? s).getD .utf8 := by
  have cut : Text.dropRightWhile isBlank (s.toList.dropWhile isBlank) = s.toList :=
    Text.trimmed_eq_iff.2 ⟨[], [], by simp, nofun, nofun, h.tight⟩
  rw [forLabel, Text.trim, Text.dropBlanks, cut, String.ofList_toList]

theorem Solid.ofLabel?_isSome {s : List Char} {e : Encoding} (h : Solid s)
    (label : lowerAscii (String.ofList s) ∈ e.labels) : (ofLabel? (String.ofList s)).isSome = true :=
  ofLabel?_isSome_iff.2 ⟨e, by rwa [h.normalLabel]⟩

theorem exists_solid {s : List Char} {e : Encoding} (known : ofLabel? (String.ofList s) = some e) :
    ∃ before core after, s = before ++ (core ++ after) ∧ (∀ c ∈ before, isAsciiBlank c = true) ∧
      (∀ c ∈ after, isAsciiBlank c = true) ∧ Solid core ∧ lowerAscii (String.ofList core) ∈ e.labels := by
  obtain ⟨before, after, whole, left, right, tight⟩ :=
    Text.trimmed_eq_iff.1 (rfl : Text.dropRightWhile isAsciiBlank (s.dropWhile isAsciiBlank) = _)
  generalize Text.dropRightWhile isAsciiBlank (s.dropWhile isAsciiBlank) = core at *
  have label := mem_labels_of_ofLabel? known
  rw [whole, normalLabel_of_padded left right tight] at label
  have solid := solid_of_label label
  rw [Text.toList_lowerAscii, String.toList_ofList, solid_map_toLower_iff] at solid
  exact ⟨before, core, after, whole, left, right, solid, label⟩

theorem solid_of_tight {s : List Char} {e : Encoding} (known : ofLabel? (String.ofList s) = some e)
    (tight : Text.Tight isAsciiBlank s) : Solid s := by
  obtain ⟨before, core, after, whole, left, right, solid, -⟩ := exists_solid known
  have cut := Text.trimmed_eq_iff.2 ⟨before, after, whole, left, right, solid.tight_ascii⟩
  have uncut : Text.dropRightWhile isAsciiBlank (s.dropWhile isAsciiBlank) = s :=
    Text.trimmed_eq_iff.2 ⟨[], [], by simp, nofun, nofun, tight⟩
  rw [uncut] at cut
  rwa [cut]

end Encoding

end ScriptRunner
