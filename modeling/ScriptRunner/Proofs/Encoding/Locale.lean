import Mathlib.Data.List.TakeWhile
import ScriptRunner.Encoding.Locale
import ScriptRunner.Proofs.Encoding.Label

namespace ScriptRunner.Locale

open Encoding (Solid ofLabel? normalLabel)
open Text (isBlank isAsciiBlank lowerAscii Tight)

theorem afterLastDot_of_no_dot {s : List Char} (plain : '.' ∉ s) : afterLastDot s = s := by
  have inside := Text.forall_bne_iff.2 (mt List.mem_reverse.1 plain)
  rw [afterLastDot, List.takeWhile_eq_self_iff.2 inside, List.reverse_reverse]

theorem afterLastDot_append {s t : List Char} (plain : '.' ∉ t) : afterLastDot (s ++ '.' :: t) = t := by
  have whole : (s ++ '.' :: t).reverse = t.reverse ++ '.' :: s.reverse := by simp
  have inside := Text.forall_bne_iff.2 (mt List.mem_reverse.1 plain)
  have taken := ((Text.span_iff (· != '.') _ _ _).2 ⟨whole, inside, by simp⟩).1
  rw [afterLastDot, taken, List.reverse_reverse]

theorem exists_last_dot {s : List Char} (dot : '.' ∈ s) : ∃ u v, s = u ++ '.' :: v ∧ '.' ∉ v := by
  obtain ⟨v, u, whole, plain⟩ := List.eq_append_cons_of_mem (List.mem_reverse.2 dot)
  refine ⟨u.reverse, v.reverse, ?_, by simpa using plain⟩
  simpa using congrArg List.reverse whole

theorem dot_not_mem_afterLastDot (s : List Char) : '.' ∉ afterLastDot s := by
  rw [afterLastDot, List.mem_reverse]
  exact Text.not_mem_takeWhile_bne '.' s.reverse

theorem mem_of_mem_afterLastDot {c : Char} {s : List Char} (member : c ∈ afterLastDot s) : c ∈ s := by
  have inside := (List.takeWhile_prefix _).subset (List.mem_reverse.1 member)
  exact List.mem_reverse.1 inside

def trimmed (s : List Char) : List Char := Text.dropRightWhile isBlank (s.dropWhile isBlank)

def named (answer : List Char) : List Char := beforeModifier (trimmed answer)

def picked (name : List Char) : List Char :=
  trimmed (if (ofLabel? (String.ofList name)).isSome then name else afterLastDot name)

theorem charset?_eq (answer : String) : charset? answer =
    if picked (named answer.toList) = [] then none
    else some (lowerAscii (String.ofList (picked (named answer.toList)))) := by
  have name : beforeModifier (Text.trim answer).toList = named answer.toList := by
    rw [Text.trim, String.toList_ofList]
    rfl
  have cut : Text.trim (if (ofLabel? (String.ofList (named answer.toList))).isSome then
      String.ofList (named answer.toList) else String.ofList (afterLastDot (named answer.toList))) =
        String.ofList (picked (named answer.toList)) := by
    unfold Text.trim picked
    split <;> rw [String.toList_ofList] <;> rfl
  simp only [charset?, name, String.toList_ofList, cut]
  simp

theorem named_of_tight {before name after : List Char} (left : ∀ c ∈ before, isBlank c = true)
    (right : ∀ c ∈ after, isBlank c = true) (tight : Tight isBlank name) (unmarked : '@' ∉ name) :
    named (before ++ (name ++ after)) = name := by
  have cut : trimmed (before ++ (name ++ after)) = name :=
    Text.trimmed_eq_iff.2 ⟨before, after, rfl, left, right, tight⟩
  rw [named, cut, beforeModifier, List.takeWhile_eq_self_iff]
  exact Text.forall_bne_iff.2 unmarked

theorem named_of_modifier {before name modifier : List Char} (left : ∀ c ∈ before, isBlank c = true)
    (starts : ∀ c ∈ name.head?, ¬ isBlank c = true) (unmarked : '@' ∉ name) :
    named (before ++ (name ++ '@' :: modifier)) = name := by
  -- The end of the modifier may be cut off, its sign and what stands in front of it may not.
  obtain ⟨after, whole, right, ends⟩ :=
    Text.dropRightWhile_eq_iff.1 (rfl : Text.dropRightWhile isBlank modifier = _)
  generalize Text.dropRightWhile isBlank modifier = kept at *
  have tight : Tight isBlank (name ++ '@' :: kept) := .append_cons (by decide) starts ends
  have cut : trimmed (before ++ (name ++ '@' :: modifier)) = name ++ '@' :: kept :=
    Text.trimmed_eq_iff.2 ⟨before, after, by simp [whole], left, right, tight⟩
  have inside := Text.forall_bne_iff.2 unmarked
  rw [named, cut, beforeModifier]
  exact ((Text.span_iff (· != '@') _ name ('@' :: kept)).2 ⟨rfl, inside, by simp⟩).1

theorem at_not_mem_named (answer : List Char) : '@' ∉ named answer := Text.not_mem_takeWhile_bne '@' (trimmed answer)

theorem picked_of_label {before core after : List Char} {e : Encoding} (left : ∀ c ∈ before, isAsciiBlank c = true)
    (right : ∀ c ∈ after, isAsciiBlank c = true) (solid : Solid core)
    (known : ofLabel? (String.ofList core) = some e) : picked (before ++ (core ++ after)) = core := by
  have same : ofLabel? (String.ofList (before ++ (core ++ after))) = ofLabel? (String.ofList core) := by
    apply Encoding.ofLabel?_congr
    rw [Encoding.normalLabel_of_padded left right solid.tight_ascii, solid.normalLabel]
  rw [picked, same, known]
  refine Text.trimmed_eq_iff.2 ⟨before, after, rfl, ?_, ?_, solid.tight⟩
  · exact fun c member => Text.isBlank_of_isAsciiBlank (left c member)
  · exact fun c member => Text.isBlank_of_isAsciiBlank (right c member)

theorem not_dot_of_isBlank {s : List Char} (blank : ∀ c ∈ s, isBlank c = true) : '.' ∉ s :=
  fun member => absurd (blank '.' member) (by decide)

/-- What stands behind the last dot of a label is no label. -/
theorem ofLabel?_afterLastDot {e : Encoding} {l : String} (label : l ∈ e.labels) {u v : List Char}
    (dotted : l.toList = u ++ '.' :: v) (plain : '.' ∉ v) : ofLabel? (String.ofList v) = none := by
  have last := afterLastDot_append (s := u) plain
  rw [← dotted, Encoding.eq_of_dotted label (by simp [dotted])] at last
  rw [← last]
  decide +kernel

theorem dropRightWhile_solid (front : List Char) {core gap : List Char} (solid : Solid core)
    (right : ∀ c ∈ gap, isBlank c = true) :
    Text.dropRightWhile isBlank (front ++ (core ++ gap)) = front ++ core := by
  refine Text.dropRightWhile_eq_iff.2 ⟨gap, by simp, right, ?_⟩
  intro c last
  rw [List.getLast?_append_of_ne_nil _ solid.filled] at last
  exact solid.tight.ends c last

theorem ofLabel?_of_dotted {front core gap : List Char} {e : Encoding} (right : ∀ c ∈ gap, isBlank c = true)
    (solid : Solid core) (plain : '.' ∉ core) (known : ofLabel? (String.ofList core) = some e) :
    ofLabel? (String.ofList (front ++ '.' :: (core ++ gap))) = none := by
  rw [Option.eq_none_iff_forall_ne_some]
  intro d whole
  -- Were the whole name a label, it would have a dot, and `core` would stand behind its last dot. No label stands there.
  obtain ⟨before, core', after, same, left, right', solid', label⟩ := Encoding.exists_solid whole
  have cut := dropRightWhile_solid (front ++ ['.']) solid right
  have cut' := dropRightWhile_solid before solid' fun c member => Text.isBlank_of_isAsciiBlank (right' c member)
  rw [List.append_assoc, List.singleton_append, same, cut', List.append_assoc, List.singleton_append] at cut
  have dot : '.' ∈ core' := by
    have member : '.' ∈ before ++ core' := by simp [cut]
    refine (List.mem_append.1 member).resolve_left ?_
    exact not_dot_of_isBlank fun c member => Text.isBlank_of_isAsciiBlank (left c member)
  obtain ⟨u, v, rfl, plain'⟩ := exists_last_dot dot
  have tail : v = core := by
    have last := congrArg afterLastDot cut
    rwa [← List.append_assoc, afterLastDot_append plain', afterLastDot_append plain] at last
  subst tail
  have lowered : (lowerAscii (String.ofList (u ++ '.' :: v))).toList =
      u.map Char.toLower ++ '.' :: v.map Char.toLower := by
    simp [Text.toList_lowerAscii]
  have plainLower : '.' ∉ v.map Char.toLower := by
    simpa [Text.toLower_eq_iff (d := '.') rfl] using plain
  have unknown := ofLabel?_afterLastDot label lowered plainLower
  rw [← Text.lowerAscii_ofList, solid.ofLabel?_lowerAscii, known] at unknown
  cases unknown

theorem picked_of_dotted {front core gap : List Char} {e : Encoding} (right : ∀ c ∈ gap, isBlank c = true)
    (solid : Solid core) (plain : '.' ∉ core) (known : ofLabel? (String.ofList core) = some e) :
    picked (front ++ '.' :: (core ++ gap)) = core := by
  have last : '.' ∉ core ++ gap := by
    rw [List.mem_append, not_or]
    exact ⟨plain, not_dot_of_isBlank right⟩
  rw [picked, ofLabel?_of_dotted right solid plain known, afterLastDot_append last]
  exact Text.trimmed_eq_iff.2 ⟨[], gap, rfl, nofun, right, solid.tight⟩

theorem named_of_gap {before label gap modifier : List Char} (left : ∀ c ∈ before, isBlank c = true)
    (between : ∀ c ∈ gap, isBlank c = true) (solid : Solid label) :
    named (before ++ (label ++ gap ++ '@' :: modifier)) = label ++ gap := by
  refine named_of_modifier left ?_ ?_
  · intro c first
    rw [List.head?_append_of_ne_nil _ solid.filled] at first
    exact solid.tight.starts c first
  · rw [List.mem_append, not_or]
    exact ⟨solid.unmarked, fun member => absurd (between '@' member) (by decide)⟩

theorem picked_named_of_label {before label after : List Char} {e : Encoding} (left : ∀ c ∈ before, isBlank c = true)
    (right : ∀ c ∈ after, isBlank c = true) (solid : Solid label) (known : ofLabel? (String.ofList label) = some e) :
    picked (named (before ++ (label ++ after))) = label := by
  rw [named_of_tight left right solid.tight solid.unmarked]
  have bare : picked ([] ++ (label ++ [])) = label := picked_of_label nofun nofun solid known
  simpa using bare

theorem picked_named_of_label_modifier {before label gap : List Char} {e : Encoding}
    (left : ∀ c ∈ before, isBlank c = true) (between : ∀ c ∈ gap, isAsciiBlank c = true) (solid : Solid label)
    (known : ofLabel? (String.ofList label) = some e) (modifier : List Char) :
    picked (named (before ++ (label ++ gap ++ '@' :: modifier))) = label := by
  rw [named_of_gap left (fun c member => Text.isBlank_of_isAsciiBlank (between c member)) solid]
  have found : picked ([] ++ (label ++ gap)) = label := picked_of_label nofun between solid known
  simpa using found

theorem picked_named_of_plain_modifier {before label gap : List Char} (left : ∀ c ∈ before, isBlank c = true)
    (between : ∀ c ∈ gap, isBlank c = true) (solid : Solid label) (plain : '.' ∉ label) (modifier : List Char) :
    picked (named (before ++ (label ++ gap ++ '@' :: modifier))) = label := by
  have whole : '.' ∉ label ++ gap := by
    rw [List.mem_append, not_or]
    exact ⟨plain, not_dot_of_isBlank between⟩
  -- White space beyond ASCII makes the label unknown, but then the name has no dot to cut at.
  rw [named_of_gap left between solid, picked, afterLastDot_of_no_dot whole, ite_self]
  exact Text.trimmed_eq_iff.2 ⟨[], gap, rfl, nofun, between, solid.tight⟩

theorem exists_front (front : List Char) : ∃ before rest, front = before ++ rest ∧ (∀ c ∈ before, isBlank c = true) ∧
    ∀ c ∈ rest.head?, ¬ isBlank c = true := by
  obtain ⟨before, whole, left, starts⟩ := Text.dropWhile_eq_iff.1 (rfl : front.dropWhile isBlank = _)
  exact ⟨before, _, whole, left, starts⟩

theorem picked_named_of_front {front label after : List Char} {e : Encoding} (free : '@' ∉ front)
    (right : ∀ c ∈ after, isBlank c = true) (solid : Solid label) (plain : '.' ∉ label)
    (known : ofLabel? (String.ofList label) = some e) : picked (named (front ++ '.' :: (label ++ after))) = label := by
  obtain ⟨before, rest, rfl, left, starts⟩ := exists_front front
  have tight : Tight isBlank (rest ++ '.' :: label) := .append_cons (by decide) starts solid.tight.ends
  have unmarked : '@' ∉ rest ++ '.' :: label := by
    have outside : '@' ∉ rest := fun member => free (List.mem_append_right before member)
    simp [outside, solid.unmarked]
  have shape : before ++ rest ++ '.' :: (label ++ after) = before ++ (rest ++ '.' :: label ++ after) := by simp
  have found : picked (rest ++ '.' :: (label ++ [])) = label := picked_of_dotted nofun solid plain known
  rw [List.append_nil] at found
  rw [shape, named_of_tight left right tight unmarked, found]

theorem picked_named_of_front_modifier {front label gap : List Char} {e : Encoding} (free : '@' ∉ front)
    (between : ∀ c ∈ gap, isBlank c = true) (solid : Solid label) (plain : '.' ∉ label)
    (known : ofLabel? (String.ofList label) = some e) (modifier : List Char) :
    picked (named (front ++ '.' :: (label ++ gap ++ '@' :: modifier))) = label := by
  obtain ⟨before, rest, rfl, left, starts⟩ := exists_front front
  have unmarked : '@' ∉ rest ++ '.' :: (label ++ gap) := by
    have outside : '@' ∉ rest := fun member => free (List.mem_append_right before member)
    have apart : '@' ∉ gap := fun member => absurd (between '@' member) (by decide)
    simp [outside, apart, solid.unmarked]
  have shape : before ++ rest ++ '.' :: (label ++ gap ++ '@' :: modifier) =
      before ++ (rest ++ '.' :: (label ++ gap) ++ '@' :: modifier) := by simp
  have first := Text.starts_append_cons (d := '.') (by decide) starts (label ++ gap)
  rw [shape, named_of_modifier left first unmarked]
  exact picked_of_dotted between solid plain known

/-- How a charset is written: in lower case, without anything around it, and with dots only where a label has them.
Read as a locale it stands for itself. -/
structure Charset (charset : String) : Prop where
  filled : charset ≠ ""
  unmarked : '@' ∉ charset.toList
  lower : ∀ c ∈ charset.toList, c.isUpper = false
  tight : Tight isBlank charset.toList
  dotted : '.' ∈ charset.toList → (ofLabel? charset).isSome = true
  fixed : charset? charset = some charset

theorem charset?_of_picked {answer : String} {core : List Char} (filled : core ≠ [])
    (found : picked (named answer.toList) = core) : charset? answer = some (lowerAscii (String.ofList core)) := by
  rw [charset?_eq, found, if_neg filled]

theorem charset?_of_tight {charset : String} (filled : charset.toList ≠ []) (tight : Tight isBlank charset.toList)
    (unmarked : '@' ∉ charset.toList) (dotted : '.' ∈ charset.toList → (ofLabel? charset).isSome = true) :
    charset? charset = some (lowerAscii charset) := by
  have name : named charset.toList = charset.toList := by
    have bare : named ([] ++ (charset.toList ++ [])) = charset.toList := named_of_tight nofun nofun tight unmarked
    simpa using bare
  have cut : trimmed charset.toList = charset.toList :=
    Text.trimmed_eq_iff.2 ⟨[], [], by simp, nofun, nofun, tight⟩
  have found : picked (named charset.toList) = charset.toList := by
    rw [name, picked, String.ofList_toList]
    split
    · exact cut
    · next unknown => rw [afterLastDot_of_no_dot (mt dotted unknown), cut]
  have read := charset?_of_picked filled found
  rwa [String.ofList_toList] at read

theorem tight_map_toLower {s : List Char} (h : Tight isBlank s) : Tight isBlank (s.map Char.toLower) := by
  constructor
  · intro c first
    rw [List.head?_map] at first
    obtain ⟨d, head, rfl⟩ := Option.map_eq_some_iff.1 first
    rw [Text.isBlank_toLower]
    exact h.starts d head
  · intro c last
    rw [List.getLast?_map] at last
    obtain ⟨d, final, rfl⟩ := Option.map_eq_some_iff.1 last
    rw [Text.isBlank_toLower]
    exact h.ends d final

theorem charset_of_tight {core : List Char} (filled : core ≠ []) (tight : Tight isBlank core) (unmarked : '@' ∉ core)
    (dotted : '.' ∈ core → (ofLabel? (lowerAscii (String.ofList core))).isSome = true) :
    Charset (lowerAscii (String.ofList core)) := by
  have shape : (lowerAscii (String.ofList core)).toList = core.map Char.toLower := by
    rw [Text.toList_lowerAscii, String.toList_ofList]
  have filled' : core.map Char.toLower ≠ [] := by simpa using filled
  have unmarked' : '@' ∉ core.map Char.toLower := by
    simpa [Text.toLower_eq_iff (d := '@') rfl] using unmarked
  have dotted' : '.' ∈ core.map Char.toLower → (ofLabel? (lowerAscii (String.ofList core))).isSome = true := by
    simpa [Text.toLower_eq_iff (d := '.') rfl] using dotted
  have tight' := tight_map_toLower tight
  rw [← shape] at filled' tight' unmarked' dotted'
  have fixed := charset?_of_tight filled' tight' unmarked' dotted'
  rw [Text.lowerAscii_lowerAscii] at fixed
  exact ⟨fun empty => filled' (by rw [empty]; rfl), unmarked', fun c => Text.not_isUpper_of_mem_lowerAscii, tight',
    dotted', fixed⟩

theorem charset_of_charset? {answer charset : String} (read : charset? answer = some charset) : Charset charset := by
  have unmarked := at_not_mem_named answer.toList
  rw [charset?_eq] at read
  generalize named answer.toList = name at *
  split at read
  · cases read
  · next filled =>
    cases read
    by_cases whole : (ofLabel? (String.ofList name)).isSome = true
    · obtain ⟨e, known⟩ := Option.isSome_iff_exists.1 whole
      obtain ⟨before, core, after, rfl, left, right, solid, label⟩ := Encoding.exists_solid known
      have cut : picked (before ++ (core ++ after)) = core := by
        rw [picked, if_pos whole]
        refine Text.trimmed_eq_iff.2 ⟨before, after, rfl, ?_, ?_, solid.tight⟩
        · exact fun c member => Text.isBlank_of_isAsciiBlank (left c member)
        · exact fun c member => Text.isBlank_of_isAsciiBlank (right c member)
      rw [cut]
      refine charset_of_tight solid.filled solid.tight solid.unmarked fun _ => ?_
      rw [solid.ofLabel?_lowerAscii]
      exact solid.ofLabel?_isSome label
    · have cut : picked name = trimmed (afterLastDot name) := by rw [picked, if_neg whole]
      obtain ⟨before, after, split, -, -, tight⟩ := Text.trimmed_eq_iff.1 cut.symm
      have inside : ∀ c ∈ picked name, c ∈ afterLastDot name := by
        intro c member
        rw [split]
        simp [member]
      refine charset_of_tight filled tight (fun marked => ?_) fun dot => ?_
      · exact unmarked (mem_of_mem_afterLastDot (inside '@' marked))
      · exact absurd (inside '.' dot) (dot_not_mem_afterLastDot name)

/-- A label is found in all its spellings: in any case, with white space around it, and in front of a modifier, from which
white space of ASCII may divide it. If it has no dots, it is found behind a territory too, and any white space may divide
it from a modifier. What is found in any text is a charset that stands for itself. -/
theorem charset?_finds_label :
    (∀ (label : String) (e : Encoding), ofLabel? label = some e → Tight isAsciiBlank label.toList →
      ∀ before after modifier : String, Text.blank before = true → Text.blank after = true →
        charset? (before ++ label ++ after) = some (lowerAscii label) ∧
        charset? (before ++ label ++ "@" ++ modifier) = some (lowerAscii label) ∧
        ((∀ c ∈ after.toList, isAsciiBlank c = true) →
          charset? (before ++ label ++ after ++ "@" ++ modifier) = some (lowerAscii label)) ∧
        ('.' ∉ label.toList →
          charset? (before ++ label ++ after ++ "@" ++ modifier) = some (lowerAscii label) ∧
          ∀ front : String, '@' ∉ front.toList →
            charset? (front ++ "." ++ label ++ after) = some (lowerAscii label) ∧
            charset? (front ++ "." ++ label ++ after ++ "@" ++ modifier) = some (lowerAscii label)) ∧
        Encoding.forLabel (lowerAscii label) = e) ∧
    ∀ answer charset, charset? answer = some charset → Charset charset := by
  refine ⟨?_, fun _ _ => charset_of_charset?⟩
  intro label e known unpadded before after modifier left right
  rw [Text.blank, List.all_eq_true] at left right
  have given : ofLabel? (String.ofList label.toList) = some e := by rwa [String.ofList_toList]
  have solid := Encoding.solid_of_tight given unpadded
  have answer (text : String) (found : picked (named text.toList) = label.toList) :
      charset? text = some (lowerAscii label) := by
    have read := charset?_of_picked solid.filled found
    rwa [String.ofList_toList] at read
  refine ⟨answer _ ?_, answer _ ?_, fun between => answer _ ?_, fun plain => ⟨answer _ ?_, fun front free => ⟨?_, ?_⟩⟩,
    ?_⟩
  · simpa using picked_named_of_label left right solid given
  · have undivided : ∀ c ∈ [], isAsciiBlank c = true := nofun
    simpa using picked_named_of_label_modifier left undivided solid given modifier.toList
  · simpa using picked_named_of_label_modifier left between solid given modifier.toList
  · simpa using picked_named_of_plain_modifier left right solid plain modifier.toList
  · apply answer
    simpa using picked_named_of_front free right solid plain given
  · apply answer
    simpa using picked_named_of_front_modifier free right solid plain given modifier.toList
  · have same := solid.ofLabel?_lowerAscii
    rw [String.ofList_toList] at same
    rw [Encoding.forLabel_of_solid (Text.toList_lowerAscii label ▸ Encoding.solid_map_toLower_iff.2 solid), same, known]
    rfl

/-- A label with dots, and one without them behind a territory that has some. -/
theorem charset?_finds_label_with_dots :
    (ofLabel? "ANSI_X3.4-1968" = some .windows1252 ∧
      charset? ("\u3000" ++ "ANSI_X3.4-1968" ++ "\n") = some "ansi_x3.4-1968" ∧
      charset? ("\u3000" ++ "ANSI_X3.4-1968" ++ "@" ++ "x.y@z") = some "ansi_x3.4-1968" ∧
      charset? ("\u3000" ++ "ANSI_X3.4-1968" ++ "\n" ++ "@" ++ "x.y@z") = some "ansi_x3.4-1968" ∧
      Encoding.forLabel "ansi_x3.4-1968" = .windows1252) ∧
    (ofLabel? "Big5-HKSCS" = some .big5 ∧
      charset? ("" ++ "Big5-HKSCS" ++ "\u00A0" ++ "@" ++ "stroke.1 ") = some "big5-hkscs" ∧
      charset? (" zh_HK.x" ++ "." ++ "Big5-HKSCS" ++ "\u00A0") = some "big5-hkscs" ∧
      charset? (" zh_HK.x" ++ "." ++ "Big5-HKSCS" ++ "\u00A0" ++ "@" ++ "stroke.1 ") = some "big5-hkscs" ∧
      Encoding.forLabel "big5-hkscs" = .big5) ∧
    charset? "de_DE. 8\t " = some "8" ∧ Charset "8" := by
  have ansi : ofLabel? "ANSI_X3.4-1968" = some .windows1252 := by decide +kernel
  have lowerAnsi : lowerAscii "ANSI_X3.4-1968" = "ansi_x3.4-1968" := by decide +kernel
  have found := charset?_finds_label.1 "ANSI_X3.4-1968" _ ansi ⟨by rintro _ ⟨⟩; decide, by rintro _ ⟨⟩; decide⟩
    "\u3000" "\n" "x.y@z" (by decide) (by decide)
  rw [lowerAnsi] at found
  obtain ⟨bare, modified, divided, -, meant⟩ := found
  have big5 : ofLabel? "Big5-HKSCS" = some .big5 := by decide +kernel
  have lowerBig5 : lowerAscii "Big5-HKSCS" = "big5-hkscs" := by decide +kernel
  have found' := charset?_finds_label.1 "Big5-HKSCS" _ big5 ⟨by rintro _ ⟨⟩; decide, by rintro _ ⟨⟩; decide⟩
    "" "\u00A0" "stroke.1 " (by decide) (by decide)
  rw [lowerBig5] at found'
  obtain ⟨-, -, -, plain, meant'⟩ := found'
  obtain ⟨divided', behind⟩ := plain (by decide)
  obtain ⟨bare', modified'⟩ := behind " zh_HK.x" (by decide)
  have other : charset? "de_DE. 8\t " = some "8" := by decide +kernel
  exact ⟨⟨ansi, bare, modified, divided (by simp [isAsciiBlank]), meant⟩,
    ⟨big5, divided', bare', modified', meant'⟩, other, charset?_finds_label.2 _ _ other⟩

end ScriptRunner.Locale
