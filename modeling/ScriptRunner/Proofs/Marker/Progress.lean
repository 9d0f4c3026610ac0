import Mathlib.Logic.Relation
import ScriptRunner.Proofs.Marker.Scanner

namespace ScriptRunner

namespace Marker

open Text (from?)
open String (utf8Len)

/-- What a step does to the position, whatever the text. -/
inductive Moves : Place → Place → Prop where
  | jump (pos offset : Nat) : Moves (.seeking pos) (.colons (pos + offset))
  | stop (pos : Nat) : Moves (.seeking pos) (.finished pos)
  | word {w : List Char} (start : Nat) (marker : w ∈ words) :
      Moves (.colons start) (.behindWord start (start + utf8Len w))
  | gap (start pos : Nat) (gap : List Char) :
      Moves (.behindWord start pos) (.behindGap start (pos + utf8Len gap) gap)
  | key {gap : List Char} (start pos : Nat) (apart : gap ≠ []) (key : List Char) :
      Moves (.behindGap start pos gap) (.behindKey start (pos + utf8Len key) key)
  | equals {key : List Char} (start pos : Nat) (named : key ≠ []) :
      Moves (.behindKey start pos key) (.behindEquals start (pos + 1) key)
  | value (start pos size : Nat) (key value : List Char) :
      Moves (.behindEquals start pos key) (.found (pos + size) ⟨key, value⟩)
  | noWord (start : Nat) : Moves (.colons start) (.seeking (start + 2))
  | noGap (start pos : Nat) (gap : List Char) : Moves (.behindGap start pos gap) (.seeking (start + 2))
  | noEquals (start pos : Nat) (key : List Char) : Moves (.behindKey start pos key) (.seeking (start + 2))
  | noValue (start pos : Nat) (key : List Char) : Moves (.behindEquals start pos key) (.seeking (start + 2))
  | again (pos : Nat) (p : Pair) : Moves (.found pos p) (.seeking pos)
  | anew (pos : Nat) : Moves (.finished pos) (.seeking pos)

section Progress

variable {text : List Char} {c d : Place} {base size : Nat}

theorem run?_moves {p : Char → Bool} {pos next : Nat} {taken : List Char} (run : run? p text pos = some (taken, next)) :
    next = pos + utf8Len taken := by
  obtain ⟨rest, here, -⟩ := Option.bind_eq_some_iff.1 run
  rw [run?_eq p here] at run
  cases run
  rfl

theorem valueFrom?_moves {pos next : Nat} {value : List Char} (read : valueFrom? text pos = some (some (value, next))) :
    ∃ size, next = pos + size := by
  obtain ⟨rest, here, -⟩ := Option.bind_eq_some_iff.1 read
  rw [valueFrom?_eq here, Option.some.injEq] at read
  obtain ⟨⟨v, after⟩, -, same⟩ := Option.map_eq_some_iff.1 read
  cases same
  exact ⟨_, rfl⟩

theorem moves_of_next? (next : c.next? text = some d) : Moves c d := by
  cases c with
  | seeking pos =>
    obtain ⟨rest, -, next⟩ := Option.bind_eq_some_iff.1 next
    split at next <;> cases next
    · exact .stop pos
    · exact .jump pos _
  | colons start =>
    obtain ⟨rest, -, next⟩ := Option.bind_eq_some_iff.1 next
    split at next
    · cases next
      exact .noWord start
    · next word marker =>
      cases next
      exact .word start (List.mem_of_find?_eq_some marker)
  | behindWord start pos =>
    obtain ⟨⟨gap, behind⟩, run, next⟩ := Option.bind_eq_some_iff.1 next
    cases next
    rw [run?_moves run]
    exact .gap start pos gap
  | behindGap start pos gap =>
    rw [Place.next?] at next
    split at next
    · cases next
      exact .noGap start pos gap
    · next apart =>
      obtain ⟨⟨key, behind⟩, run, next⟩ := Option.bind_eq_some_iff.1 next
      cases next
      rw [run?_moves run]
      exact .key start pos apart key
  | behindKey start pos key =>
    rw [Place.next?] at next
    split at next
    · cases next
      exact .noEquals start pos key
    · next named =>
      obtain ⟨rest, -, next⟩ := Option.bind_eq_some_iff.1 next
      split at next <;> cases next
      · exact .equals start pos named
      · exact .noEquals start pos key
  | behindEquals start pos key =>
    obtain ⟨found, read, next⟩ := Option.bind_eq_some_iff.1 next
    split at next
    · cases next
      exact .noValue start pos key
    · cases next
      obtain ⟨size, rfl⟩ := valueFrom?_moves read
      exact .value start pos size key _
  | found pos p =>
    cases next
    exact .again pos p
  | finished pos =>
    cases next
    exact .anew pos

theorem utf8Len_word {w : List Char} (marker : w ∈ words) : 12 ≤ utf8Len w := by
  simp only [words_eq, List.mem_cons, List.not_mem_nil, or_false] at marker
  rcases marker with rfl | rfl <;> decide

theorem utf8Len_pos {s : List Char} (filled : s ≠ []) : 0 < utf8Len s :=
  Nat.pos_of_ne_zero fun empty => filled (String.utf8Len_eq_zero.1 empty)

/-- The scanner has come to a place from the byte `base` or from behind it, and every token has had its bytes. -/
def Place.Spent (base : Nat) : Place → Prop
  | seeking pos => base ≤ pos
  | colons start => base ≤ start
  | behindWord start pos => base ≤ start ∧ start + 12 ≤ pos
  | behindGap start pos gap => base ≤ start ∧ start + 12 + utf8Len gap ≤ pos
  | behindKey start pos key => base ≤ start ∧ start + 13 + utf8Len key ≤ pos
  | behindEquals start pos _ => base ≤ start ∧ start + 15 ≤ pos
  | found pos _ => base + 15 ≤ pos
  | finished pos => base ≤ pos

theorem Place.Spent.le_pos (spent : c.Spent base) : base + 15 * c.handed.length ≤ c.pos := by
  cases c with
  | found pos p | seeking pos | colons start | finished pos => exact spent
  | behindWord start pos | behindGap start pos gap | behindKey start pos key | behindEquals start pos key =>
    simp only [Place.Spent, Place.handed, Place.pos, List.length_nil] at spent ⊢
    omega

theorem Place.Spent.next (spent : c.Spent base) (moves : Moves c d) :
    d.Spent (base + 15 * c.handed.length) := by
  cases moves with
  | word start marker =>
    have size := utf8Len_word marker
    simp only [Place.Spent, Place.handed, List.length_nil] at spent ⊢
    omega
  | key start pos apart key =>
    have size := utf8Len_pos apart
    simp only [Place.Spent, Place.handed, List.length_nil] at spent ⊢
    omega
  | equals start pos named =>
    have size := utf8Len_pos named
    simp only [Place.Spent, Place.handed, List.length_nil] at spent ⊢
    omega
  | _ =>
    simp only [Place.Spent, Place.handed, List.length_nil, List.length_singleton] at spent ⊢
    omega

theorem Place.Spent.mono {lower : Nat} (spent : c.Spent base) (le : lower ≤ base) : c.Spent lower := by
  cases c <;> simp only [Place.Spent] at spent ⊢ <;> omega

theorem Place.Spent.lt {pos : Nat} (spent : c.Spent base) (goesOn : ∀ pos, c ≠ .finished pos)
    (moves : Moves c (.seeking pos)) : base < pos := by
  cases moves with
  | anew => exact absurd rfl (goesOn pos)
  | _ =>
    simp only [Place.Spent] at spent
    omega

def Place.left (size : Nat) : Place → Nat
  | seeking pos => 7 * (size - pos) + 6
  | colons start => 7 * (size - start) + 5
  | behindWord start _ => 7 * (size - start) + 4
  | behindGap start _ _ => 7 * (size - start) + 3
  | behindKey start _ _ => 7 * (size - start) + 2
  | behindEquals start _ _ => 7 * (size - start) + 1
  | found pos _ => 7 * (size - pos) + 7
  | finished _ => 0

theorem Place.left_le (c : Place) (size : Nat) : c.left size ≤ 7 * size + 7 := by
  cases c <;> simp only [Place.left] <;> omega

theorem Place.left_lt (spent : c.Spent base) (goesOn : ∀ pos, c ≠ .finished pos) (moves : Moves c d)
    (within : d.pos ≤ size) : d.left size < c.left size := by
  cases moves with
  | anew pos => exact absurd rfl (goesOn pos)
  | _ =>
    simp only [Place.Spent] at spent
    simp only [Place.pos] at within
    simp only [Place.left]
    omega

end Progress

section Runs

variable {text : List Char} {c d : Place} {ps : List Pair} {n : Nat}

theorem scan?_succ (here : scan? text n = some (c, ps)) (next : c.next? text = some d) :
    scan? text (n + 1) = some (d, ps ++ d.handed) := by
  simp [scan?, here, next]

/-- What holds after any number of steps: the place is sound, and every pair has had its bytes. -/
theorem exists_scan? (text : List Char) (n : Nat) :
    ∃ c ps before, scan? text n = some (c, ps) ∧ Sound text c ps ∧ ps = before ++ c.handed ∧
      c.Spent (15 * before.length) := by
  induction n with
  | zero => exact ⟨.seeking 0, [], [], rfl, .seeking (Text.from?_zero text) rfl, rfl, Nat.zero_le _⟩
  | succ n ih =>
    obtain ⟨c, ps, before, here, sound, rfl, spent⟩ := ih
    obtain ⟨d, next, sound⟩ := sound.advances
    refine ⟨d, _, before ++ c.handed, scan?_succ here next, sound, rfl, ?_⟩
    rw [List.length_append, Nat.mul_add]
    exact spent.next (moves_of_next? next)

theorem Sound.of_scan? (here : scan? text n = some (c, ps)) : Sound text c ps ∧ 15 * ps.length ≤ c.pos := by
  obtain ⟨d, qs, before, same, sound, rfl, spent⟩ := exists_scan? text n
  rw [here] at same
  cases same
  have paid := spent.le_pos
  rw [List.length_append]
  exact ⟨sound, by omega⟩

/-- From every place that it comes to, the scan gets to its end, with all pairs handed over. -/
theorem exists_finished {n base : Nat} {c : Place} {ps : List Pair} (here : scan? text n = some (c, ps))
    (spent : c.Spent base) :
    ∃ m pos, n ≤ m ∧ m ≤ n + c.left (utf8Len text) ∧ scan? text m = some (.finished pos, pairs text) := by
  obtain ⟨sound, -⟩ := Sound.of_scan? here
  by_cases ends : ∃ pos, c = .finished pos
  · obtain ⟨pos, rfl⟩ := ends
    cases sound with
    | finished _ _ left => exact ⟨n, pos, Nat.le_refl n, Nat.le_add_right n _, left ▸ here⟩
  · have goesOn : ∀ pos, c ≠ .finished pos := not_exists.1 ends
    obtain ⟨d, next, after⟩ := sound.advances
    have moves := moves_of_next? next
    have fewer := Place.left_lt spent goesOn moves after.pos_le
    obtain ⟨m, pos, later, bound, finish⟩ := exists_finished (scan?_succ here next) (spent.next moves)
    exact ⟨m, pos, by omega, by omega, finish⟩
termination_by c.left (utf8Len text)

def Leads (text : List Char) : Place → Place → Prop :=
  Relation.TransGen fun c d => (∀ pos, c ≠ .finished pos) ∧ c.next? text = some d

theorem Leads.next {e : Place} (leads : Leads text c d) (goesOn : ∀ pos, d ≠ .finished pos)
    (next : d.next? text = some e) : Leads text c e := Relation.TransGen.tail leads ⟨goesOn, next⟩

theorem Leads.spent {base : Nat} (leads : Leads text c d) (spent : c.Spent base) :
    d.Spent base ∧ ∀ pos, d = .seeking pos → base < pos := by
  have one {b e : Place} (spent : b.Spent base) (step : (∀ pos, b ≠ .finished pos) ∧ b.next? text = some e) :
      e.Spent base ∧ ∀ pos, e = .seeking pos → base < pos := by
    obtain ⟨goesOn, next⟩ := step
    have moves := moves_of_next? next
    refine ⟨(spent.next moves).mono (Nat.le_add_right base _), ?_⟩
    rintro pos rfl
    exact spent.lt goesOn moves
  induction leads with
  | single step => exact one spent step
  | tail _ step ih => exact one ih.1 step

end Runs

/-- Where the scan of a text stands when it has handed over `ps`: at a position that the standard library has in the
bytes of the string. Where a quote stands there, a slice without the first byte is one without the quote. -/
structure Within (text : String) (c : Place) (ps : List Pair) : Prop where
  bounded : c.pos ≤ text.utf8ByteSize
  valid : String.Pos.Raw.IsValid text ⟨c.pos⟩
  quote : ∀ q body, from? text.toList c.pos = some (q :: body) → isQuote q = true →
    q.utf8Size = 1 ∧ from? (q :: body) 1 = some body
  handed : ps <+: pairs text.toList
  paid : 15 * ps.length ≤ c.pos
  ended : ∀ pos, c = .finished pos →
    ps = pairs text.toList ∧ ∃ rest, from? text.toList pos = some rest ∧ colons? rest = none

theorem within_of_scan? {text : String} {n : Nat} {c : Place} {ps : List Pair}
    (here : scan? text.toList n = some (c, ps)) : Within text c ps := by
  obtain ⟨sound, paid⟩ := Sound.of_scan? here
  have bounded := sound.pos_le
  rw [String.utf8Len_toList] at bounded
  refine ⟨bounded, Text.isValid_iff.2 sound.exists_from?, ?_, sound.prefix_pairs, paid, ?_⟩
  · intro q body _ quote
    exact ⟨utf8Size_of_isQuote quote, from?_quote quote body⟩
  · rintro pos rfl
    cases sound with
    | finished here nowhere left => exact ⟨left.symm, _, here, nowhere⟩

end Marker

open Marker (Place Pair Leads Within scan? pairs)

/-- A scan by bytes never comes to a fault. After any number of steps, and so in any number of calls, it stands at a
position of the text, has handed over the first of its pairs, and 15 bytes or more have gone for each of them. Every
iteration begins behind those before it, and a pair is handed over at least 15 bytes behind where its call began. Only
the iteration that finds no colons does not move. This is the end: the scan gets there from everywhere, and has handed
over all pairs then. -/
theorem Outputs.scan_within_text (text : String) :
    (∀ n, ∃ c ps, scan? text.toList n = some (c, ps) ∧ Within text c ps) ∧
    (∀ pos c, Leads text.toList (.seeking pos) c →
      (∀ next, c = .seeking next → pos < next) ∧ (∀ next p, c = .found next p → pos + 15 ≤ next) ∧
      ∀ next, c = .finished next → pos ≤ next) ∧
    (∀ n, ∃ m pos, n ≤ m ∧ m ≤ n + (7 * text.utf8ByteSize + 7) ∧
      scan? text.toList m = some (.finished pos, pairs text.toList)) ∧
    parse text = .ofPairs ((pairs text.toList).map Pair.binding) ∧
    (pairs text.toList).length ≤ text.utf8ByteSize / 15 := by
  have gets_on : ∀ n, ∃ m pos, n ≤ m ∧ m ≤ n + (7 * text.utf8ByteSize + 7) ∧
      scan? text.toList m = some (.finished pos, pairs text.toList) := by
    intro n
    obtain ⟨c, ps, before, here, -, -, spent⟩ := Marker.exists_scan? text.toList n
    obtain ⟨m, pos, later, bound, finish⟩ := Marker.exists_finished here spent
    have most := c.left_le (String.utf8Len text.toList)
    rw [String.utf8Len_toList] at bound most
    exact ⟨m, pos, later, by omega, finish⟩
  refine ⟨?_, ?_, gets_on, rfl, ?_⟩
  · intro n
    obtain ⟨c, ps, -, here, -⟩ := Marker.exists_scan? text.toList n
    exact ⟨c, ps, here, Marker.within_of_scan? here⟩
  · intro pos c leads
    obtain ⟨spent, further⟩ := leads.spent (Nat.le_refl pos)
    refine ⟨further, ?_, ?_⟩
    · rintro next p rfl
      exact spent
    · rintro next rfl
      exact spent
  · obtain ⟨m, pos, -, -, finish⟩ := gets_on 0
    have within := Marker.within_of_scan? finish
    have size := within.paid.trans within.bounded
    omega

/-- Wide characters before a marker, in a quoted value and right behind it, then a marker that a colon hides and one
whose quote stays open. -/
theorem Outputs.scan_of_wide_characters :
    let text := "é::set-output\tK='ß€ x'€:::set-output A=1 ::set-output B=\"ü\n::set-teamsfx-env C=\u2003"
    let first : Pair := ⟨['K'], "ß€ x".toList⟩
    let last : Pair := ⟨['C'], []⟩
    (scan? text.toList 6 = some (.found 26 first, [first]) ∧ Within text (.found 26 first) [first]) ∧
    (Leads text.toList (.seeking 26) (.seeking 31) ∧ 26 < 31) ∧
    (Leads text.toList (.seeking 49) (.found 86 last) ∧ 49 + 15 ≤ 86) ∧
    (pairs text.toList).length ≤ text.utf8ByteSize / 15 := by
  intro text first last
  obtain ⟨stands, leads, -, -, count⟩ := scan_within_text text
  have hidden : Leads text.toList (.seeking 26) (.seeking 31) := by
    have toColons : Leads text.toList (.seeking 26) (.colons 29) := .single ⟨nofun, by decide +kernel⟩
    exact toColons.next nofun (by decide +kernel)
  have open_quote : Leads text.toList (.seeking 49) (.found 86 last) := by
    have toColons : Leads text.toList (.seeking 49) (.colons 66) := .single ⟨nofun, by decide +kernel⟩
    have toWord : Leads text.toList (.seeking 49) (.behindWord 66 83) := toColons.next nofun (by decide +kernel)
    have toGap : Leads text.toList (.seeking 49) (.behindGap 66 84 [' ']) := toWord.next nofun (by decide +kernel)
    have toKey : Leads text.toList (.seeking 49) (.behindKey 66 85 ['C']) := toGap.next nofun (by decide +kernel)
    have toEquals : Leads text.toList (.seeking 49) (.behindEquals 66 86 ['C']) :=
      toKey.next nofun (by decide +kernel)
    exact toEquals.next nofun (by decide +kernel)
  have handed : scan? text.toList 6 = some (.found 26 first, [first]) := by decide +kernel
  obtain ⟨c, ps, here, within⟩ := stands 6
  rw [handed] at here
  cases here
  exact ⟨⟨handed, within⟩, ⟨hidden, (leads _ _ hidden).1 31 rfl⟩, ⟨open_quote, (leads _ _ open_quote).2.1 86 last rfl⟩,
    count⟩

end ScriptRunner
