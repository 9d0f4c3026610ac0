import ScriptRunner.Cli.Args
import ScriptRunner.Proofs.Posix.Machine
import ScriptRunner.Proofs.Marker.Scan

namespace ScriptRunner

namespace Marker

/-- A key of letters, digits and underscores, and a value on one line. -/
structure Pair.Plain (p : Pair) : Prop where
  named : p.key ≠ []
  letters : ∀ c ∈ p.key, KeyChar c
  line : '\n' ∉ p.value

theorem KeyChar.not_newline {c : Char} (h : KeyChar c) : c ≠ '\n' := by
  rintro rfl
  revert h
  unfold KeyChar
  decide

theorem KeyChar.not_equals {c : Char} (h : KeyChar c) : c ≠ '=' := by
  rintro rfl
  revert h
  unfold KeyChar
  decide

theorem ValueAt.line {s value rest : List Char} (h : ValueAt s value rest) : '\n' ∉ value := by
  intro member
  cases h with
  | quoted _ inside => exact (inside '\n' member).2 rfl
  | bare _ inside _ => exact absurd (inside '\n' member).1 (by decide)

theorem AssignmentAt.plain {s rest : List Char} {p : Pair} (h : AssignmentAt s p rest) : p.Plain := by
  obtain ⟨-, -, -, named, letters, given⟩ := h
  exact ⟨named, letters, given.line⟩

theorem plain_of_mem_pairs {s : List Char} {p : Pair} (member : p ∈ pairs s) : p.Plain := by
  fun_induction pairs s with
  | case1 => cases member
  | case2 s first rest found _ ih =>
    obtain ⟨t, -, here⟩ := step_eq_found_iff.1 found
    rcases List.mem_cons.1 member with rfl | later
    · exact here.plain
    · exact ih later
  | case3 s rest resume _ ih => exact ih member

end Marker

open Marker (pairs Pair)

theorem Outputs.exists_pair {text : String} {b : String × String} (member : b ∈ (parse text).entries) :
    ∃ p ∈ pairs text.toList, p.binding = b :=
  List.mem_map.1 (Bindings.mem_of_mem_entries_ofPairs member)

namespace Cli

theorem EnvPair.parse?_of_key {key : String} (named : key ≠ "") (plain : '=' ∉ key.toList) (value : String) :
    parse? (key ++ "=" ++ value) = some (key, value) := by
  have inside := Text.forall_bne_iff.2 plain
  obtain ⟨c, cs, spelled⟩ := List.exists_cons_of_ne_nil (mt String.toList_eq_nil_iff.1 named)
  have whole : (key ++ "=" ++ value).toList = key.toList ++ '=' :: value.toList := by simp
  obtain ⟨taken, dropped⟩ := (Text.span_iff (· != '=') _ key.toList ('=' :: value.toList)).2 ⟨whole, inside, by simp⟩
  simp only [parse?, split, taken, dropped, spelled, Option.map_some]
  rw [← spelled, String.ofList_toList, String.ofList_toList]

/-- Reads a text of lines, each with a name, an equals sign and a value. Behind the end of the last line nothing may
stand. -/
def readListing? (text : String) : Option (List (String × String)) :=
  let pieces := text.toList.splitOn '\n'
  if pieces.getLast? = some [] then pieces.dropLast.mapM fun line => EnvPair.parse? (String.ofList line) else none

def listingLine (b : String × String) : String := b.1 ++ "=" ++ b.2

theorem splitOn_lines {entries : List (String × String)} (whole : ∀ e ∈ entries, '\n' ∉ (listingLine e).toList) :
    (String.join (entries.map fun e => listingLine e ++ "\n")).toList.splitOn '\n' =
      (entries.map fun e => (listingLine e).toList) ++ [[]] := by
  induction entries with
  | nil => rfl
  | cons e entries ih =>
    obtain ⟨first, later⟩ := List.forall_mem_cons.1 whole
    have cut := List.splitOn_append_cons_self_of_not_mem first
      (String.join (entries.map fun e => listingLine e ++ "\n")).toList
    rw [List.map_cons, List.map_cons, String.join_cons, List.cons_append, ← ih later, ← cut]
    simp

/-- Lines are read back where no name has an equals sign and no line ends within. -/
theorem readListing?_renderOutputs {b : Bindings}
    (plain : ∀ e ∈ b.entries, e.1 ≠ "" ∧ '=' ∉ e.1.toList ∧ '\n' ∉ (listingLine e).toList) :
    readListing? (renderOutputs b .text) = some b.entries := by
  have pieces := splitOn_lines fun e member => (plain e member).2.2
  have read : ∀ entries ⊆ b.entries,
      (entries.map fun e => (listingLine e).toList).mapM (fun line => EnvPair.parse? (String.ofList line)) =
        some entries := by
    intro entries within
    induction entries with
    | nil => rfl
    | cons e entries ih =>
      obtain ⟨first, later⟩ := List.cons_subset.1 within
      obtain ⟨named, equals, -⟩ := plain e first
      have here : EnvPair.parse? (listingLine e) = some e := EnvPair.parse?_of_key named equals e.2
      simp [here, ih later]
  have rendered : renderOutputs b .text = String.join (b.entries.map fun e => listingLine e ++ "\n") := rfl
  rw [readListing?, rendered, pieces]
  simpa using read b.entries (List.Subset.refl _)

theorem readListing?_parse (text : String) :
    readListing? (renderOutputs (Outputs.parse text) .text) = some (Outputs.parse text).entries := by
  apply readListing?_renderOutputs
  intro b member
  obtain ⟨p, found, rfl⟩ := Outputs.exists_pair member
  have plain := Marker.plain_of_mem_pairs found
  refine ⟨?_, ?_, ?_⟩
  · simpa [Pair.binding] using plain.named
  · simpa [Pair.binding] using fun equals => (plain.letters '=' equals).not_equals rfl
  · have key : '\n' ∉ p.key := fun newline => (plain.letters '\n' newline).not_newline rfl
    simpa [Pair.binding, listingLine] using ⟨key, plain.line⟩

end Cli

theorem Call.exists_parse {σ : Type} {sys : System σ} {c : Call σ} {s : σ} {outputs : Outputs}
    (answer : (c.run sys s).1.result = .ok outputs) : ∃ text, outputs = .parse text := by
  obtain ⟨text, s', success, -⟩ := result_ok_iff.1 answer
  cases success with
  | shown => exact ⟨_, rfl⟩
  | printed => exact ⟨text, rfl⟩

open Cli (readListing? renderOutputs)
open Posix (Machine)

/-- The lines that show the outputs of a text, or of a run, are read back as these outputs. A scan finds names of
letters, digits and underscores only, and values on one line only, so that no value can split a line or forge one. -/
theorem Outputs.readListing_rendered (text : String) :
    readListing? (renderOutputs (parse text) .text) = some (parse text).entries ∧
    (∀ p ∈ pairs text.toList, p.Plain) ∧
    (∀ other, renderOutputs (parse other) .text = renderOutputs (parse text) .text → parse other = parse text) ∧
    ∀ {σ : Type} (sys : System σ) (c : Call σ) (s : σ) (outputs : Outputs),
      (c.run sys s).1.result = .ok outputs → readListing? (renderOutputs outputs .text) = some outputs.entries := by
  refine ⟨Cli.readListing?_parse text, fun p => Marker.plain_of_mem_pairs, ?_, ?_⟩
  · intro other same
    have entries := Cli.readListing?_parse other
    rw [same, Cli.readListing?_parse text] at entries
    exact Bindings.ext_entries (Option.some.inj entries).symm
  · intro σ sys c s outputs answer
    obtain ⟨found, rfl⟩ := Call.exists_parse answer
    exact Cli.readListing?_parse found

/-- A value in quotes with all that could mislead a reader, an empty value, and a run that prints a marker. -/
theorem Outputs.readListing_of_quoted_marker :
    let text := "::set-output A=\"x=1; B='\x0d::set-output B=2\" ::set-teamsfx-env B_2='say \"hi\"'\n::set-output C="
    let sys := Machine.system Decoder
    let call : Call Machine := ⟨.default, .plain, .ofCommand "echo \"::set-output K='a=b;c'\"", none⟩
    readListing? (renderOutputs (parse text) .text) =
      some [("A", "x=1; B='\x0d::set-output B=2"), ("B_2", "say \"hi\""), ("C", "")] ∧
    (⟨"B_2".toList, "say \"hi\"".toList⟩ : Pair).Plain ∧
    parse (text ++ ";") = parse text ∧
    ∃ outputs, (call.run sys Machine.desk).1.result = .ok outputs ∧
      readListing? (renderOutputs outputs .text) = some [("K", "a=b;c")] := by
  intro text sys call
  obtain ⟨back, plain, one, run⟩ := readListing_rendered text
  have printed : (call.run sys Machine.desk).1.result = .ok (.ofPairs [("K", "a=b;c")]) := by decide +kernel
  refine ⟨back.trans (by decide +kernel), plain _ (by decide +kernel), one _ (by decide +kernel), _, printed, ?_⟩
  exact (run sys call Machine.desk _ printed).trans (by decide +kernel)

end ScriptRunner
