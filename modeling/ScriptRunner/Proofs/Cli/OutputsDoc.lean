import ScriptRunner.Proofs.Cli.Listing
import ScriptRunner.Proofs.Json.FailureDoc
import ScriptRunner.Proofs.Text.Order

namespace ScriptRunner

open Json

namespace Cli

theorem perm_sortedEntries (b : Bindings) : (sortedEntries b).Perm b.entries := List.mergeSort_perm _ _

theorem nodup_sortedEntries (b : Bindings) : ((sortedEntries b).map Prod.fst).Nodup :=
  ((perm_sortedEntries b).map Prod.fst).nodup_iff.2 b.nodup

theorem pairwise_sortedEntries (b : Bindings) : (sortedEntries b).Pairwise fun p q => p.1 < q.1 := by
  have ordered : (sortedEntries b).Pairwise fun p q => decide (p.1 ≤ q.1) = true := by
    apply List.pairwise_mergeSort
    · intro p q r first second
      rw [decide_eq_true_eq] at first second ⊢
      exact String.le_trans first second
    · intro p q
      simpa using String.le_total p.1 q.1
  -- Sorting leaves open whether neighbours are equal; that no name repeats makes the order strict.
  have distinct := List.pairwise_map.1 (nodup_sortedEntries b)
  refine (ordered.and distinct).imp fun h => ?_
  obtain ⟨most, differs⟩ := h
  rw [decide_eq_true_eq] at most
  exact String.not_le.1 fun least => differs (String.le_antisymm most least)

theorem sortedEntries_eq {b : Bindings} {entries : List (String × String)} (perm : b.entries.Perm entries)
    (ordered : entries.Pairwise fun p q => p.1 < q.1) : sortedEntries b = entries := by
  refine ((perm_sortedEntries b).trans perm).eq_of_pairwise ?_ (pairwise_sortedEntries b) ordered
  intro p q _ _ below above
  exact absurd (String.lt_trans below above) (String.lt_irrefl p.1)

theorem sortedEntries_eq_iff {a b : Bindings} : sortedEntries a = sortedEntries b ↔ a.entries.Perm b.entries := by
  constructor
  · intro same
    exact (perm_sortedEntries a).symm.trans (same ▸ perm_sortedEntries b)
  · intro perm
    exact sortedEntries_eq (perm.trans (perm_sortedEntries b).symm) (pairwise_sortedEntries b)

def textMembers (entries : List (String × String)) : List (String × Value) := entries.map fun p => (p.1, .string p.2)

theorem textMembers_inj {k l : List (String × String)} (same : textMembers k = textMembers l) : k = l := by
  refine List.map_injective_iff.2 ?_ same
  rintro ⟨name, text⟩ ⟨name', text'⟩ equal
  simpa using equal

theorem not_number_of_mem_textMembers {n : Number} (entries : List (String × String)) :
    .number n ∉ Value.memberTokens (textMembers entries) := by
  induction entries with
  | nil => simp [textMembers, Value.memberTokens]
  | cons p entries ih =>
    cases entries with
    | nil => simp [textMembers, Value.memberTokens, Value.tokens]
    | cons q entries => simpa [textMembers, Value.memberTokens, Value.tokens] using ih

theorem outputsJson_eq (b : Bindings) :
    outputsJson b = .object [("outputs", .object (textMembers (sortedEntries b)))] := rfl

theorem document_renderOutputs (b : Bindings) : Value.Document (renderOutputs b .json) (outputsJson b) := by
  have blank : Value.Blank "\n".toList := by simp [Value.Blank, isSpace]
  refine Value.document_pretty (fun n member => ?_) blank
  have none := not_number_of_mem_textMembers (n := n) (sortedEntries b)
  simp [outputsJson_eq, Value.tokens, Value.memberTokens, none] at member

theorem renderOutputs_json_eq_iff {a b : Bindings} :
    renderOutputs a .json = renderOutputs b .json ↔ a.entries.Perm b.entries := by
  rw [← sortedEntries_eq_iff]
  constructor
  · intro same
    have read := (document_renderOutputs a).ofText?
    rw [same, (document_renderOutputs b).ofText?] at read
    simp only [outputsJson_eq, Option.some.injEq, Value.object.injEq, List.cons.injEq, Prod.mk.injEq, true_and,
      and_true] at read
    exact (textMembers_inj read).symm
  · intro same
    rw [renderOutputs, renderOutputs, outputsJson, outputsJson, same]

/-- The pairs in a document of outputs, in the order of its members. -/
def readOutputs? (text : String) : Option (List (String × String)) :=
  match Value.ofText? text with
  | some (.object [("outputs", .object members)]) => members.mapM fun m => (text? m.2).map (m.1, ·)
  | _ => none

theorem readOutputs?_renderOutputs (b : Bindings) : readOutputs? (renderOutputs b .json) = some (sortedEntries b) := by
  rw [readOutputs?, (document_renderOutputs b).ofText?, outputsJson_eq]
  show (textMembers (sortedEntries b)).mapM _ = _
  induction sortedEntries b with
  | nil => rfl
  | cons p entries ih =>
    rw [textMembers, List.map_cons, List.mapM_cons, ← textMembers, ih]
    rfl

/-- Outputs have one document, which holds them all, in the order of the bytes of their names, and nothing else. So the
document depends on the outputs only, not on the order in which they were inserted. It tells what the lines tell that
show the outputs of a text. -/
theorem renderOutputs_json_is_canonical :
    (∀ b : Bindings, ∃ members : List (String × String),
      members.Perm b.entries ∧ members.Pairwise (fun p q => utf8Bytes p.1 < utf8Bytes q.1) ∧
      ∀ {α : Type} (r : Value.Reader α), r.read (renderOutputs b .json) =
        r.meaning (.object [("outputs", .object (members.map fun m => (m.1, .string m.2)))])) ∧
    (∀ a b : Bindings, renderOutputs a .json = renderOutputs b .json ↔ ∀ name, a.get? name = b.get? name) ∧
    ∀ text, ∃ listed members, readListing? (renderOutputs (Outputs.parse text) .text) = some listed ∧
      readOutputs? (renderOutputs (Outputs.parse text) .json) = some members ∧ members.Perm listed := by
  refine ⟨fun b => ?_, fun a b => ?_, fun text => ?_⟩
  · refine ⟨sortedEntries b, perm_sortedEntries b, ?_, fun r => r.reads (document_renderOutputs b)⟩
    exact (pairwise_sortedEntries b).imp Utf8.utf8Bytes_lt
  · rw [renderOutputs_json_eq_iff, Bindings.perm_entries_iff]
  · exact ⟨_, _, readListing?_parse text, readOutputs?_renderOutputs _, perm_sortedEntries _⟩

/-- Two orders of insertion. The names stand as their bytes do; code units of sixteen bits would order them otherwise. -/
theorem renderOutputs_json_of_two_orders :
    let a := Bindings.ofPairs [("😀", "\x01\n"), ("ﬁ", "\"\\/")]
    let b := Bindings.ofPairs [("ﬁ", ""), ("😀", "\x01\n"), ("ﬁ", "\"\\/")]
    renderOutputs a .json = renderOutputs b .json ∧
    renderOutputs b .json =
      "\x7b\n  \"outputs\": \x7b\n    \"ﬁ\": \"\\\"\\\\/\",\n    \"😀\": \"\\u0001\\n\"\n  \x7d\n\x7d\n" ∧
    ∃ members : List (String × String), members.Perm a.entries ∧ Value.Reader.whole.read (renderOutputs b .json) =
      some (.object [("outputs", .object (members.map fun m => (m.1, .string m.2)))]) := by
  intro a b
  have moved : b.entries.Perm a.entries := by decide +kernel
  have sorted : sortedEntries b = [("ﬁ", "\"\\/"), ("😀", "\x01\n")] :=
    sortedEntries_eq (by decide +kernel) (by decide +kernel)
  obtain ⟨members, perm, -, read⟩ := renderOutputs_json_is_canonical.1 b
  refine ⟨(renderOutputs_json_is_canonical.2.1 a b).2 (Bindings.perm_entries_iff.1 moved.symm), ?_, members,
    perm.trans moved, read Value.Reader.whole⟩
  rw [renderOutputs, outputsJson, sorted]
  decide +kernel

end Cli

end ScriptRunner
