import ScriptRunner.Proofs.Marker.Echo
import ScriptRunner.Proofs.Marker.Prefix

namespace ScriptRunner

namespace Marker

def Only (kind : Char → Prop) (text : List Char) : Prop := ∀ c ∈ text, kind c

instance (kind : Char → Prop) [DecidablePred kind] (text : List Char) : Decidable (Only kind text) :=
  List.decidableBAll kind text

/-- How a value is written: in quotes `q`, or as it is. -/
inductive Style where
  | quoted (q : Char)
  | bare
  deriving DecidableEq

namespace Style

def Allows (value : List Char) : Style → Prop
  | .quoted q => Quote q ∧ Only (fun c => c ≠ q ∧ c ≠ '\n') value
  | .bare => Only BareChar value

def write (value : List Char) : Style → List Char
  | .quoted q => q :: (value ++ [q])
  | .bare => value

def EndsBefore (rest : List Char) : Style → Prop
  | .quoted _ => True
  | .bare => ∀ c ∈ rest.head?, Text.isBlank c = true ∨ c = ';'

instance (value : List Char) (style : Style) : Decidable (style.Allows value) :=
  match style with
  | .quoted q => inferInstanceAs (Decidable (Quote q ∧ Only (fun c => c ≠ q ∧ c ≠ '\n') value))
  | .bare => inferInstanceAs (Decidable (Only BareChar value))

instance (rest : List Char) (style : Style) : Decidable (style.EndsBefore rest) :=
  match style with
  | .quoted _ => .isTrue trivial
  | .bare => rest.head?.decidableForallMem

theorem stops {c : Char} (h : Text.isBlank c = true ∨ c = ';') : ¬ Quote c ∧ ¬ BareChar c := by
  constructor
  · rintro (rfl | rfl) <;> revert h <;> decide
  · rintro ⟨solid, other, -⟩
    rcases h with blank | rfl
    · rw [blank] at solid
      cases solid
    · exact other rfl

theorem valueAt {style : Style} {value rest : List Char} (allowed : style.Allows value)
    (ends : style.EndsBefore rest) : ValueAt (style.write value ++ rest) value rest := by
  cases style with
  | quoted q =>
    obtain ⟨quote, inside⟩ := allowed
    have given : ValueAt (q :: (value ++ q :: rest)) value rest := .quoted quote inside
    simpa [write] using given
  | bare =>
    refine .bare (fun c first => ?_) allowed fun c first => (stops (ends c first)).2
    -- An empty value starts with what follows it.
    cases value with
    | nil => exact (stops (ends c first)).1
    | cons d value =>
      cases first
      exact (allowed c List.mem_cons_self).2.2

end Style

/-- An assignment as it is printed, and the text that follows it. -/
structure Entry where
  word : List Char
  gap : List Char
  pair : Pair
  style : Style
  after : List Char
  marker : word ∈ words := by decide
  apart : gap ≠ [] := by decide
  gaps : Only GapChar gap := by decide
  named : pair.key ≠ [] := by decide
  letters : Only KeyChar pair.key := by decide
  allowed : style.Allows pair.value := by decide
  plain : ':' ∉ after := by decide

namespace Entry

variable (e : Entry)

def assignment : List Char := e.word ++ (e.gap ++ (e.pair.key ++ '=' :: e.style.write e.pair.value))

theorem assignmentAt {rest : List Char} (ends : e.style.EndsBefore rest) :
    AssignmentAt (e.assignment ++ rest) e.pair rest := by
  have given := AssignmentAt.intro e.marker e.apart e.gaps (.intro e.named e.letters (Style.valueAt e.allowed ends))
  simpa [assignment] using given

def texts (entries : List Entry) : List Char := entries.flatMap fun e => e.assignment ++ e.after

def Separated : List Entry → Prop
  | [] => True
  | e :: entries => e.style.EndsBefore (e.after ++ texts entries) ∧ Separated entries

instance decidableSeparated : (entries : List Entry) → Decidable (Separated entries)
  | [] => .isTrue trivial
  | e :: entries =>
    have := decidableSeparated entries
    inferInstanceAs (Decidable (e.style.EndsBefore (e.after ++ texts entries) ∧ Separated entries))

/-- Between two assignments the scanner is always in the text without colons, never inside a value. -/
theorem pairs_texts {before : List Char} (plain : ':' ∉ before) {entries : List Entry}
    (separated : Separated entries) :
    pairs (before ++ texts entries) = entries.map Entry.pair := by
  induction entries generalizing before with
  | nil =>
    rw [pairs_append_of_not_mem plain]
    exact pairs_of_no_colons rfl
  | cons e entries ih =>
    obtain ⟨ends, later⟩ := separated
    have read := (e.assignmentAt ends).pairs_eq
    rw [pairs_append_of_not_mem plain, texts, List.flatMap_cons, List.append_assoc, ← texts, read, ih e.plain later,
      List.map_cons]

end Entry

/-- A text without colons, then assignments. -/
structure Document where
  before : List Char
  entries : List Entry
  plain : ':' ∉ before := by decide
  separated : Entry.Separated entries := by decide

namespace Document

variable (d : Document)

def text : String := String.ofList (d.before ++ Entry.texts d.entries)

/-- A document is read as the assignments it was printed from, one after the other, and as nothing else. -/
theorem parse_text :
    pairs d.text.toList = d.entries.map Entry.pair ∧
      Outputs.parse d.text = Bindings.ofPairs (d.entries.map fun e => e.pair.binding) := by
  have read : pairs d.text.toList = d.entries.map Entry.pair := by
    rw [text, String.toList_ofList, Entry.pairs_texts d.plain d.separated]
  refine ⟨read, ?_⟩
  rw [Outputs.parse, read, List.map_map]
  rfl

/-- Markers inside of values, quotes that touch one another and an empty value in front of a blank are printed like any
other text. -/
example :
    let d : Document := .mk "a \"".toList
      [.mk "::set-output".toList [' '] ⟨['A'], "::set-output B=1;".toList⟩ (.quoted '"') "'x'".toList,
        .mk "::set-teamsfx-env".toList ['\t', ' '] ⟨['A'], "::set-output+C=1".toList⟩ .bare "; ".toList,
        .mk "::set-output".toList [' '] ⟨['_'], []⟩ .bare " '".toList]
    d.text = "a \"::set-output A=\"::set-output B=1;\"'x'::set-teamsfx-env\t A=::set-output+C=1; ::set-output _= '" := by
  decide

end Document

end Marker

end ScriptRunner
