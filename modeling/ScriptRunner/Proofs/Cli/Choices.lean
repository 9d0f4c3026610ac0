import Mathlib.Data.List.Pairwise
import ScriptRunner.Proofs.Cli.Listing
import ScriptRunner.Proofs.Cli.Options
import ScriptRunner.Proofs.Text.Decimal

namespace ScriptRunner.Cli

inductive Single where
  | cwd | shell | timeout | redirectTo | project
  deriving DecidableEq

inductive Switch where
  | interactive | quiet
  deriving DecidableEq

namespace Single

def name : Single → String
  | cwd => "cwd"
  | shell => "shell"
  | timeout => "timeout"
  | redirectTo => "redirect-to"
  | project => "project"

/-- The values of an option: a number of 64 bits for the limit, any text that is not empty for the others. -/
def Takes (value : String) : Single → Prop
  | timeout => ∃ n, Text.Written value.toList n ∧ n < 2 ^ 64
  | _ => value ≠ ""

theorem name_injective {s t : Single} (same : s.name = t.name) : s = t := by
  revert same
  cases s <;> cases t <;> decide

theorem name_ne_env (s : Single) : s.name ≠ "env" := by cases s <;> decide

end Single

namespace Switch

def name : Switch → String
  | interactive => "interactive"
  | quiet => "quiet"

def letter : Switch → Char
  | interactive => 'i'
  | quiet => 'q'

theorem name_injective {s t : Switch} (same : s.name = t.name) : s = t := by
  revert same
  cases s <;> cases t <;> decide

theorem name_ne_env (s : Switch) : s.name ≠ "env" := by cases s <;> decide

theorem name_ne_single (s : Switch) (t : Single) : s.name ≠ t.name := by cases s <;> cases t <;> decide

end Switch

inductive Choice where
  | single (option : Single) (value : String)
  | env (name text : String)
  | switch (option : Switch)
  deriving DecidableEq

namespace Choice

def word : Choice → String
  | single s value => "--" ++ s.name ++ "=" ++ value
  | env name text => "--" ++ "env" ++ "=" ++ (name ++ "=" ++ text)
  | switch s => String.ofList ['-', s.letter]

def Valid : Choice → Prop
  | single s value => s.Takes value
  | env name _ => name ≠ "" ∧ '=' ∉ name.toList
  | switch _ => True

def option : Choice → String
  | single s _ => s.name
  | env _ _ => "env"
  | switch s => s.name

def value : Choice → String
  | single _ value => value
  | env name text => name ++ "=" ++ text
  | switch _ => ""

def entry (c : Choice) : String × String := (c.option, c.value)

/-- Two choices may stand together, unless they are of one option and no variables. -/
def Compatible (c d : Choice) : Prop := c.option = d.option → c.option = "env"

instance : DecidableRel Compatible := fun c d => inferInstanceAs (Decidable (c.option = d.option → c.option = "env"))

instance : Std.Symm Compatible where
  symm _ _ compatible same := same ▸ compatible same.symm

def binding? : Choice → Option (String × String)
  | env name text => some (name, text)
  | _ => none

variable {c : Choice} {v : String}

theorem entry_eq_single_iff {s : Single} : c.entry = (s.name, v) ↔ c = single s v := by
  constructor
  · intro same
    obtain ⟨named, valued⟩ := Prod.mk.inj same
    cases c with
    | single t w =>
      have whole : w = v := valued
      rw [Single.name_injective named, whole]
    | env => exact absurd named.symm s.name_ne_env
    | switch t => exact absurd named (t.name_ne_single s)
  · rintro rfl
    rfl

theorem option_mem (c : Choice) : c.option ∈ RunArgs.rules.map OptionRule.name := by
  cases c with
  | single s => cases s <;> simp [option, Single.name, RunArgs.rules]
  | env => simp [option, RunArgs.rules]
  | switch s => cases s <;> simp [option, Switch.name, RunArgs.rules]

theorem option_eq_switch_iff {s : Switch} : c.option = s.name ↔ c = switch s := by
  constructor
  · intro named
    cases c with
    | single t w => exact absurd named.symm (s.name_ne_single t)
    | env => exact absurd named.symm s.name_ne_env
    | switch t => rw [Switch.name_injective named]
  · rintro rfl
    rfl

end Choice

/-- Options that a run can be started with, in any order. -/
structure Choices where
  list : List Choice
  valid : ∀ c ∈ list, c.Valid
  once : list.Pairwise Choice.Compatible

namespace Choices

def words (o : Choices) : List String := o.list.map Choice.word

def found (o : Choices) : Found := { Found.empty with options := o.list.map Choice.entry }

end Choices

def RunArgs.grammarWith (more : List OptionRule) : Grammar := ⟨RunArgs.rules ++ more, .command⟩

section Reading

variable {more : List OptionRule} {c : Choice} {f : Found} {ws : List String}

theorem Single.exists_rule (more : List OptionRule) (s : Single) : ∃ rule accepts,
    (RunArgs.grammarWith more).byName? s.name = some rule ∧ rule.name = s.name ∧
      rule.kind = .single accepts ∧ ∀ value, s.Takes value → accepts value = true := by
  cases s with
  | timeout =>
    refine ⟨_, _, rfl, rfl, rfl, fun value takes => ?_⟩
    obtain ⟨n, written⟩ := takes
    have read : millis? value = some n := Text.signedDecimalBelow?_eq_some_iff.2 written
    rw [read, Option.isSome_some]
  | shell => exact ⟨_, _, rfl, rfl, rfl, fun value takes => rfl⟩
  | cwd | redirectTo | project =>
    refine ⟨_, _, rfl, rfl, rfl, fun value takes => ?_⟩
    simpa [isPath, Single.Takes] using takes

theorem Switch.exists_rule (more : List OptionRule) (s : Switch) : ∃ rule,
    (RunArgs.grammarWith more).byLetter? s.letter = some rule ∧ rule.name = s.name ∧ rule.kind = .flag := by
  cases s <;> exact ⟨_, rfl, rfl, rfl⟩

theorem readFrom_choice (valid : c.Valid) (fresh : c.option ≠ "env" → f.has c.option = false) :
    (RunArgs.grammarWith more).readFrom (c.word :: ws) none f =
      (RunArgs.grammarWith more).readFrom ws none (f.addOption c.option c.value) := by
  cases c with
  | single s value =>
    obtain ⟨rule, accepts, known, named, kind, accepted⟩ := s.exists_rule more
    have plain : '=' ∉ s.name.toList := by cases s <;> decide
    have free : f.has rule.name = false := named ▸ fresh s.name_ne_env
    rw [Choice.word, Grammar.readFrom_long plain known (Grammar.assign_single kind free (accepted value valid)), named,
      Choice.option, Choice.value]
  | env name text =>
    have known : (RunArgs.grammarWith more).byName? "env" =
      some ⟨"env", some 'e', .repeated fun s => (EnvPair.parse? s).isSome⟩ := rfl
    have pair := EnvPair.parse?_of_key valid.1 valid.2 text
    have accepted : (EnvPair.parse? (name ++ "=" ++ text)).isSome = true := by rw [pair, Option.isSome_some]
    rw [Choice.word, Grammar.readFrom_long (by decide) known (Grammar.assign_repeated rfl accepted), Choice.option,
      Choice.value]
  | switch s =>
    obtain ⟨rule, known, named, kind⟩ := s.exists_rule more
    have letter : s.letter ≠ '-' := by cases s <;> decide
    have free : f.has rule.name = false := named ▸ fresh s.name_ne_env
    rw [Choice.word, Grammar.readFrom_letter letter known kind free, named, Choice.option, Choice.value]

/-- Choices are noted in their order, as long as none of them has been noted that may stand once. -/
theorem readFrom_choices {l : List Choice} (valid : ∀ c ∈ l, c.Valid) (once : l.Pairwise Choice.Compatible)
    (fresh : ∀ c ∈ l, c.option ≠ "env" → f.has c.option = false) :
    (RunArgs.grammarWith more).readFrom (l.map Choice.word ++ ws) none f =
      (RunArgs.grammarWith more).readFrom ws none { f with options := f.options ++ l.map Choice.entry } := by
  induction l generalizing f with
  | nil => simp
  | cons c l ih =>
    obtain ⟨apart, once⟩ := List.pairwise_cons.1 once
    have later : ∀ d ∈ l, d.option ≠ "env" → (f.addOption c.option c.value).has d.option = false := by
      intro d member limited
      -- The choice noted here and a later one are of one option only if both set variables.
      have differs : c.option ≠ d.option := fun same => limited (same ▸ apart d member same)
      simpa [Found.addOption, Found.has, differs] using fresh d (List.mem_cons_of_mem c member) limited
    rw [List.map_cons, List.cons_append, readFrom_choice (valid c List.mem_cons_self) (fresh c List.mem_cons_self)]
    rw [ih (fun d member => valid d (List.mem_cons_of_mem c member)) once later]
    simp [Found.addOption, Choice.entry]

end Reading

namespace Choices

variable {more : List OptionRule} (o : Choices)

theorem readFrom_words (ws : List String) :
    (RunArgs.grammarWith more).readFrom (o.words ++ ws) none .empty =
      (RunArgs.grammarWith more).readFrom ws none o.found :=
  readFrom_choices o.valid o.once fun _ _ _ => rfl

theorem read_escaped {ws : List String} (filled : ws ≠ []) :
    (RunArgs.grammarWith more).read (o.words ++ "--" :: ws) = .ok { o.found with words := ws } := by
  rw [Grammar.read, readFrom_words, Grammar.readFrom_escape rfl filled]

theorem read_plain {w : String} {ws : List String} (plain : w.toList.head? ≠ some '-') :
    (RunArgs.grammarWith more).read (o.words ++ w :: ws) = .ok { o.found with words := w :: ws } := by
  rw [Grammar.read, readFrom_words, Grammar.readFrom_plain rfl plain]

theorem value?_found_eq_some_iff (s : Single) {v : String} :
    o.found.value? s.name = some v ↔ .single s v ∈ o.list := by
  have chosen : ∀ v, (s.name, v) ∈ o.found.options ↔ .single s v ∈ o.list := by
    simp [found, Choice.entry_eq_single_iff]
  rw [Found.value?_eq_some_iff, chosen]
  intro v w first second
  by_contra differs
  have apart := o.once.forall ((chosen v).1 first) ((chosen w).1 second) (by simpa using differs)
  exact s.name_ne_env (apart rfl)

theorem has_found_iff (s : Switch) : o.found.has s.name = true ↔ .switch s ∈ o.list := by
  simp [Found.has, found, Choice.entry, Choice.option_eq_switch_iff]

theorem value?_found_eq_none {name : String} (foreign : name ∉ RunArgs.rules.map OptionRule.name) :
    o.found.value? name = none := by
  have other (c : Choice) : c.option ≠ name := fun same => foreign (same ▸ c.option_mem)
  simp [Found.value?, Found.values, found, Choice.entry, other]

theorem bindings_found :
    (o.found.values "env").filterMap EnvPair.parse? = o.list.filterMap Choice.binding? := by
  have read : ∀ c ∈ o.list, (if c.option = "env" then EnvPair.parse? c.value else none) = c.binding? := by
    intro c member
    cases c with
    | single s v => exact if_neg s.name_ne_env
    | env name text => exact EnvPair.parse?_of_key (o.valid _ member).1 (o.valid _ member).2 text
    | switch s => exact if_neg s.name_ne_env
  rw [← List.filterMap_congr read]
  simp [Found.values, found, List.filter_map, List.filterMap_filter, Function.comp_def, Choice.entry]

end Choices

end ScriptRunner.Cli
