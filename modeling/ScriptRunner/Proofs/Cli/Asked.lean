import ScriptRunner.Proofs.Cli.Choices

namespace ScriptRunner.Cli

namespace Choice

def text? (name : String) : Choice → Option String
  | env n text => if n = name then some text else none
  | _ => none

variable {c : Choice} {name text : String}

theorem text?_eq_some_iff : c.text? name = some text ↔ c = env name text := by
  cases c <;> simp [text?]

theorem text?_eq_none_iff : c.text? name = none ↔ ∀ text, c ≠ env name text := by
  simp only [Option.eq_none_iff_forall_ne_some, ne_eq, text?_eq_some_iff]

theorem lookup_bindings (name : String) (l : List Choice) :
    (l.filterMap binding?).lookup name = l.findSome? (text? name) := by
  induction l with
  | nil => rfl
  | cons c l ih =>
    cases c with
    | single | switch => exact ih
    | env n text =>
      by_cases same : n = name
      · subst same
        simp [binding?, text?]
      · simpa [binding?, text?, Bindings.lookup_pair, same, Ne.symm same] using ih

theorem get?_ofPairs_eq_some_iff {l : List Choice} :
    (Bindings.ofPairs (l.filterMap binding?)).get? name = some text ↔
      ∃ before after, l = before ++ env name text :: after ∧ ∀ t, env name t ∉ after := by
  rw [Bindings.get?_ofPairs, ← List.filterMap_reverse, lookup_bindings, List.findSome?_eq_some_iff]
  -- The search begins at the end, so that what it has passed are the choices behind.
  constructor
  · rintro ⟨after, c, before, split, given, passed⟩
    rw [text?_eq_some_iff.1 given] at split
    refine ⟨before.reverse, after.reverse, by simpa using congrArg List.reverse split, fun t later => ?_⟩
    exact text?_eq_none_iff.1 (passed _ (List.mem_reverse.1 later)) t rfl
  · rintro ⟨before, after, rfl, passed⟩
    refine ⟨after.reverse, env name text, before.reverse, by simp, text?_eq_some_iff.2 rfl, fun c later => ?_⟩
    refine text?_eq_none_iff.2 fun t same => passed t ?_
    exact same ▸ List.mem_reverse.1 later

end Choice

/-- The arguments that tell of chosen options and of the words of a command. -/
def Choices.args (o : Choices) (words : List String) : RunArgs := .ofFound { o.found with words := words }

/-- What a run with these arguments is asked for: the options as they were chosen, the defaults of a request for all
others, and one command. -/
structure Asked (o : Choices) (words : List String) (a : RunArgs) : Prop where
  command : a.scriptArgs.request.command = " ".intercalate words
  cwd : ∀ dir, a.scriptArgs.request.cwd = dir ↔
    .single .cwd dir ∈ o.list ∨ (∀ d, .single .cwd d ∉ o.list) ∧ (Request.ofCommand (" ".intercalate words)).cwd = dir
  shell : ∀ path, a.scriptArgs.request.shell = some path ↔ .single .shell path ∈ o.list
  timeout : ∀ n, a.scriptArgs.request.timeout = some n ↔
    0 < n ∧ ∃ number, .single .timeout number ∈ o.list ∧ Text.Written number.toList n
  env : ∀ name text, a.scriptArgs.request.env.get? name = some text ↔
    ∃ before after, o.list = before ++ .env name text :: after ∧ ∀ t, .env name t ∉ after
  redirectTo : ∀ path, a.scriptArgs.redirectTo = some path ↔ .single .redirectTo path ∈ o.list
  ui : ∀ {σ : Type} (ui : Ui σ), (a.context ui).ui = if .switch .interactive ∈ o.list then some ui else none
  progress : ∀ {σ : Type} (ui : Ui σ), (a.context ui).progress = true ↔ .switch .quiet ∉ o.list
  project : ∀ {σ : Type} (ui : Ui σ) (dir : String),
    (a.context ui).project = some dir ↔ .single .project dir ∈ o.list
  quiet : a.quiet = true ↔ .switch .quiet ∈ o.list

namespace Choices

variable (o : Choices) (words : List String)

theorem cwd_iff (dir : String) : (o.args words).scriptArgs.request.cwd = dir ↔
    .single .cwd dir ∈ o.list ∨
      (∀ d, .single .cwd d ∉ o.list) ∧ (Request.ofCommand (" ".intercalate words)).cwd = dir := by
  have chosen : (o.args words).scriptArgs.request.cwd = (o.found.value? Single.cwd.name).getD "." := rfl
  rw [chosen]
  cases given : o.found.value? Single.cwd.name with
  | some d =>
    have only : ∀ e, .single .cwd e ∈ o.list ↔ d = e := by
      intro e
      rw [← value?_found_eq_some_iff, given, Option.some_inj]
    simp [only]
  | none =>
    have none : ∀ e, .single .cwd e ∉ o.list := by
      intro e member
      rw [← value?_found_eq_some_iff, given] at member
      cases member
    simp [none, Request.ofCommand]

theorem timeout_iff (n : Nat) : (o.args words).scriptArgs.request.timeout = some n ↔
    0 < n ∧ ∃ number, .single .timeout number ∈ o.list ∧ Text.Written number.toList n := by
  have chosen : (o.args words).scriptArgs.request.timeout =
    Timeout.ofFlag ((o.found.value? Single.timeout.name).bind millis?) := rfl
  rw [chosen, Timeout.ofFlag, Option.filter_eq_some_iff, decide_eq_true_iff, and_comm, Option.bind_eq_some_iff]
  refine and_congr_right fun _ => exists_congr fun number => ?_
  rw [value?_found_eq_some_iff]
  refine and_congr_right fun member => ?_
  rw [millis?, Text.signedDecimalBelow?_eq_some_iff]
  refine ⟨And.left, fun written => ⟨written, ?_⟩⟩
  obtain ⟨m, valid, small⟩ := o.valid _ member
  exact written.unique valid ▸ small

theorem asked_args : Asked o words (o.args words) where
  command := rfl
  cwd := o.cwd_iff words
  shell _ := o.value?_found_eq_some_iff .shell
  timeout := o.timeout_iff words
  env name text := by
    have given : (o.args words).scriptArgs.request.env =
      .ofPairs ((o.found.values "env").filterMap EnvPair.parse?) := rfl
    rw [given, bindings_found, Choice.get?_ofPairs_eq_some_iff]
  redirectTo _ := o.value?_found_eq_some_iff .redirectTo
  ui ui := if_congr (o.has_found_iff .interactive) rfl rfl
  progress ui := by
    have told : ((o.args words).context ui).progress = !o.found.has Switch.quiet.name := rfl
    rw [told, ← has_found_iff, Bool.not_eq_true', Bool.not_eq_true]
  project _ _ := o.value?_found_eq_some_iff .project
  quiet := o.has_found_iff .quiet

end Choices

/-- The words are read as these arguments of a run, whether they are all words or follow the name of the subcommand. -/
def ReadAs (words : List String) (a : RunArgs) : Prop :=
  RunArgs.parse words = .ok a ∧ CommandLine.parse ("run" :: words) = .ok ⟨none, .default, .run a⟩

section Readers

variable {ws : List String} {f : Found}

theorem RunArgs.parse_of_read (read : (grammarWith []).read ws = .ok f) (filled : f.words ≠ []) :
    parse ws = .ok (ofFound f) := by
  have given : grammar.read ws = .ok f := read
  rw [parse, given, Except.bind, accept, if_neg (by simpa using filled)]

theorem CommandLine.parse_of_read (read : runGrammar.read ws = .ok f) (filled : f.words ≠ []) :
    parse ("run" :: ws) = .ok ⟨f.value? "config", ((f.value? "output").bind OutputFormat.ofName?).getD .default,
      .run (.ofFound f)⟩ := by
  have name : grammar.read ("run" :: ws) = .ok ⟨[], [], some ("run", ws)⟩ := rfl
  have accepted : RunArgs.accept f = .ok (.ofFound f) := if_neg (by simpa using filled)
  have command : readSubcommand "run" ws = .ok (.run (.ofFound f), f) := by
    simp only [readSubcommand, if_true, read, accepted, bind, Except.bind, pure, Except.pure]
  have unset (option : String) : Found.value? ⟨[], [], some ("run", ws)⟩ option = none := rfl
  simp [parse, name, command, unset, bind, Except.bind, pure, Except.pure]

theorem Choices.readAs_of_read (o : Choices) {words : List String}
    (read : ∀ more, (RunArgs.grammarWith more).read ws = .ok { o.found with words := words }) (filled : words ≠ []) :
    ReadAs ws (o.args words) := by
  refine ⟨RunArgs.parse_of_read (read []) filled, ?_⟩
  have config : Found.value? { o.found with words := words } "config" = none := o.value?_found_eq_none (by decide)
  have output : Found.value? { o.found with words := words } "output" = none := o.value?_found_eq_none (by decide)
  rw [CommandLine.parse_of_read (read CommandLine.globalRules) filled, config, output]
  rfl

end Readers

/-- Options in any order are read as they were chosen, whatever words follow them. -/
theorem RunArgs.read_choices (o : Choices) : ∃ base : RunArgs, ∀ words : List String, words ≠ [] →
    Asked o words { base with command := words } ∧
    ReadAs (o.words ++ "--" :: words) { base with command := words } ∧
    ((∀ w ∈ words.head?, w.toList.head? ≠ some '-') → ReadAs (o.words ++ words) { base with command := words }) := by
  refine ⟨o.args [], fun words filled => ⟨o.asked_args words, ?_, fun plain => ?_⟩⟩
  · exact o.readAs_of_read (fun _ => o.read_escaped filled) filled
  · obtain ⟨w, ws, rfl⟩ := List.exists_cons_of_ne_nil filled
    exact o.readAs_of_read (fun _ => o.read_plain (plain w rfl)) filled

theorem written_zero : Text.Written "0".toList 0 :=
  have read : Text.signedDecimalBelow? 1 "0".toList = some 0 := by decide
  (Text.signedDecimalBelow?_eq_some_iff.1 read).1

def Choices.mixed : Choices where
  list := [.env "A" "1", .switch .quiet, .single .timeout "0", .single .shell "-", .env "A" "=2=",
    .switch .interactive, .single .redirectTo "--"]
  valid := by
    have zero : Single.Takes "0" .timeout := ⟨0, written_zero, by decide⟩
    have named : "A" ≠ "" ∧ '=' ∉ "A".toList := by decide
    simpa [Choice.Valid, Single.Takes] using And.intro named zero
  once := by decide

/-- Words that look like options, one command behind two hyphens and one that starts with an empty word. -/
theorem RunArgs.read_mixed_choices :
    let options := ["--env=A=1", "-q", "--timeout=0", "--shell=-", "--env=A==2=", "-i", "--redirect-to=--"]
    ∃ base : RunArgs,
      ReadAs (options ++ ["--", "--", "-h", "--env=A=3"]) { base with command := ["--", "-h", "--env=A=3"] } ∧
      ReadAs (options ++ ["", "--", "-i"]) { base with command := ["", "--", "-i"] } ∧
      let asked := { base with command := ["", "--", "-i"] }.scriptArgs
      asked.request.command = " -- -i" ∧ asked.request.cwd = "." ∧ asked.request.timeout = none ∧
      asked.request.shell = some "-" ∧ asked.request.env.get? "A" = some "=2=" ∧ asked.redirectTo = some "--" := by
  intro options
  have written : Choices.mixed.words = options := by decide
  obtain ⟨base, reads⟩ := read_choices .mixed
  obtain ⟨-, escaped, -⟩ := reads ["--", "-h", "--env=A=3"] (by decide)
  obtain ⟨asks, -, plain⟩ := reads ["", "--", "-i"] (by decide)
  have cwd := (asks.cwd ".").2 (.inr ⟨fun d => by simp [Choices.mixed], rfl⟩)
  have unlimited : { base with command := ["", "--", "-i"] }.scriptArgs.request.timeout = none := by
    refine Option.eq_none_iff_forall_ne_some.2 fun n limit => ?_
    obtain ⟨positive, number, chosen, written⟩ := (asks.timeout n).1 limit
    have zero : number = "0" := by simpa [Choices.mixed] using chosen
    subst zero
    exact Nat.ne_of_gt positive (written.unique written_zero)
  have last := (asks.env "A" "=2=").2
    ⟨Choices.mixed.list.take 4, [.switch .interactive, .single .redirectTo "--"], rfl, by simp⟩
  refine ⟨base, escaped, plain (by decide), asks.command, cwd, unlimited, ?_, last, ?_⟩
  · exact (asks.shell "-").2 (by decide)
  · exact (asks.redirectTo "--").2 (by decide)

end ScriptRunner.Cli
