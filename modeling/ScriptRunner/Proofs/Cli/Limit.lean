import ScriptRunner.Proofs.Cli.Run
import ScriptRunner.Proofs.Encoding.Overrides
import ScriptRunner.Proofs.Text.Decimal
import ScriptRunner.Proofs.Toml.Integer

namespace ScriptRunner

namespace Timeout

open Text (Written isBlank)

/-- A variable that gives a limit: a positive number of 64 bits, with a plus sign or not, and with white space around it
or not. -/
structure Gives (text : String) (n : Nat) : Prop where
  spelled : ∃ before number after, text.toList = before ++ (number ++ after) ∧ (∀ c ∈ before, isBlank c = true) ∧
    (∀ c ∈ after, isBlank c = true) ∧ Written number n
  positive : 0 < n
  bounded : n < 2 ^ 64

theorem ofVariable_eq_some_iff {value : Option String} {n : Nat} :
    ofVariable value = some n ↔ ∃ text, value = some text ∧ Gives text n := by
  simp only [ofVariable, Option.filter_eq_some_iff, Option.bind_eq_some_iff, Text.signedDecimalBelow?_eq_some_iff,
    Text.trim, String.toList_ofList, decide_eq_true_eq]
  constructor
  · rintro ⟨⟨text, given, written, bounded⟩, positive⟩
    obtain ⟨before, after, whole, left, right, -⟩ := Text.trimmed_eq_iff.1 (rfl : Text.dropRightWhile _ _ = _)
    exact ⟨text, given, ⟨before, _, after, whole, left, right, written⟩, positive, bounded⟩
  · rintro ⟨text, given, ⟨before, number, after, whole, left, right, written⟩, positive, bounded⟩
    have trimmed := Text.trimmed_eq_iff.2 ⟨before, after, whole, left, right, written.tight⟩
    refine ⟨⟨text, given, ?_, bounded⟩, positive⟩
    rwa [Text.dropBlanks, trimmed]

/-- The limit by the value of the option, the configured value and the value of the variable. -/
inductive Sets (flag configured : Option Nat) (value : Option String) : Option Nat → Prop where
  | flag {n : Nat} (given : flag = some n) (positive : 0 < n) : Sets flag configured value (some n)
  | configured {n : Nat} (unflagged : ∀ m ∈ flag, m = 0) (given : configured = some n) (positive : 0 < n) :
      Sets flag configured value (some n)
  | off (unflagged : ∀ m ∈ flag, m = 0) (given : configured = some 0) : Sets flag configured value none
  | environment {text : String} {n : Nat} (unflagged : ∀ m ∈ flag, m = 0) (unconfigured : configured = none)
      (given : value = some text) (gives : Gives text n) : Sets flag configured value (some n)
  | nothing (unflagged : ∀ m ∈ flag, m = 0) (unconfigured : configured = none)
      (silent : ∀ text, value = some text → ∀ n, ¬ Gives text n) : Sets flag configured value none

theorem ofFlag_eq_none_iff {flag : Option Nat} : ofFlag flag = none ↔ ∀ m ∈ flag, m = 0 := by
  simp [ofFlag, Option.filter_eq_none_iff]

theorem ofVariable_eq_none_iff {value : Option String} :
    ofVariable value = none ↔ ∀ text, value = some text → ∀ n, ¬ Gives text n := by
  rw [Option.eq_none_iff_forall_ne_some]
  constructor
  · intro silent text given n gives
    exact silent n (ofVariable_eq_some_iff.2 ⟨text, given, gives⟩)
  · intro silent n given
    obtain ⟨text, named, gives⟩ := ofVariable_eq_some_iff.1 given
    exact silent text named n gives

variable {flag configured : Option Nat} {value : Option String} {limit : Option Nat}

theorem default_of_positive {n : Nat} (positive : 0 < n) : default (some n) value = some n := by
  obtain ⟨m, rfl⟩ := Nat.exists_eq_succ_of_ne_zero positive.ne'
  rfl

theorem sets_default (unflagged : ∀ m ∈ flag, m = 0) : Sets flag configured value (default configured value) := by
  cases configured with
  | none =>
    show Sets flag none value (ofVariable value)
    cases read : ofVariable value with
    | none => exact .nothing unflagged rfl (ofVariable_eq_none_iff.1 read)
    | some n =>
      obtain ⟨text, given, gives⟩ := ofVariable_eq_some_iff.1 read
      exact .environment unflagged rfl given gives
  | some n =>
    obtain rfl | positive := n.eq_zero_or_pos
    · exact .off unflagged rfl
    · rw [default_of_positive positive]
      exact .configured unflagged rfl positive

theorem Sets.of_limit (flag configured : Option Nat) (value : Option String) :
    Sets flag configured value (ofFlag flag <|> default configured value) := by
  cases given : ofFlag flag with
  | none => exact sets_default (ofFlag_eq_none_iff.1 given)
  | some n =>
    obtain ⟨named, positive⟩ := Option.filter_eq_some_iff.1 given
    exact .flag named (by simpa using positive)

theorem Sets.eq_limit (h : Sets flag configured value limit) : (ofFlag flag <|> default configured value) = limit := by
  cases h with
  | flag given positive => simp [given, ofFlag, positive]
  | configured unflagged given positive =>
    rw [ofFlag_eq_none_iff.2 unflagged, given, default_of_positive positive]
    rfl
  | off unflagged given =>
    rw [ofFlag_eq_none_iff.2 unflagged, given]
    rfl
  | environment unflagged unconfigured given gives =>
    rw [ofFlag_eq_none_iff.2 unflagged, unconfigured]
    exact ofVariable_eq_some_iff.2 ⟨_, given, gives⟩
  | nothing unflagged unconfigured silent =>
    rw [ofFlag_eq_none_iff.2 unflagged, unconfigured]
    exact ofVariable_eq_none_iff.2 silent

theorem sets_iff : Sets flag configured value limit ↔ (ofFlag flag <|> default configured value) = limit := by
  constructor
  · exact Sets.eq_limit
  · rintro rfl
    exact .of_limit flag configured value

theorem Sets.positive {n : Nat} (h : Sets flag configured value (some n)) : 0 < n := by
  cases h with
  | flag _ positive => exact positive
  | configured _ _ positive => exact positive
  | environment _ _ _ gives => exact gives.positive

theorem Sets.bounded {n : Nat} (h : Sets flag configured value (some n)) (option : ∀ m ∈ flag, m < 2 ^ 64)
    (configuration : ∀ m ∈ configured, m < 2 ^ 64) : n < 2 ^ 64 := by
  cases h with
  | flag given _ => exact option n given
  | configured _ given _ => exact configuration n given
  | environment _ _ _ gives => exact gives.bounded

end Timeout

namespace Cli

theorem lt_of_millis? {text : String} {n : Nat} (read : millis? text = some n) : n < 2 ^ 64 :=
  (Text.signedDecimalBelow?_eq_some_iff.1 read).2

theorem RunArgs.timeout_lt_of_accept {f : Found} {a : RunArgs} (accepted : accept f = .ok a) :
    ∀ n ∈ a.timeout, n < 2 ^ 64 := by
  unfold accept at accepted
  split at accepted
  · cases accepted
  · cases accepted
    intro n given
    obtain ⟨text, -, read⟩ := Option.bind_eq_some_iff.1 given
    exact lt_of_millis? read

theorem CommandLine.timeout_lt_of_parse {words : List String} {config : Option String} {format : OutputFormat}
    {a : RunArgs} (parsed : parse words = .ok ⟨config, format, .run a⟩) : ∀ n ∈ a.timeout, n < 2 ^ 64 := by
  obtain ⟨f, -, parsed⟩ := Config.of_bind_ok parsed
  split at parsed
  · cases parsed
  · obtain ⟨⟨command, g⟩, read, parsed⟩ := Config.of_bind_ok parsed
    cases parsed
    unfold readSubcommand at read
    split at read
    · obtain ⟨found, -, read⟩ := Config.of_bind_ok read
      obtain ⟨args, accepted, read⟩ := Config.of_bind_ok read
      cases read
      exact RunArgs.timeout_lt_of_accept accepted
    split at read
    · obtain ⟨found, -, read⟩ := Config.of_bind_ok read
      cases read
    split at read
    · obtain ⟨found, -, read⟩ := Config.of_bind_ok read
      cases read
    · split at read <;> cases read

end Cli

namespace Config

theorem timeout_lt_of_ofEntries {doc : List (String × Toml.Value)} {start c : Config} (fits : ∀ e ∈ doc, e.2.Fits)
    (before : ∀ n ∈ start.timeout, n < 2 ^ 63) (read : ofEntries doc start = .ok c) : ∀ n ∈ c.timeout, n < 2 ^ 63 := by
  induction doc generalizing start with
  | nil =>
    cases read
    exact before
  | cons entry doc ih =>
    obtain ⟨key, v⟩ := entry
    have later : ∀ e ∈ doc, e.2.Fits := fun e member => fits e (List.mem_cons_of_mem _ member)
    rw [ofEntries] at read
    split at read
    · obtain ⟨n, number, read⟩ := of_bind_ok read
      refine ih later ?_ read
      rintro _ ⟨⟩
      unfold readTimeout at number
      split at number
      · next m =>
        split at number
        · cases number
        · cases number
          have range := fits _ List.mem_cons_self m rfl
          omega
      · cases number
    split at read
    · obtain ⟨b, -, read⟩ := of_bind_ok read
      refine ih later ?_ read
      exact before
    · cases read

theorem timeout_lt_of_parse {text : String} {c : Config} (read : parse text = .ok c) : ∀ n ∈ c.timeout, n < 2 ^ 63 := by
  unfold parse at read
  split at read
  · cases read
  · next doc found =>
    have silent : ∀ n ∈ default.timeout, n < 2 ^ 63 := by rintro _ ⟨⟩
    exact timeout_lt_of_ofEntries (Toml.fits_of_parse? found) silent read

end Config

/-- The system with one limit for all children, whatever limit they are to be started with. -/
def System.limitedTo {σ : Type} (sys : System σ) (limit : Option Nat) : System σ :=
  { sys with spawn := fun invocation r _ s => sys.spawn invocation r limit s }

def Ui.limitedTo {σ : Type} (ui : Ui σ) (limit : Option Nat) : Ui σ :=
  { ui with run := fun call s => ui.run { call with timeout := limit } s }

def Context.limitedTo {σ : Type} (ctx : Context σ) (limit : Option Nat) : Context σ :=
  { ctx with ui := ctx.ui.map fun ui => ui.limitedTo limit }

variable {σ : Type} (sys : System σ) (x : Executor)

theorem Context.activeUi_limitedTo (ctx : Context σ) (limit : Option Nat) :
    (ctx.limitedTo limit).activeUi = ctx.activeUi.map fun ui => ui.limitedTo limit :=
  Option.filter_map

namespace Driver

/-- With a runner or without one, the script is run with the limit of the request and no other. -/
theorem dispatch_limitedTo (ctx : Context σ) (r : Request) (s : σ) :
    dispatch (sys.limitedTo (x.limit r)) x (ctx.limitedTo (x.limit r)) r s = dispatch sys x ctx r s := by
  unfold dispatch
  rw [Context.activeUi_limitedTo]
  cases ctx.activeUi with
  | none => rfl
  | some ui => rfl

theorem execute_limitedTo (ctx : Context σ) (args : ScriptArgs) (s : σ) :
    execute (sys.limitedTo (x.limit args.request)) x (ctx.limitedTo (x.limit args.request)) args s =
      execute sys x ctx args s := by
  have run := dispatch_limitedTo sys x ctx (args.resolve ctx.project).request s
  have same : x.limit (args.resolve ctx.project).request = x.limit args.request := rfl
  have project : (ctx.limitedTo (x.limit args.request)).project = ctx.project := rfl
  rw [same] at run
  simp only [execute, project, run]
  rfl

end Driver

namespace Cli

theorem runScript_limitedTo (ui : Ui σ) (a : RunArgs) (format : OutputFormat) (colors : Bool) (s : σ) :
    runScript (sys.limitedTo (x.limit a.scriptArgs.request)) (ui.limitedTo (x.limit a.scriptArgs.request)) x a format
      colors s = runScript sys ui x a format colors s := by
  have context (limit : Option Nat) : a.context (ui.limitedTo limit) = (a.context ui).limitedTo limit := by
    cases interactive : a.interactive <;> simp [RunArgs.context, Context.limitedTo, interactive]
  simp only [runScript, context, Driver.execute_limitedTo]

/-- A run has one limit, which its sources set in their order. It is never zero, and it stays within 64 bits as the
values of its sources do, which those of an accepted option and of an accepted configuration do anyway. It is the limit of
every child, and of every command for the runner: a run with this one in place of theirs is the same run. -/
theorem run_has_one_limit (a : RunArgs) (c : Config) (value : Option String) :
    let x := c.executor value
    let limit := x.limit a.scriptArgs.request
    (∀ other, Timeout.Sets a.timeout c.timeout value other ↔ other = limit) ∧
    (∀ n ∈ limit, 0 < n) ∧
    ((∀ n ∈ a.timeout, n < 2 ^ 64) → (∀ n ∈ c.timeout, n < 2 ^ 64) → ∀ n ∈ limit, n < 2 ^ 64) ∧
    (∀ words path format, CommandLine.parse words = .ok ⟨path, format, .run a⟩ → ∀ n ∈ a.timeout, n < 2 ^ 64) ∧
    (∀ text, Config.parse text = .ok c → ∀ n ∈ c.timeout, n < 2 ^ 63) ∧
    ∀ (σ : Type) (sys : System σ) (ui : Ui σ) (format : OutputFormat) (colors : Bool) (s : σ),
      runScript (sys.limitedTo limit) (ui.limitedTo limit) x a format colors s =
        runScript sys ui x a format colors s := by
  intro x limit
  have sets : Timeout.Sets a.timeout c.timeout value limit := .of_limit a.timeout c.timeout value
  refine ⟨fun other => ?_, ?_, ?_, fun words path format => CommandLine.timeout_lt_of_parse,
    fun text => Config.timeout_lt_of_parse, fun σ sys ui => runScript_limitedTo sys x ui a⟩
  · rw [Timeout.sets_iff]
    exact eq_comm
  · intro n given
    rw [Option.mem_def.1 given] at sets
    exact sets.positive
  · intro option configuration n given
    rw [Option.mem_def.1 given] at sets
    exact sets.bounded option configuration

/-- An option that is zero, a configuration without a limit, and the greatest number of 64 bits in the variable. A
system that collects the limits of its children gets this one. -/
theorem run_limit_of_variable :
    let words := ["run", "--timeout=0", "--", "true"]
    let a : RunArgs := ⟨["true"], none, none, some 0, [], none, none, false, false⟩
    let value := some "\u2003+018446744073709551615\n"
    let x := Config.default.executor value
    let limit := x.limit a.scriptArgs.request
    let collecting : System (List (Option Nat)) :=
      { host := ⟨.linux, fun _ _ => none, fun _ _ => true, fun _ _ s => (.error (.other "none"), s)⟩
        Decoding := Decoder
        decoding := inferInstance
        spawn := fun _ _ limit s => (.ok (.ending 1 [] (.exited 0)), s ++ [limit])
        obey := fun _ _ s => s
        files := .discarding _ }
    let deaf : Ui (List (Option Nat)) := ⟨false, fun _ s => (⟨.error .cancelled, []⟩, s)⟩
    CommandLine.parse words = .ok ⟨none, .text, .run a⟩ ∧ Config.parse "" = .ok .default ∧
    limit = some 18446744073709551615 ∧ (∀ n ∈ limit, n < 2 ^ 64) ∧
    (runScript collecting deaf x a .text false []).2 = [some 18446744073709551615] := by
  intro words a value x limit collecting deaf
  have parsed : CommandLine.parse words = .ok ⟨none, .text, .run a⟩ := by decide +kernel
  have empty : Config.parse "" = .ok .default := rfl
  obtain ⟨sets, -, bounded, option, configuration, given⟩ := run_has_one_limit a .default value
  have gives : Timeout.Gives "\u2003+018446744073709551615\n" 18446744073709551615 := by
    refine ⟨⟨['\u2003'], "+018446744073709551615".toList, ['\n'], by decide, ?_, ?_, ?_⟩, by decide, by decide⟩
    · exact List.all_eq_true.1 (by decide)
    · exact List.all_eq_true.1 (by decide)
    · exact @Text.Written.plus "018446744073709551615".toList (by decide) (List.all_eq_true.1 (by decide))
  have set := (sets _).1 (.environment (by rintro _ ⟨⟩; rfl) rfl rfl gives)
  have small : ∀ n ∈ Config.default.timeout, n < 2 ^ 64 := fun n named => by
    have := configuration "" empty n named
    omega
  refine ⟨parsed, empty, set.symm, bounded (option words none .text parsed) small, ?_⟩
  rw [← given, ← set]
  decide +kernel

end Cli

end ScriptRunner
