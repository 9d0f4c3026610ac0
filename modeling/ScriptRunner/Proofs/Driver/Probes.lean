import ScriptRunner.Cli.HostReport
import ScriptRunner.Posix.Machine
import ScriptRunner.Proofs.Driver.Child
import ScriptRunner.Proofs.Encoding.Overrides
import ScriptRunner.Proofs.Shell.Invocation
import ScriptRunner.SimulatedHost

namespace ScriptRunner

namespace Host

variable {σ α β : Type} {h : Host σ}

theorem answer_bind (h : Host σ) (inquiry : Inquiry α) (f : α → Inquiry β) (s : σ) :
    h.answer (inquiry.bind f) s =
      let first := h.answer inquiry s
      let second := h.answer (f first.1) first.2.2
      (second.1, first.2.1 ++ second.2.1, second.2.2) := by
  induction inquiry generalizing s with
  | done a => simp [Inquiry.bind, answer]
  | env name next ih => simp [Inquiry.bind, answer, ih]
  | path path next ih => simp [Inquiry.bind, answer, ih]
  | query program args next ih => simp [Inquiry.bind, answer, ih]

theorem answer_bind_of {inquiry : Inquiry α} {f : α → Inquiry β} {s s' s'' : σ} {a : α} {b : β}
    {probes more : List Probe} (first : h.answer inquiry s = (a, probes, s'))
    (second : h.answer (f a) s' = (b, more, s'')) : h.answer (inquiry.bind f) s = (b, probes ++ more, s'') := by
  rw [answer_bind, first]
  dsimp only
  rw [second]

/-- The host looks its variables up in an environment, and takes an empty one as unset. -/
def Reads (h : Host σ) (environment : String → σ → Option String) : Prop :=
  ∀ name s, h.env name s = (environment name s).filter (!·.isEmpty)

variable {environment : String → σ → Option String} {name : String} {s : σ}

theorem Reads.env_eq_some_iff (reads : h.Reads environment) {value : String} :
    h.env name s = some value ↔ environment name s = some value ∧ value ≠ "" := by
  rw [reads, Option.filter_eq_some_iff]
  simp

theorem Reads.env_eq_none_iff (reads : h.Reads environment) :
    h.env name s = none ↔ ∀ value, environment name s = some value → value = "" := by
  rw [reads, Option.filter_eq_none_iff]
  simp

end Host

theorem SimulatedHost.reads {σ : Type} (simulated : SimulatedHost) :
    (simulated.host : Host σ).Reads fun name _ => simulated.env.lookup name := fun _ _ => rfl

theorem Posix.Machine.host_reads : Machine.host.Reads fun name m => m.envText? name := fun _ _ => rfl

/-- A search asks for one candidate after the other and ends with the first that is there. -/
inductive Searches (there : String → Bool) : List String → List Probe → Option String → Prop where
  | found {before after : List String} {candidate : String} (absent : ∀ c ∈ before, there c = false)
      (present : there candidate = true) :
      Searches there (before ++ candidate :: after) ((before ++ [candidate]).map .path) (some candidate)
  | nothing {candidates : List String} (absent : ∀ c ∈ candidates, there c = false) :
      Searches there candidates (candidates.map .path) none

variable {σ : Type}

/-- What is asked for the shell of a platform, and what is found. The interpreter of Windows is there without a
search. -/
inductive AsksPlatform (h : Host σ) (environment : String → σ → Option String) (s : σ) :
    List Probe → Option String → Prop where
  | macos {probes : List Probe} {found : Option String} (platform : h.platform = .macos)
      (search : Searches (h.pathExists · s) ["/bin/zsh", "/bin/bash"] probes found) :
      AsksPlatform h environment s probes found
  | windows {interpreter : String} (platform : h.platform = .windows)
      (given : environment "ComSpec" s = some interpreter) (filled : interpreter ≠ "") :
      AsksPlatform h environment s [.env "ComSpec"] (some interpreter)
  | windowsUnset (platform : h.platform = .windows) (unset : ∀ v, environment "ComSpec" s = some v → v = "") :
      AsksPlatform h environment s [.env "ComSpec"] (some "cmd.exe")
  | elsewhere {probes : List Probe} {found : Option String} (platform : h.platform = .linux ∨ h.platform = .other)
      (search : Searches (h.pathExists · s) ["/bin/sh"] probes found) : AsksPlatform h environment s probes found

/-- What is asked for a shell, by the shell that the request names, and what is found. -/
inductive AsksShell (h : Host σ) (environment : String → σ → Option String) (s : σ) :
    Option String → List Probe → Option String → Prop where
  | named {shell : String} : AsksShell h environment s (some shell) [] (some shell)
  | login {shell : String} (given : environment "SHELL" s = some shell) (filled : shell ≠ "") :
      AsksShell h environment s none [.env "SHELL"] (some shell)
  | unset {probes : List Probe} {found : Option String} (unset : ∀ v, environment "SHELL" s = some v → v = "")
      (asks : AsksPlatform h environment s probes found) :
      AsksShell h environment s none (.env "SHELL" :: probes) found

namespace Searches

variable {there : String → Bool} {candidates : List String} {probes : List Probe} {found : Option String}

theorem cons {candidate : String} (absent : there candidate = false) (h : Searches there candidates probes found) :
    Searches there (candidate :: candidates) (.path candidate :: probes) found := by
  cases h with
  | found others present => exact .found (List.forall_mem_cons.2 ⟨absent, others⟩) present
  | nothing others => exact .nothing (List.forall_mem_cons.2 ⟨absent, others⟩)

theorem exists_searches (there : String → Bool) (candidates : List String) :
    ∃ probes found, Searches there candidates probes found := by
  induction candidates with
  | nil => exact ⟨[], none, .nothing nofun⟩
  | cons candidate candidates ih =>
    cases present : there candidate with
    | true => exact ⟨_, _, @found there [] candidates candidate nofun present⟩
    | false =>
      obtain ⟨probes, found, search⟩ := ih
      exact ⟨_, _, search.cons present⟩

theorem answer_eq {h : Host σ} {s : σ} (search : Searches (h.pathExists · s) candidates probes found) :
    h.answer (Shell.firstExisting candidates) s = (found, probes, s) := by
  cases search with
  | @found before after candidate absent present =>
    induction before with
    | nil => simp [Shell.firstExisting, Host.answer, present]
    | cons first before ih =>
      obtain ⟨missing, others⟩ := List.forall_mem_cons.1 absent
      simp [Shell.firstExisting, Host.answer, missing, ih others]
  | nothing absent =>
    induction candidates with
    | nil => rfl
    | cons first candidates ih =>
      obtain ⟨missing, others⟩ := List.forall_mem_cons.1 absent
      simp [Shell.firstExisting, Host.answer, missing, ih others]

end Searches

variable {h : Host σ} {environment : String → σ → Option String} {s : σ} {probes : List Probe} {shell : Option String}

theorem AsksPlatform.answer_eq (reads : h.Reads environment) (asks : AsksPlatform h environment s probes shell)
    (unset : h.env "SHELL" s = none) : h.answer (Shell.resolve h.platform) s = (shell, .env "SHELL" :: probes, s) := by
  cases asks with
  | macos platform search =>
    simp [Shell.resolve, Host.answer, unset, platform, Shell.macosCandidates, search.answer_eq]
  | windows platform given filled =>
    simp [Shell.resolve, Host.answer, unset, platform, reads.env_eq_some_iff.2 ⟨given, filled⟩]
  | windowsUnset platform missing =>
    simp [Shell.resolve, Host.answer, unset, platform, reads.env_eq_none_iff.2 missing, Shell.windowsFallback]
  | elsewhere platform search =>
    obtain platform | platform := platform
    all_goals simp [Shell.resolve, Host.answer, unset, platform, Shell.posixFallback, search.answer_eq]

theorem exists_asksPlatform (reads : h.Reads environment) (s : σ) :
    ∃ probes shell, AsksPlatform h environment s probes shell := by
  cases platform : h.platform with
  | macos =>
    obtain ⟨probes, found, search⟩ := Searches.exists_searches (h.pathExists · s) ["/bin/zsh", "/bin/bash"]
    exact ⟨_, _, .macos platform search⟩
  | windows =>
    cases interpreter : h.env "ComSpec" s with
    | some interpreter =>
      obtain ⟨given, filled⟩ := reads.env_eq_some_iff.1 interpreter
      exact ⟨_, _, .windows platform given filled⟩
    | none => exact ⟨_, _, .windowsUnset platform (reads.env_eq_none_iff.1 interpreter)⟩
  | linux =>
    obtain ⟨probes, found, search⟩ := Searches.exists_searches (h.pathExists · s) ["/bin/sh"]
    exact ⟨_, _, .elsewhere (.inl platform) search⟩
  | other =>
    obtain ⟨probes, found, search⟩ := Searches.exists_searches (h.pathExists · s) ["/bin/sh"]
    exact ⟨_, _, .elsewhere (.inr platform) search⟩

theorem AsksShell.answer_eq (reads : h.Reads environment) {r : Request}
    (asks : AsksShell h environment s r.shell probes shell) :
    h.answer (Executor.shellOf h.platform r) s = (shell, probes, s) := by
  unfold Executor.shellOf
  generalize r.shell = named at asks
  cases asks with
  | named => rfl
  | login given filled => simp [Shell.resolve, Host.answer, reads.env_eq_some_iff.2 ⟨given, filled⟩]
  | unset unset asks => exact asks.answer_eq reads (reads.env_eq_none_iff.2 unset)

theorem exists_asksShell (reads : h.Reads environment) (s : σ) (named : Option String) :
    ∃ probes shell, AsksShell h environment s named probes shell := by
  cases named with
  | some shell => exact ⟨_, _, .named⟩
  | none =>
    cases login : h.env "SHELL" s with
    | some shell =>
      obtain ⟨given, filled⟩ := reads.env_eq_some_iff.1 login
      exact ⟨_, _, .login given filled⟩
    | none =>
      obtain ⟨probes, shell, asks⟩ := exists_asksPlatform reads s
      exact ⟨_, _, .unset (reads.env_eq_none_iff.1 login) asks⟩

/-- The label that comes of a reply: what is understood of it, else the fallback. -/
inductive Understood (read : String → Option String) : Except QueryError String → String → Prop where
  | clear {answer label : String} (found : read answer = some label) : Understood read (.ok answer) label
  | unclear {answer : String} (lost : read answer = none) : Understood read (.ok answer) "utf-8"
  | failed {e : QueryError} : Understood read (.error e) "utf-8"

/-- What is asked for the encoding of a command, the label, and the host afterwards. -/
inductive AsksEncoding (h : Host σ) (t : Overrides) (command : String) (s : σ) : List Probe → String → σ → Prop where
  | overridden {label : String} {e : String × String} (member : e ∈ t.entries)
      (applies : Overrides.Applies command e.1) (found : t.lookup command = some label) :
      AsksEncoding h t command s [] label s
  | windows {reply : Except QueryError String} {label : String} {s' : σ}
      (free : ∀ e ∈ t.entries, ¬ Overrides.Applies command e.1) (platform : h.platform = .windows)
      (replied : h.query "cmd" ["/d", "/c", "chcp"] s = (reply, s'))
      (read : Understood (fun answer => CodePage.parse? answer >>= CodePage.label?) reply label) :
      AsksEncoding h t command s [.query "cmd" ["/d", "/c", "chcp"]] label s'
  | locale {reply : Except QueryError String} {label : String} {s' : σ}
      (free : ∀ e ∈ t.entries, ¬ Overrides.Applies command e.1) (platform : h.platform = .linux ∨ h.platform = .macos)
      (replied : h.query "locale" ["charmap"] s = (reply, s')) (read : Understood Locale.charset? reply label) :
      AsksEncoding h t command s [.query "locale" ["charmap"]] label s'
  | elsewhere (free : ∀ e ∈ t.entries, ¬ Overrides.Applies command e.1) (platform : h.platform = .other) :
      AsksEncoding h t command s [] "utf-8" s

theorem understood_iff {read : String → Option String} {reply : Except QueryError String} {label : String} :
    Understood read reply label ↔ (Encoding.ofAnswer? read reply).getD "utf-8" = label := by
  constructor
  · rintro (found | lost | -)
    · simp [Encoding.ofAnswer?, found]
    · simp [Encoding.ofAnswer?, lost]
    · rfl
  · rintro rfl
    cases reply with
    | error e => exact .failed
    | ok answer =>
      cases found : read answer with
      | some label => simpa [Encoding.ofAnswer?, found] using Understood.clear found
      | none => simpa [Encoding.ofAnswer?, found] using Understood.unclear found

namespace AsksEncoding

variable {t : Overrides} {command label : String} {s' : σ}

theorem answer_eq (asks : AsksEncoding h t command s probes label s') :
    h.answer (Encoding.resolve h.platform t command) s = (label, probes, s') := by
  cases asks with
  | overridden member applies found => simp [Encoding.resolve, found, Host.answer]
  | windows free platform replied read =>
    simp [Encoding.resolve, Overrides.lookup_eq_none_iff.2 free, platform, Host.answer, replied,
      ← understood_iff.1 read, Encoding.fallbackLabel]
  | locale free platform replied read =>
    obtain platform | platform := platform
    all_goals
      simp [Encoding.resolve, Overrides.lookup_eq_none_iff.2 free, platform, Host.answer, replied,
        ← understood_iff.1 read, Encoding.fallbackLabel]
  | elsewhere free platform =>
    simp [Encoding.resolve, Overrides.lookup_eq_none_iff.2 free, platform, Host.answer, Encoding.fallbackLabel]

theorem exists_asksEncoding (h : Host σ) (t : Overrides) (command : String) (s : σ) :
    ∃ probes label s', AsksEncoding h t command s probes label s' := by
  cases found : t.lookup command with
  | some label =>
    have applied : ∃ e ∈ t.entries, Overrides.Applies command e.1 := by
      by_contra free
      rw [Overrides.lookup_eq_none_iff.2 fun e member applies => free ⟨e, member, applies⟩] at found
      cases found
    obtain ⟨e, member, applies⟩ := applied
    exact ⟨_, _, _, .overridden member applies found⟩
  | none =>
    have free := Overrides.lookup_eq_none_iff.1 found
    cases platform : h.platform with
    | windows => exact ⟨_, _, _, .windows free platform rfl (understood_iff.2 rfl)⟩
    | macos => exact ⟨_, _, _, .locale free (.inr platform) rfl (understood_iff.2 rfl)⟩
    | linux => exact ⟨_, _, _, .locale free (.inl platform) rfl (understood_iff.2 rfl)⟩
    | other => exact ⟨_, _, _, .elsewhere free platform⟩

end AsksEncoding

/-- What a run asks for a command, by the shell that its request names: first for the shell, then for the encoding. It
comes to a shell and a label, and leaves the host in a state. -/
inductive Asks (h : Host σ) (environment : String → σ → Option String) (t : Overrides) (named : Option String)
    (command : String) (s : σ) : List Probe → Option String → String → σ → Prop where
  | intro {first second : List Probe} {shell : Option String} {label : String} {s' : σ}
      (asksShell : AsksShell h environment s named first shell)
      (asksEncoding : AsksEncoding h t command s second label s') :
      Asks h environment t named command s (first ++ second) shell label s'

namespace Asks

variable {t : Overrides} {named : Option String} {command label : String} {s' : σ}

theorem answer_eq {x : Executor} {r : Request} (reads : h.Reads environment)
    (asks : Asks h environment x.overrides r.shell r.command s probes shell label s') :
    h.answer (x.inquire h.platform r) s = ((shell, label), probes, s') := by
  obtain ⟨asksShell, asksEncoding⟩ := asks
  have second := Host.answer_bind_of (f := fun label => .done (shell, label)) asksEncoding.answer_eq rfl
  rw [List.append_nil] at second
  exact Host.answer_bind_of (asksShell.answer_eq reads) second

theorem exists_asks (reads : h.Reads environment) (t : Overrides) (named : Option String) (command : String) (s : σ) :
    ∃ probes shell label s', Asks h environment t named command s probes shell label s' := by
  obtain ⟨first, shell, asksShell⟩ := exists_asksShell reads s named
  obtain ⟨second, label, s', asksEncoding⟩ := AsksEncoding.exists_asksEncoding h t command s
  exact ⟨_, _, _, _, .intro asksShell asksEncoding⟩

theorem answer_report_eq (reads : h.Reads environment)
    (asks : Asks h environment t none command s probes shell label s') :
    h.answer (Cli.HostReport.inquire h.platform t command) s = (⟨h.platform, shell, label⟩, probes, s') := by
  obtain ⟨asksShell, asksEncoding⟩ := asks
  have first := asksShell.answer_eq (r := .ofCommand command) reads
  have second := Host.answer_bind_of (f := fun label => .done (⟨h.platform, shell, label⟩ : Cli.HostReport))
    asksEncoding.answer_eq rfl
  rw [List.append_nil] at second
  exact Host.answer_bind_of first second

end Asks

variable {sys : System σ}

namespace Call

theorem probes_of_direct {c : Call σ} (direct : c.context.activeUi = none) :
    (c.run sys s).1.probes = (c.executor.run sys c.request s).1.probes := by
  simp only [run, Driver.execute, Driver.dispatch, direct, request]

theorem probes_of_active {c : Call σ} {ui : Ui σ} (active : c.context.activeUi = some ui) :
    (c.run sys s).1.probes = [] := by
  simp only [run, Driver.execute, Driver.dispatch, active]

theorem run_of_active {c : Call σ} {ui : Ui σ} (active : c.context.activeUi = some ui) (host : Host σ) :
    c.run { sys with host := host } s = c.run sys s := by
  simp only [run, Driver.execute, Driver.dispatch, active]
  rfl

/-- A run on the host itself asks for the shell and for the encoding, and nothing else. With the shell and the encoding
that it finds it starts its child, whatever the host says about them. A report about the host asks as much as a run
whose request names no shell, and tells the shell and the encoding of that run. A runner asks the host nothing. -/
theorem run_asks (reads : sys.host.Reads environment) (config : Config) (value : Option String) (ctx : Context σ)
    (args : ScriptArgs) (s : σ) :
    let c : Call σ := ⟨config.executor value, ctx, args⟩
    let command := args.request.command
    let platform := sys.host.platform
    let spawn (shell : Option String) (asked : σ) :=
      sys.spawn (.of shell command platform) c.request (c.executor.limit c.request) asked
    (ctx.activeUi = none →
      (∀ probes, (c.run sys s).1.probes = probes ↔ ∃ shell label asked,
        Asks sys.host environment config.table args.request.shell command s probes shell label asked) ∧
      (∀ probes shell label asked child s',
        Asks sys.host environment config.table args.request.shell command s probes shell label asked →
        spawn shell asked = (child, s') →
        c.executor.run sys c.request s =
          (.ofChild sys.Decoding command label probes child, sys.dismiss label child s')) ∧
      (args.request.shell = none →
        let (report, probes, asked) := sys.host.answer (Cli.HostReport.inquire platform config.table command) s
        let (child, s') := spawn report.shell asked
        report.platform = platform ∧ (c.run sys s).1.probes = probes ∧
        c.executor.run sys c.request s =
          (.ofChild sys.Decoding command report.encoding probes child, sys.dismiss report.encoding child s') ∧
        (Invocation.of report.shell command platform).program =
          report.shell.getD (if platform = .windows then "cmd.exe" else "/bin/sh"))) ∧
    ∀ ui, ctx.activeUi = some ui →
      (c.run sys s).1.probes = [] ∧ ∀ host, c.run { sys with host := host } s = c.run sys s := by
  intro c command platform spawn
  refine ⟨fun direct => ?_, fun ui active => ⟨probes_of_active active, run_of_active active⟩⟩
  have ran {probes shell label asked child s'}
      (asks : Asks sys.host environment config.table args.request.shell command s probes shell label asked)
      (spawned : spawn shell asked = (child, s')) :
      c.executor.run sys c.request s =
          (.ofChild sys.Decoding command label probes child, sys.dismiss label child s') :=
    Executor.run_of_answer (Asks.answer_eq (x := c.executor) (r := c.request) reads asks) spawned
  have asked {probes shell label asked}
      (asks : Asks sys.host environment config.table args.request.shell command s probes shell label asked) :
      (c.run sys s).1.probes = probes := by
    rw [probes_of_direct direct, ran asks rfl, ExecutionReport.probes_ofChild]
  refine ⟨fun probes => ⟨?_, fun ⟨_, _, _, asks⟩ => asked asks⟩, fun _ _ _ _ _ _ => ran, fun unnamed => ?_⟩
  · rintro rfl
    obtain ⟨probes, shell, label, s', asks⟩ :=
      Asks.exists_asks reads config.table args.request.shell command s
    rw [asked asks]
    exact ⟨_, _, _, asks⟩
  · obtain ⟨probes, shell, label, s', asks⟩ := Asks.exists_asks reads config.table none command s
    rw [asks.answer_report_eq reads]
    rw [← unnamed] at asks
    refine ⟨rfl, asked asks, ran asks rfl, ?_⟩
    rw [Invocation.program_of, Shell.platformDefault_eq]

/-- A host without the first of its shells, with an empty variable, and whose query fails. With a runner it is not asked
at all. -/
theorem run_asks_past_missing_shell :
    let simulated : SimulatedHost := ⟨.macos, [("SHELL", "")], ["/bin/bash"], []⟩
    let sys : System (List Invocation) :=
      { host := simulated.host
        Decoding := Decoder
        decoding := inferInstance
        spawn := fun invocation _ _ s => (.ok (.ending 2 [] (.exited 0)), s ++ [invocation])
        obey := fun _ _ s => s
        files := .discarding _ }
    let ui : Ui (List Invocation) := ⟨true, fun _ s => (⟨.ok "", []⟩, s)⟩
    let args : ScriptArgs := ⟨.ofCommand "ls", none⟩
    let direct : Call (List Invocation) := ⟨Config.default.executor none, .plain, args⟩
    let shown : Call (List Invocation) := ⟨Config.default.executor none, ⟨some ui, false, none⟩, args⟩
    let probes := [.env "SHELL", .path "/bin/zsh", .path "/bin/bash", .query "locale" ["charmap"]]
    (direct.run sys []).1.probes = probes ∧
    sys.host.answer (Cli.HostReport.inquire .macos Config.default.table "ls") [] =
      (⟨.macos, some "/bin/bash", "utf-8"⟩, probes, []) ∧
    (direct.executor.run sys direct.request []).1 =
      .ofChild Decoder "ls" "utf-8" probes (.ok (.ending 2 [] (.exited 0))) ∧
    (shown.run sys []).1.probes = [] := by
  intro simulated sys ui args direct shown probes
  have reads : sys.host.Reads fun name _ => simulated.env.lookup name := simulated.reads
  have free : ∀ e ∈ Config.default.table.entries, ¬ Overrides.Applies "ls" e.1 :=
    Overrides.lookup_eq_none_iff.1 (by decide)
  have search : Searches (sys.host.pathExists · []) ["/bin/zsh", "/bin/bash"] [.path "/bin/zsh", .path "/bin/bash"]
      (some "/bin/bash") := @Searches.found _ ["/bin/zsh"] [] _ (by decide +kernel) (by decide +kernel)
  have asks : Asks sys.host (fun name _ => simulated.env.lookup name) Config.default.table none "ls" [] probes
      (some "/bin/bash") "utf-8" [] :=
    .intro (.unset (by rintro _ ⟨⟩; rfl) (.macos rfl search)) (.locale free (.inr rfl) rfl .failed)
  obtain ⟨onHost, -⟩ := run_asks reads Config.default none .plain args []
  obtain ⟨-, onRunner⟩ := run_asks reads Config.default none ⟨some ui, false, none⟩ args []
  obtain ⟨asked, ran, -⟩ := onHost rfl
  refine ⟨(asked probes).2 ⟨_, _, _, asks⟩, asks.answer_report_eq reads, ?_, (onRunner ui rfl).1⟩
  exact congrArg Prod.fst (ran _ _ _ _ _ _ asks rfl)

end Call

end ScriptRunner
