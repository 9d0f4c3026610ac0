import ScriptRunner.Proofs.Shell.Flavor
import ScriptRunner.Shell.Invocation

namespace ScriptRunner

namespace ShellFlavor

def arguments : ShellFlavor → String → List String
  | .cmd, command => ["/d", "/s", "/c", "\"" ++ command ++ "\""]
  | .powershell, command => ["-NoProfile", "-NonInteractive", "-Command", command]
  | .posix, command => ["-c", command]

def operand : ShellFlavor → String → String
  | .cmd, command => "\"" ++ command ++ "\""
  | _, command => command

theorem getLast?_arguments (flavor : ShellFlavor) (command : String) :
    (flavor.arguments command).getLast? = some (flavor.operand command) := by
  cases flavor <;> rfl

theorem operand_injective (flavor : ShellFlavor) : Function.Injective flavor.operand := by
  intro command command' same
  cases flavor with
  | cmd => exact String.append_right_inj _ |>.1 (String.append_left_inj _ |>.1 same)
  | powershell => exact same
  | posix => exact same

theorem arguments_injective (flavor : ShellFlavor) : Function.Injective flavor.arguments := by
  intro command command' same
  apply operand_injective flavor
  have last := congrArg List.getLast? same
  rw [getLast?_arguments, getLast?_arguments] at last
  exact Option.some.inj last

end ShellFlavor

theorem Shell.platformDefault_eq (platform : Platform) :
    platformDefault platform = if platform = .windows then "cmd.exe" else "/bin/sh" := by
  cases platform <;> rfl

namespace Invocation

open ShellFlavor (Directory FileName cmdNames powershellNames programEnding)
open Text (lowerAscii)

variable (shell : Option String) (command : String) (platform : Platform)

theorem of_eq :
    of shell command platform =
      let program := shell.getD (Shell.platformDefault platform)
      ⟨program, (ShellFlavor.of program).arguments command, ShellFlavor.of program = .cmd⟩ := by
  unfold of
  cases flavor : ShellFlavor.of (shell.getD (Shell.platformDefault platform)) <;> simp [flavor, ShellFlavor.arguments]

theorem program_of : (of shell command platform).program = shell.getD (Shell.platformDefault platform) := by
  rw [of_eq]

theorem args_of :
    (of shell command platform).args = (ShellFlavor.of (of shell command platform).program).arguments command := by
  rw [of_eq]

theorem verbatim_of :
    (of shell command platform).verbatim = true ↔ ShellFlavor.of (of shell command platform).program = .cmd := by
  simp only [of_eq, decide_eq_true_eq]

theorem command_eq_of_of_eq {shell shell' : Option String} {command command' : String} {platform platform' : Platform}
    (same : of shell command platform = of shell' command' platform') : command = command' := by
  have args := congrArg Invocation.args same
  rw [args_of, args_of, same] at args
  exact ShellFlavor.arguments_injective _ args

/-- The name behind the last separator of a shell decides its family, so that directories, the case of the letters and
one ending of programs do not matter. What is started is the shell itself, or the default of the platform, which has no
other say. The family of the program and the command decide the arguments, and the last one is the command, in quotes
for the interpreter of Windows. No invocation stands for two commands. -/
theorem of_follows_flavor :
    (∀ shell, ∃! name, FileName shell name) ∧
    (∀ shell name, FileName shell name →
      (ShellFlavor.of shell = .cmd ↔ lowerAscii name ∈ cmdNames) ∧
      (ShellFlavor.of shell = .powershell ↔ lowerAscii name ∈ powershellNames) ∧
      (ShellFlavor.of shell = .posix ↔ lowerAscii name ∉ cmdNames ++ powershellNames)) ∧
    (∀ dir shell, Directory dir → ShellFlavor.of (dir ++ shell) = ShellFlavor.of shell) ∧
    (∀ shell shell', lowerAscii shell = lowerAscii shell' → ShellFlavor.of shell = ShellFlavor.of shell') ∧
    (∀ shell ending, lowerAscii ending = programEnding → (∀ start, lowerAscii shell ≠ start ++ programEnding) →
      ShellFlavor.of (shell ++ ending) = ShellFlavor.of shell) ∧
    ∀ (shell : Option String) (command : String) (platform : Platform),
      let i := of shell command platform
      i.program = shell.getD (if platform = .windows then "cmd.exe" else "/bin/sh") ∧
      (∀ platform', shell.isSome = true → of shell command platform' = i) ∧
      (∀ shell' platform', ShellFlavor.of (of shell' command platform').program = ShellFlavor.of i.program →
        (of shell' command platform').args = i.args) ∧
      i.args.getLast? = some (if ShellFlavor.of i.program = .cmd then "\"" ++ command ++ "\"" else command) ∧
      (∀ shell' command' platform', of shell' command' platform' = i → command' = command) ∧
      (i.verbatim = true ↔ ShellFlavor.of i.program = .cmd) := by
  refine ⟨ShellFlavor.existsUnique_fileName, fun shell name named => ?_, fun dir shell ends => ?_,
    fun shell shell' same => ?_, fun shell ending spelled free => ?_, fun shell command platform => ?_⟩
  · have cmd := ShellFlavor.of_eq_cmd_iff named
    have powershell := ShellFlavor.of_eq_powershell_iff named
    refine ⟨cmd, powershell, ?_⟩
    rw [ShellFlavor.of_eq_posix_iff, Ne, cmd, Ne, powershell, List.mem_append, not_or]
  · exact ShellFlavor.of_append_left ends shell
  · exact ShellFlavor.of_eq_of_lowerAscii_eq same
  · refine ShellFlavor.of_append_right spelled ?_
    rintro ⟨start, whole⟩
    exact free (String.ofList start) (String.toList_injective (by simp [← whole]))
  · refine ⟨?_, fun platform' given => ?_, fun shell' platform' => ?_, ?_, fun shell' command' platform' => ?_, ?_⟩
    · rw [program_of, Shell.platformDefault_eq]
    · obtain ⟨program, rfl⟩ := Option.isSome_iff_exists.1 given
      rfl
    · intro same
      rw [args_of, args_of, same]
    · rw [args_of, ShellFlavor.getLast?_arguments]
      cases ShellFlavor.of _ <;> rfl
    · exact command_eq_of_of_eq
    · exact verbatim_of shell command platform

/-- A path with both separators, with upper case letters and with an ending, and the same shell without them. -/
theorem of_windows_path :
    FileName "C:\\Tools/PwSh" "PwSh" ∧ Directory "C:\\Tools/" ∧ ShellFlavor.of "C:\\Tools/PwSh" = .powershell ∧
    ShellFlavor.of ("C:\\Tools/" ++ "PwSh") = ShellFlavor.of "PwSh" ∧ ShellFlavor.of "PwSh" = ShellFlavor.of "pwsh" ∧
    ShellFlavor.of ("PwSh" ++ ".EXE") = ShellFlavor.of "PwSh" ∧
    of (some "PwSh") "a \"b" .linux = of (some "PwSh") "a \"b" .windows ∧
    (of (some "cmd") "a \"b" .linux).args = (of none "a \"b" .windows).args ∧
    (of none "a \"b" .windows).args.getLast? = some "\"a \"b\"" := by
  obtain ⟨-, families, directories, cases, endings, invocations⟩ := of_follows_flavor
  have ends : Directory "C:\\Tools/" := by simp [Directory, ShellFlavor.isSeparator]
  have named : FileName "C:\\Tools/PwSh" "PwSh" :=
    ⟨by simp [ShellFlavor.isSeparator], "C:\\Tools/", by decide, ends⟩
  have lower : lowerAscii "PwSh" = "pwsh" := by decide +kernel
  have lower' : lowerAscii "pwsh" = "pwsh" := by decide +kernel
  have plain : ∀ start, lowerAscii "PwSh" ≠ start ++ programEnding := by
    intro start whole
    have suffix : programEnding.toList <:+ "pwsh".toList := ⟨start.toList, by rw [← lower, whole, String.toList_append]⟩
    exact absurd suffix (by decide)
  obtain ⟨-, platforms, -⟩ := invocations (some "PwSh") "a \"b" .linux
  obtain ⟨-, -, flavors, last, -⟩ := invocations none "a \"b" .windows
  refine ⟨named, ends, (families _ _ named).2.1.2 (by rw [lower]; decide), directories _ _ ends,
    cases _ _ (lower.trans lower'.symm), endings _ _ (by decide +kernel) plain, (platforms .windows rfl).symm,
    flavors (some "cmd") .linux (by decide), ?_⟩
  rw [last]
  decide

end Invocation

end ScriptRunner
