import ScriptRunner.Cli.Color
import ScriptRunner.Cli.Render
import ScriptRunner.Driver

namespace ScriptRunner.Cli

structure HostReport where
  platform : Platform
  shell : Option String
  encoding : String
  deriving DecidableEq, Repr

namespace HostReport

def inquire (platform : Platform) (overrides : Overrides) (command : String) : Inquiry HostReport :=
  (Shell.resolve platform).bind fun shell =>
    (Encoding.resolve platform overrides command).bind fun label => .done ⟨platform, shell, label⟩

def textLine (colors : Bool) (title gap text : String) : String :=
  Role.header.paint colors title ++ gap ++ Role.literal.paint colors text ++ "\n"

def render (colors : Bool) (r : HostReport) : OutputFormat → String
  | .text =>
    textLine colors "platform:" " " r.platform.name ++ textLine colors "shell:" "    " (r.shell.getD "(none)") ++
      textLine colors "encoding:" " " r.encoding
  | .json =>
    document (.object [("platform", .string r.platform.name), ("shell", .ofOption .string r.shell),
      ("encoding", .string r.encoding)])

end HostReport

end ScriptRunner.Cli
