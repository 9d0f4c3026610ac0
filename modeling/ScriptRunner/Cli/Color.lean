namespace ScriptRunner.Cli

structure ColorSettings where
  noColor : Option String
  color : Option String

namespace ColorSettings

def enabled (s : ColorSettings) (terminal : Bool) : Bool :=
  if s.noColor == some "1" then false else if s.color == some "1" then true else terminal

end ColorSettings

inductive Role where
  | header | literal | context | error
  deriving DecidableEq, Repr

namespace Role

def code : Role → Nat
  | .header => 74
  | .literal => 250
  | .context => 245
  | .error => 167

def paint (r : Role) (enabled : Bool) (text : String) : String :=
  if enabled then "\x1b[38;5;" ++ toString r.code ++ "m" ++ text ++ "\x1b[0m" else text

end Role

end ScriptRunner.Cli
