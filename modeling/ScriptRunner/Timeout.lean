import ScriptRunner.Text.Ascii
import ScriptRunner.Text.Blank

namespace ScriptRunner.Timeout

/-- The limit in the environment variable: a positive number of 64 bits, with white space around it. -/
def ofVariable (value : Option String) : Option Nat :=
  (value.bind fun v => Text.signedDecimalBelow? Text.wordBound (Text.trim v).toList).filter (0 < ·)

/-- The limit of runs that set none: the configured one, else the variable's. -/
def default (configured : Option Nat) (variableText : Option String) : Option Nat :=
  match configured with
  | some 0 => none
  | some n => some n
  | none => ofVariable variableText

def ofFlag (flag : Option Nat) : Option Nat := flag.filter (0 < ·)

end ScriptRunner.Timeout
