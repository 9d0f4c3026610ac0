import ScriptRunner.Bindings
import ScriptRunner.Json.FailureDoc

namespace ScriptRunner.Cli

inductive OutputFormat where
  | text | json
  deriving DecidableEq, Repr

namespace OutputFormat

def default : OutputFormat := .text

def ofName? (name : String) : Option OutputFormat :=
  if name = "text" then some .text else if name = "json" then some .json else none

end OutputFormat

open Json

def document (v : Value) : String := v.pretty ++ "\n"

def sortedEntries (b : Bindings) : List (String × String) := b.entries.mergeSort fun p q => decide (p.1 ≤ q.1)

def outputsJson (b : Bindings) : Value :=
  .object [("outputs", .object ((sortedEntries b).map fun p => (p.1, .string p.2)))]

def renderOutputs (b : Bindings) : OutputFormat → String
  | .text => String.join (b.entries.map fun p => p.1 ++ "=" ++ p.2 ++ "\n")
  | .json => document (outputsJson b)

def renderFailure (f : Failure) : String := document (.object [("error", f.toSortedJson)])

end ScriptRunner.Cli
