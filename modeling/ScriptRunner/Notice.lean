import ScriptRunner.Text.Blank

namespace ScriptRunner

inductive LogLevel where
  | info | warn | error
  deriving DecidableEq, Repr

namespace LogLevel

def name : LogLevel → String
  | .info => "info"
  | .warn => "warn"
  | .error => "error"

def ofName? (name : String) : Option LogLevel := [LogLevel.info, .warn, .error].find? (·.name == name)

end LogLevel

structure LogLine where
  level : LogLevel
  text : String
  deriving DecidableEq, Repr

namespace LogLine

def textAt (lines : List LogLine) (level : LogLevel) : String :=
  String.join ((lines.filter (·.level == level)).map LogLine.text)

end LogLine

structure TraceEvent where
  level : String
  target : String
  message : String
  deriving DecidableEq, Repr

namespace TraceEvent

def ofLine (l : LogLine) : TraceEvent := ⟨l.level.name.toUpper, "fx_script::output", Text.trimEnd l.text⟩

end TraceEvent

inductive ProgressEvent where
  | start (title : String)
  | next (detail : String)
  | finish (success : Bool)
  deriving DecidableEq, Repr

inductive Notice where
  | progress (e : ProgressEvent)
  | line (l : LogLine)
  | terminal (toStderr : Bool) (bytes : List UInt8)
  /-- Bytes that were added to a file that is standard error or output. -/
  | added (toStderr : Bool) (bytes : List UInt8)
  deriving DecidableEq, Repr

namespace Notice

def line? : Notice → Option LogLine
  | .line l => some l
  | _ => none

def progress? : Notice → Option ProgressEvent
  | .progress e => some e
  | _ => none

def lines (ns : List Notice) : List LogLine := ns.filterMap line?

def ticks (ns : List Notice) : List ProgressEvent := ns.filterMap progress?

end Notice

end ScriptRunner
