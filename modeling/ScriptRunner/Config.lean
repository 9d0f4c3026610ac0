import ScriptRunner.Driver
import ScriptRunner.Text.Quoted
import ScriptRunner.Timeout
import ScriptRunner.Toml.Document

namespace ScriptRunner

structure Config where
  /-- In milliseconds. Zero switches the limit off. -/
  timeout : Option Nat
  overrides : Bindings

inductive ConfigError where
  | malformed
  | unknownField (name : String)
  | badNumber (n : Int)
  | badType (v : Toml.Value) (expected : String)

namespace ConfigError

def describe : Toml.Value → String
  | .string s => "string " ++ Text.quoted s
  | .integer n => "integer `" ++ toString n ++ "`"
  | .float text => "floating point `" ++ text ++ "`"
  | .boolean b => "boolean `" ++ toString b ++ "`"
  | .datetime _ | .table _ => "map"
  | .array _ => "sequence"

def message : ConfigError → String
  | .malformed => "not a valid document"
  | .unknownField name => "unknown field `" ++ name ++ "`, expected `default_timeout_ms` or `encoding_overrides`"
  | .badNumber n => "invalid value: integer `" ++ toString n ++ "`, expected u64"
  | .badType v expected => "invalid type: " ++ describe v ++ ", expected " ++ expected

end ConfigError

inductive LoadError where
  | unreadable (path cause : String)
  | invalid (path : String) (cause : ConfigError)

namespace LoadError

def message : LoadError → String
  | .unreadable path cause => "failed to read " ++ path ++ ": " ++ cause
  | .invalid path cause => "invalid config " ++ path ++ ": " ++ cause.message

def cause : LoadError → String
  | .unreadable _ cause => cause
  | .invalid _ cause => cause.message

end LoadError

namespace Config

def default : Config := ⟨none, .empty⟩

def readTimeout : Toml.Value → Except ConfigError Nat
  | .integer n => if n < 0 then .error (.badNumber n) else .ok n.toNat
  | v => .error (.badType v "u64")

def readLabels : List (String × Toml.Value) → Except ConfigError (List (String × String))
  | [] => .ok []
  | (package, .string label) :: rest => (readLabels rest).map ((package, label) :: ·)
  | (_, v) :: _ => .error (.badType v "a string")

def readOverrides : Toml.Value → Except ConfigError Bindings
  | .table entries => (readLabels entries).map Bindings.ofPairs
  | .datetime text => .ok (.ofPairs [("$__toml_private_datetime", text)])
  | v => .error (.badType v "a map")

def ofEntries : List (String × Toml.Value) → Config → Except ConfigError Config
  | [], c => .ok c
  | (key, v) :: rest, c =>
    if key = "default_timeout_ms" then
      (readTimeout v).bind fun n => ofEntries rest { c with timeout := some n }
    else if key = "encoding_overrides" then
      (readOverrides v).bind fun b => ofEntries rest { c with overrides := b }
    else .error (.unknownField key)

def parse (text : String) : Except ConfigError Config :=
  match Toml.parse? text with
  | none => .error .malformed
  | some entries => ofEntries entries default

def load (path : String) (content : Except String String) : Except LoadError Config :=
  match content with
  | .error cause => .error (.unreadable path cause)
  | .ok text => (parse text).mapError (.invalid path)

def table (c : Config) : Overrides := Overrides.builtIn.insertAll c.overrides.entries

def defaultTimeout (c : Config) (variableText : Option String) : Option Nat :=
  Timeout.default c.timeout variableText

def executor (c : Config) (variableText : Option String) : Executor :=
  ⟨c.table, c.defaultTimeout variableText⟩

end Config

end ScriptRunner
