import ScriptRunner.Bindings

namespace ScriptRunner

structure Request where
  command : String
  cwd : String
  /-- The limit in milliseconds. -/
  timeout : Option Nat
  shell : Option String
  env : Bindings

namespace Request

def ofCommand (command : String) : Request := ⟨command, ".", none, none, .empty⟩

def withVar (r : Request) (name value : String) : Request := { r with env := r.env.insert name value }

def withEnv (r : Request) (pairs : List (String × String)) : Request := { r with env := .ofPairs pairs }

end Request

/-- A request, and the file that its output is appended to if it succeeds. -/
structure ScriptArgs where
  request : Request
  redirectTo : Option String

structure UiCall where
  command : String
  cwd : String
  shell : Option String
  timeout : Option Nat
  env : Bindings

end ScriptRunner
