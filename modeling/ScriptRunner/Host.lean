namespace ScriptRunner

inductive Platform where
  | windows | macos | linux | other
  deriving DecidableEq, Repr

namespace Platform

def name : Platform → String
  | .windows => "windows"
  | .macos => "macos"
  | .linux => "linux"
  | .other => "other"

end Platform

inductive QueryError where
  | notFound (text : String)
  | permissionDenied (text : String)
  | notDirectory (text : String)
  | invalid (text : String)
  | unclassified (text : String)
  | other (text : String)

namespace QueryError

def message : QueryError → String
  | .notFound text | .permissionDenied text | .notDirectory text | .invalid text | .unclassified text
  | .other text => text

end QueryError

inductive Probe where
  | env (name : String)
  | path (path : String)
  | query (program : String) (args : List String)
  deriving DecidableEq, Repr

namespace Probe

def text : Probe → String
  | .env v => "env " ++ v
  | .path p => "path " ++ p
  | .query program args => " ".intercalate ("query" :: program :: args)

end Probe

/-- Questions whose answers decide what is asked next. -/
inductive Inquiry (α : Type) where
  | done (a : α)
  | env (name : String) (next : Option String → Inquiry α)
  | path (path : String) (next : Bool → Inquiry α)
  | query (program : String) (args : List String) (next : Except QueryError String → Inquiry α)

namespace Inquiry

def bind {α β : Type} : Inquiry α → (α → Inquiry β) → Inquiry β
  | .done a, f => f a
  | .env name next, f => .env name fun r => (next r).bind f
  | .path p next, f => .path p fun r => (next r).bind f
  | .query program args next, f => .query program args fun r => (next r).bind f

instance : Monad Inquiry where
  pure := .done
  bind := bind

def askEnv (name : String) : Inquiry (Option String) := .env name .done

def askPath (path : String) : Inquiry Bool := .path path .done

def askQuery (program : String) (args : List String) : Inquiry (Except QueryError String) :=
  .query program args .done

end Inquiry

/-- Answers, over a state `σ` of the machine that helper commands may change. An empty variable counts as
unset. -/
structure Host (σ : Type) where
  platform : Platform
  env : String → σ → Option String
  pathExists : String → σ → Bool
  query : String → List String → σ → Except QueryError String × σ

namespace Host

def answer {σ α : Type} (h : Host σ) : Inquiry α → σ → α × List Probe × σ
  | .done a, s => (a, [], s)
  | .env name next, s =>
    let (a, probes, s) := h.answer (next (h.env name s)) s
    (a, .env name :: probes, s)
  | .path p next, s =>
    let (a, probes, s) := h.answer (next (h.pathExists p s)) s
    (a, .path p :: probes, s)
  | .query program args next, s =>
    let (r, s) := h.query program args s
    let (a, probes, s) := h.answer (next r) s
    (a, .query program args :: probes, s)

end Host

end ScriptRunner
