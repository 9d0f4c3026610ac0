import ScriptRunner.Host
import ScriptRunner.Path

namespace ScriptRunner

structure SimulatedHost where
  platform : Platform
  env : List (String × String)
  paths : List String
  queries : List (String × Except QueryError String)

namespace SimulatedHost

def query (h : SimulatedHost) (program : String) : Except QueryError String :=
  match h.queries.lookup program with
  | some r => r
  | none => .error (.notFound (program ++ ": not found"))

def host {σ : Type} (h : SimulatedHost) : Host σ where
  platform := h.platform
  env name _ := (h.env.lookup name).filter (!·.isEmpty)
  pathExists path _ := h.paths.any (Path.same path)
  query program _ s := (h.query program, s)

end SimulatedHost

end ScriptRunner
