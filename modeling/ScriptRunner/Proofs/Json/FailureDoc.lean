import ScriptRunner.Cli.Render
import ScriptRunner.Proofs.Json.Value

namespace ScriptRunner

open Json

@[simp] theorem FailureKind.ofJson?_tag (kind : FailureKind) : ofJson? (.string kind.tag) = some kind := by
  cases kind <;> rfl

namespace Json

@[simp] theorem int32?_ofInt32 (n : Int32) : int32? (ExitInfo.ofInt32 n) = some n := by
  have low : -0x80000000 ≤ n.toInt := n.le_toInt
  have high : n.toInt < 0x80000000 := n.toInt_lt
  simp [ExitInfo.ofInt32, Value.int, int32?, low, high]

theorem optional?_ofOption {α : Type} {read : Value → Option α} {write : α → Value}
    (written : ∀ a, read (write a) = some a) (present : ∀ a, write a ≠ .null) {members : List (String × Value)}
    {key : String} {o : Option α} (member : member? members key = some (some (.ofOption write o))) :
    optional? read members key = some o := by
  cases o with
  | none => rw [optional?, member, Value.ofOption]
  | some a =>
    rw [optional?, member, Value.ofOption]
    split
    · next same => cases same
    · next same => cases same
    · next same => exact absurd (Option.some.inj (Option.some.inj same)) (present a)
    · next same =>
      cases same
      rw [written, Option.map_some]

theorem optional?_int32 {members : List (String × Value)} {key : String} {o : Option Int32}
    (member : member? members key = some (some (.ofOption ExitInfo.ofInt32 o))) :
    optional? int32? members key = some o :=
  optional?_ofOption int32?_ofInt32 (fun _ => nofun) member

theorem optional?_text {members : List (String × Value)} {key : String} {o : Option String}
    (member : member? members key = some (some (.ofOption .string o))) :
    optional? text? members key = some o :=
  optional?_ofOption (fun s => (rfl : text? (.string s) = some s)) (fun _ => nofun) member

end Json

namespace ExitInfo

variable (e : ExitInfo)

theorem ofJson?_of_members {members : List (String × Value)}
    (code : member? members "code" = some (some (.ofOption ofInt32 e.code)))
    (signal : member? members "signal" = some (some (.ofOption ofInt32 e.signal)))
    (killed : member? members "killed" = some (some (.bool e.killed)))
    (spawnError : member? members "spawn_error" = some (some (.ofOption .string e.spawnError))) :
    ofJson? (.object members) = some e := by
  simp [ofJson?, optional?_int32 code, optional?_int32 signal, required?, killed, optional?_text spawnError, bool?]

@[simp] theorem ofJson?_toJson : ofJson? e.toJson = some e :=
  e.ofJson?_of_members rfl rfl rfl rfl

@[simp] theorem ofJson?_toSortedJson : ofJson? e.toSortedJson = some e :=
  e.ofJson?_of_members rfl rfl rfl rfl

end ExitInfo

namespace Failure

variable (f : Failure)

theorem ofJson?_of_members {members : List (String × Value)} {exit : Value}
    (kind : member? members "kind" = some (some (.string f.kind.tag)))
    (message : member? members "message" = some (some (.string f.message)))
    (command : member? members "command" = some (some (.string f.command)))
    (exitMember : member? members "exit" = some (some exit)) (read : ExitInfo.ofJson? exit = some f.exit) :
    ofJson? (.object members) = some f := by
  simp [ofJson?, required?, kind, message, command, exitMember, read, text?]

theorem ofJson?_toJson : ofJson? f.toJson = some f :=
  f.ofJson?_of_members rfl rfl rfl rfl f.exit.ofJson?_toJson

theorem ofJson?_toSortedJson : ofJson? f.toSortedJson = some f :=
  f.ofJson?_of_members rfl rfl rfl rfl f.exit.ofJson?_toSortedJson

theorem exact_ofInt32 {o : Option Int32} : Value.Exact (Value.ofOption ExitInfo.ofInt32 o).tokens := by
  intro n member
  cases o with
  | none => simp [Value.ofOption, Value.tokens] at member
  | some i =>
    simp only [Value.ofOption, ExitInfo.ofInt32, Value.int, Value.tokens, List.mem_singleton,
      Token.number.injEq] at member
    exact member ▸ Number.exact_int i.toInt

theorem not_number_of_mem_text {o : Option String} {n : Number} :
    .number n ∉ (Value.ofOption Value.string o).tokens := by
  cases o <;> simp [Value.ofOption, Value.tokens]

theorem exact_of_numbers {ts : List Token}
    (numbers : ∀ n, .number n ∈ ts → .number n ∈ (Value.ofOption ExitInfo.ofInt32 f.exit.code).tokens ∨
      .number n ∈ (Value.ofOption ExitInfo.ofInt32 f.exit.signal).tokens) : Value.Exact ts :=
  fun n member => (numbers n member).elim (exact_ofInt32 n) (exact_ofInt32 n)

theorem exact_toJson : Value.Exact f.toJson.tokens := by
  refine f.exact_of_numbers fun n member => ?_
  simpa [toJson, ExitInfo.toJson, Value.tokens, Value.memberTokens, not_number_of_mem_text] using member

theorem exact_error : Value.Exact (Value.object [("error", f.toSortedJson)]).tokens := by
  refine f.exact_of_numbers fun n member => ?_
  simpa [toSortedJson, ExitInfo.toSortedJson, Value.tokens, Value.memberTokens, not_number_of_mem_text] using member

theorem ofText?_compact : ofText? f.toJson.compact = some f := by
  rw [ofText?, (Value.document_compact f.exact_toJson).ofText?]
  exact f.ofJson?_toJson

def ofDocument? (text : String) : Option Failure := do
  let document ← Value.ofText? text
  let error ← document.get? "error"
  ofJson? error

theorem ofDocument?_renderFailure : ofDocument? (Cli.renderFailure f) = some f := by
  have blank : Value.Blank "\n".toList := by simp [Value.Blank, isSpace]
  have read := (Value.document_pretty f.exact_error blank).ofText?
  rw [ofDocument?, Cli.renderFailure, Cli.document, read]
  exact f.ofJson?_toSortedJson

def rewrite? (text : String) : Option String := (ofText? text).map fun f => f.toJson.compact

def rewriteDocument? (text : String) : Option String := (ofDocument? text).map Cli.renderFailure

section Reader

variable {read : String → Option Failure} {write : Failure → String} (round : ∀ f, read (write f) = some f)

include round

theorem injective_of_read : Function.Injective write := by
  intro f g same
  have again := round f
  rw [same, round] at again
  exact (Option.some.inj again).symm

/-- What has been written once does not change when it is read and written again. -/
theorem bind_of_read (text : String) :
    ((read text).map write).bind (fun again => (read again).map write) = (read text).map write := by
  cases read text with
  | none => rfl
  | some f => simp [round]

end Reader

/-- Both documents of a failure give the failure back: the short one with the members in their declared order, and the
`error` of the one that the command line writes, with the members sorted. So no two failures have one document, and
reading and writing any document changes nothing the second time. -/
theorem documents_round_trip :
    (∀ f, ofText? f.toJson.compact = some f ∧ ofDocument? (Cli.renderFailure f) = some f) ∧
    (Function.Injective fun f : Failure => f.toJson.compact) ∧ Function.Injective Cli.renderFailure ∧
    ∀ text, (rewrite? text).bind rewrite? = rewrite? text ∧
      (rewriteDocument? text).bind rewriteDocument? = rewriteDocument? text := by
  refine ⟨?_, injective_of_read ofText?_compact, injective_of_read ofDocument?_renderFailure, fun text => ⟨?_, ?_⟩⟩
  · exact fun f => ⟨f.ofText?_compact, f.ofDocument?_renderFailure⟩
  · exact bind_of_read ofText?_compact text
  · exact bind_of_read ofDocument?_renderFailure text

end Failure

end ScriptRunner
