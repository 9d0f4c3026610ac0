namespace ScriptRunner.Cli

inductive Refusal where
  | usage | help | version
  deriving DecidableEq, Repr

inductive OptionKind where
  | flag
  | single (accepts : String → Bool)
  | repeated (accepts : String → Bool)
  | refuse (r : Refusal)

structure OptionRule where
  name : String
  letter : Option Char
  kind : OptionKind

inductive Operands where
  | none
  | one (accepts : String → Bool)
  | command
  /-- The name of one of these subcommands, which reads the words behind it. -/
  | subcommand (names : List String)

structure Grammar where
  options : List OptionRule
  operands : Operands

structure Found where
  options : List (String × String)
  words : List String
  subcommand : Option (String × List String)

namespace Found

def empty : Found := ⟨[], [], none⟩

def has (f : Found) (name : String) : Bool := f.options.any (·.1 == name)

def values (f : Found) (name : String) : List String := (f.options.filter (·.1 == name)).map Prod.snd

def value? (f : Found) (name : String) : Option String := (f.values name).head?

def addOption (f : Found) (name value : String) : Found := { f with options := f.options ++ [(name, value)] }

end Found

namespace Grammar

def byName? (g : Grammar) (name : String) : Option OptionRule := g.options.find? (·.name == name)

def byLetter? (g : Grammar) (c : Char) : Option OptionRule := g.options.find? (·.letter == some c)

def takesCommand (g : Grammar) : Bool :=
  match g.operands with
  | .command => true
  | _ => false

inductive Shape where
  | plain
  | escape
  | long (name : String) (attached : Option String)
  | letters (cs : List Char)

def splitValue (s : List Char) : String × Option String :=
  match s.dropWhile (· != '=') with
  | [] => (String.ofList s, none)
  | _ :: value => (String.ofList (s.takeWhile (· != '=')), some (String.ofList value))

/-- A word with a hyphen that is no known option is plain for a grammar that takes a command. -/
def shape (g : Grammar) (word : String) : Shape :=
  match word.toList with
  | ['-', '-'] => .escape
  | '-' :: '-' :: s =>
    let (name, value) := splitValue s
    if (g.byName? name).isNone && g.takesCommand then .plain else .long name value
  | '-' :: c :: cs =>
    if g.takesCommand && (c :: cs).any fun c => (g.byLetter? c).isNone then .plain else .letters (c :: cs)
  | _ => .plain

def assign (rule : OptionRule) (value : String) (f : Found) : Except Refusal Found :=
  match rule.kind with
  | .single accepts =>
    if f.has rule.name || !accepts value then .error .usage else .ok (f.addOption rule.name value)
  | .repeated accepts => if accepts value then .ok (f.addOption rule.name value) else .error .usage
  | _ => .error .usage

def mention (rule : OptionRule) (f : Found) : Except Refusal (Found × Option OptionRule) :=
  match rule.kind with
  | .flag => if f.has rule.name then .error .usage else .ok (f.addOption rule.name "", none)
  | .refuse r => .error r
  | _ => .ok (f, some rule)

/-- Letters behind one hyphen. The first that takes a value takes the letters behind it, if there are any. -/
def cluster (g : Grammar) : List Char → Found → Except Refusal (Found × Option OptionRule)
  | [], f => .ok (f, none)
  | c :: cs, f =>
    match g.byLetter? c with
    | none => .error .usage
    | some rule =>
      match mention rule f with
      | .error r => .error r
      | .ok (f, none) => cluster g cs f
      | .ok (f, some rule) =>
        match cs with
        | [] => .ok (f, some rule)
        | '=' :: value => (assign rule (String.ofList value) f).map fun f => (f, none)
        | value => (assign rule (String.ofList value) f).map fun f => (f, none)

def long (g : Grammar) (name : String) (attached : Option String) (f : Found) :
    Except Refusal (Found × Option OptionRule) :=
  match g.byName? name with
  | none => .error .usage
  | some rule =>
    match attached with
    | some value => (assign rule value f).map fun f => (f, none)
    | none => mention rule f

def afterEscape (g : Grammar) (ws : List String) (f : Found) : Except Refusal Found :=
  match g.operands, ws with
  | _, [] => .ok f
  | .one accepts, [w] => if f.words.isEmpty && accepts w then .ok { f with words := [w] } else .error .usage
  | .command, ws => .ok { f with words := ws }
  | _, _ => .error .usage

def readFrom (g : Grammar) : List String → Option OptionRule → Found → Except Refusal Found
  | [], none, f => .ok f
  | [], some _, _ => .error .usage
  | w :: ws, some rule, f =>
    match g.shape w with
    | .plain => (assign rule w f).bind (readFrom g ws none)
    | _ => .error .usage
  | w :: ws, none, f =>
    match g.shape w with
    | .escape => g.afterEscape ws f
    | .long name attached => (g.long name attached f).bind fun (f, waiting) => readFrom g ws waiting f
    | .letters cs => (g.cluster cs f).bind fun (f, waiting) => readFrom g ws waiting f
    | .plain =>
      match g.operands with
      | .command => .ok { f with words := w :: ws }
      | .one accepts =>
        if f.words.isEmpty && accepts w then readFrom g ws none { f with words := [w] } else .error .usage
      | .subcommand names => if names.contains w then .ok { f with subcommand := some (w, ws) } else .error .usage
      | .none => .error .usage

def read (g : Grammar) (words : List String) : Except Refusal Found := g.readFrom words none .empty

end Grammar

end ScriptRunner.Cli
