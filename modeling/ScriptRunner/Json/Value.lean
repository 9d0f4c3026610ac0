import ScriptRunner.Json.Token

namespace ScriptRunner.Json

inductive Value where
  | null
  | bool (b : Bool)
  | number (n : Number)
  | string (s : String)
  | unpaired
  | array (items : List Value)
  | object (members : List (String × Value))

instance : Inhabited Value := ⟨.null⟩

namespace Value

def int (n : Int) : Value := .number (.int n)

def nat (n : Nat) : Value := .number (.int n)

def ofOption {α : Type} (f : α → Value) : Option α → Value
  | some a => f a
  | none => .null

def get? (v : Value) (key : String) : Option Value :=
  match v with
  | .object members => members.lookup key
  | _ => none

mutual

def ofTokens? : Nat → List Token → Option (Value × List Token)
  | 0, _ => none
  | fuel + 1, t :: rest =>
    match t with
    | .null => some (.null, rest)
    | .bool b => some (.bool b, rest)
    | .number n => some (.number n, rest)
    | .string s => some (.string s, rest)
    | .unpaired => some (.unpaired, rest)
    | .openBracket =>
      match rest with
      | .closeBracket :: rest => some (.array [], rest)
      | rest => (itemsOfTokens? fuel rest).map fun (items, rest) => (.array items, rest)
    | .openBrace =>
      match rest with
      | .closeBrace :: rest => some (.object [], rest)
      | rest => (membersOfTokens? fuel rest).map fun (members, rest) => (.object members, rest)
    | _ => none
  | _ + 1, [] => none

def itemsOfTokens? : Nat → List Token → Option (List Value × List Token)
  | 0, _ => none
  | fuel + 1, ts =>
    match ofTokens? fuel ts with
    | some (v, .comma :: rest) => (itemsOfTokens? fuel rest).map fun (vs, rest) => (v :: vs, rest)
    | some (v, .closeBracket :: rest) => some ([v], rest)
    | _ => none

def membersOfTokens? : Nat → List Token → Option (List (String × Value) × List Token)
  | 0, _ => none
  | fuel + 1, .string k :: .colon :: ts =>
    match ofTokens? fuel ts with
    | some (v, .comma :: rest) => (membersOfTokens? fuel rest).map fun (ms, rest) => ((k, v) :: ms, rest)
    | some (v, .closeBrace :: rest) => some ([(k, v)], rest)
    | _ => none
  | _ + 1, _ => none

end

def ofText? (text : String) : Option Value :=
  match Token.lex? text.toList with
  | none => none
  | some ts =>
    match ofTokens? (2 * ts.length + 1) ts with
    | some (v, []) => some v
    | _ => none

def keyTokens (k : String) : List Char := (Token.string k).text

mutual

def compactText : Value → List Char
  | .null => Token.null.text
  | .bool b => (Token.bool b).text
  | .number n => n.text
  | .string s => (Token.string s).text
  | .unpaired => Token.unpaired.text
  | .array items => '[' :: compactItems items ++ [']']
  | .object members => '\x7b' :: compactMembers members ++ ['\x7d']

def compactItems : List Value → List Char
  | [] => []
  | [v] => compactText v
  | v :: vs => compactText v ++ ',' :: compactItems vs

def compactMembers : List (String × Value) → List Char
  | [] => []
  | [(k, v)] => keyTokens k ++ ':' :: compactText v
  | (k, v) :: ms => keyTokens k ++ ':' :: compactText v ++ ',' :: compactMembers ms

end

def compact (v : Value) : String := String.ofList v.compactText

def newLine (depth : Nat) : List Char := '\n' :: List.replicate (2 * depth) ' '

mutual

def prettyText (depth : Nat) : Value → List Char
  | .null => Token.null.text
  | .bool b => (Token.bool b).text
  | .number n => n.text
  | .string s => (Token.string s).text
  | .unpaired => Token.unpaired.text
  | .array items =>
    '[' :: prettyItems (depth + 1) items ++ (if items.isEmpty then [] else newLine depth) ++ [']']
  | .object members =>
    '\x7b' :: prettyMembers (depth + 1) members ++ (if members.isEmpty then [] else newLine depth) ++ ['\x7d']

def prettyItems (depth : Nat) : List Value → List Char
  | [] => []
  | [v] => newLine depth ++ prettyText depth v
  | v :: vs => newLine depth ++ prettyText depth v ++ ',' :: prettyItems depth vs

def prettyMembers (depth : Nat) : List (String × Value) → List Char
  | [] => []
  | [(k, v)] => newLine depth ++ keyTokens k ++ ": ".toList ++ prettyText depth v
  | (k, v) :: ms =>
    newLine depth ++ keyTokens k ++ ": ".toList ++ prettyText depth v ++ ',' :: prettyMembers depth ms

end

def pretty (v : Value) : String := String.ofList (prettyText 0 v)

end Value

end ScriptRunner.Json
