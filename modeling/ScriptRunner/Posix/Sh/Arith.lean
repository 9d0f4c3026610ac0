import ScriptRunner.Posix.Octets

namespace ScriptRunner.Posix.Sh.Arith

inductive Expr where
  | number (n : Int64)
  | variable (name : Octets)
  | unary (op : String) (e : Expr)
  | binary (op : String) (a b : Expr)
  | choose (condition a b : Expr)
  | assign (op name : Octets) (e : Expr)

inductive ArithError where
  | expecting (what : String)
  | divisionByZero
  | illegal (text : Octets)

def ArithError.message (text : Octets) : ArithError → Octets
  | .expecting what => "arithmetic expression: expecting " ++ what ++ ": \"" ++ text ++ "\""
  | .divisionByZero => "arithmetic expression: division by zero: \"" ++ text ++ "\""
  | .illegal value => "Illegal number: " ++ value

inductive Token where
  | number (n : Int64)
  | name (s : Octets)
  | op (s : String)
  deriving DecidableEq

def operators : List String :=
  ["<<=", ">>=", "<<", ">>", "<=", ">=", "==", "!=", "&&", "||", "+=", "-=", "*=", "/=", "%=", "&=", "|=", "^=",
    "+", "-", "*", "/", "%", "<", ">", "=", "!", "~", "&", "|", "^", "?", ":", "(", ")"]

def isNameStart (c : Char) : Bool := c.isAlpha || c == '_'
def isNamePart (c : Char) : Bool := c.isAlphanum || c == '_'

def number? (digits : List Char) : Option Int64 :=
  Int64.ofNat <$> match digits with
    | '0' :: 'x' :: ds | '0' :: 'X' :: ds => Octets.digitsBelow 16 ds
    | '0' :: d :: ds => Octets.digitsBelow 8 (d :: ds)
    | ds => Octets.digitsBelow 10 ds

def scan : Nat → List Char → Except ArithError (List Token)
  | 0, _ | _, [] => .ok []
  | n + 1, c :: cs =>
    if c == ' ' || c == '\t' || c == '\n' then scan n cs
    else if c.isDigit then
      let word := (c :: cs).takeWhile Char.isAlphanum
      match number? word with
      | some v => (scan n ((c :: cs).drop word.length)).map (.number v :: ·)
      | none => .error (.expecting "EOF")
    else if isNameStart c then
      let word := (c :: cs).takeWhile isNamePart
      (scan n ((c :: cs).drop word.length)).map (.name (String.ofList word) :: ·)
    else
      match operators.find? fun op => op.toList.isPrefixOf (c :: cs) with
      | some op => (scan n ((c :: cs).drop op.length)).map (.op op :: ·)
      | none => .error (.expecting "EOF")

def rank? (op : String) : Option Nat :=
  [("||", 1), ("&&", 2), ("|", 3), ("^", 4), ("&", 5), ("==", 6), ("!=", 6), ("<", 7), (">", 7), ("<=", 7),
    (">=", 7), ("<<", 8), (">>", 8), ("+", 9), ("-", 9), ("*", 10), ("/", 10), ("%", 10)].lookup op

def assignments : List String := ["=", "+=", "-=", "*=", "/=", "%=", "<<=", ">>=", "&=", "|=", "^="]

abbrev Read := Except ArithError (Expr × List Token)

mutual

def expression : Nat → List Token → Read
  | 0, _ => .error (.expecting "primary")
  | n + 1, ts =>
    match ts with
    | .name v :: .op op :: rest =>
      if assignments.contains op then
        (expression n rest).map fun (e, rest) => (.assign (String.ofList (op.toList.dropLast)) v e, rest)
      else choice n ts
    | _ => choice n ts

def choice : Nat → List Token → Read
  | 0, _ => .error (.expecting "primary")
  | n + 1, ts => do
    let (c, rest) ← binary n 1 ts
    match rest with
    | .op "?" :: rest =>
      let (a, rest) ← expression n rest
      match rest with
      | .op ":" :: rest =>
        let (b, rest) ← expression n rest
        return (.choose c a b, rest)
      | _ => throw (.expecting "':'")
    | _ => return (c, rest)

def binary : Nat → Nat → List Token → Read
  | 0, _, _ => .error (.expecting "primary")
  | n + 1, rank, ts => do
    let (a, rest) ← unary n ts
    climb n rank a rest

def climb : Nat → Nat → Expr → List Token → Read
  | 0, _, _, _ => .error (.expecting "primary")
  | n + 1, rank, a, ts =>
    match ts with
    | .op op :: rest =>
      match rank? op with
      | some r =>
        if r < rank then .ok (a, ts)
        else do
          let (b, rest) ← binary n (r + 1) rest
          climb n rank (.binary op a b) rest
      | none => .ok (a, ts)
    | _ => .ok (a, ts)

def unary : Nat → List Token → Read
  | 0, _ => .error (.expecting "primary")
  | n + 1, ts =>
    match ts with
    | .number v :: rest => .ok (.number v, rest)
    | .name v :: rest => .ok (.variable v, rest)
    | .op "(" :: rest => do
      let (e, rest) ← expression n rest
      match rest with
      | .op ")" :: rest => return (e, rest)
      | _ => throw (.expecting "')'")
    | .op op :: rest =>
      if ["+", "-", "!", "~"].contains op then (unary n rest).map fun (e, rest) => (.unary op e, rest)
      else .error (.expecting "primary")
    | [] => .error (.expecting "primary")

end

def parse (s : Octets) : Except ArithError Expr := do
  let ts ← scan s.length s.toList
  if ts.isEmpty then return .number 0
  let (e, rest) ← expression (8 * ts.length + 16) ts
  if rest.isEmpty then return e else throw (.expecting "EOF")

def truth (b : Bool) : Int64 := if b then 1 else 0

def apply (op : String) (a b : Int64) : Except ArithError Int64 :=
  match op with
  | "+" => .ok (a + b)
  | "-" => .ok (a - b)
  | "*" => .ok (a * b)
  | "/" => if b = 0 then .error .divisionByZero else .ok (a / b)
  | "%" => if b = 0 then .error .divisionByZero else .ok (a % b)
  | "<<" => .ok (a <<< b)
  | ">>" => .ok (a >>> b)
  | "&" => .ok (a &&& b)
  | "|" => .ok (a ||| b)
  | "^" => .ok (a ^^^ b)
  | "==" => .ok (truth (a = b))
  | "!=" => .ok (truth (a ≠ b))
  | "<" => .ok (truth (a < b))
  | ">" => .ok (truth (b < a))
  | "<=" => .ok (truth (a ≤ b))
  | ">=" => .ok (truth (b ≤ a))
  | _ => .ok b

def ofText (s : Octets) : Except ArithError Int64 :=
  let blank := fun c : Char => c == ' ' || c == '\t' || c == '\n'
  match (s.toList.dropWhile blank).reverse.dropWhile blank |>.reverse with
  | [] => .ok 0
  | '-' :: ds => (number? ds).elim (.error (.illegal s)) fun n => .ok (-n)
  | '+' :: ds => (number? ds).elim (.error (.illegal s)) .ok
  | ds => (number? ds).elim (.error (.illegal s)) .ok

abbrev Changes := List (Octets × Octets)

def value (look : Octets → Octets) : Expr → Changes → Except ArithError (Int64 × Changes)
  | .number n, s => .ok (n, s)
  | .variable name, s => (ofText ((s.lookup name).getD (look name))).map (·, s)
  | .unary op e, s => (value look e s).map fun (v, s) =>
      (match op with
        | "-" => -v
        | "!" => truth (v = 0)
        | "~" => ~~~v
        | _ => v, s)
  | .binary op a b, s => do
    let (x, s) ← value look a s
    if op == "&&" then
      if x = 0 then return (0, s) else
        let (y, s) ← value look b s
        return (truth (y ≠ 0), s)
    else if op == "||" then
      if x ≠ 0 then return (1, s) else
        let (y, s) ← value look b s
        return (truth (y ≠ 0), s)
    else
      let (y, s) ← value look b s
      return (← apply op x y, s)
  | .choose c a b, s => do
    let (x, s) ← value look c s
    if x ≠ 0 then value look a s else value look b s
  | .assign op name e, s => do
    let (y, s) ← value look e s
    let old ← if op == "" then pure 0 else ofText ((s.lookup name).getD (look name))
    let v ← apply op old y
    return (v, (name, toString v.toInt) :: s)

def evaluate (look : Octets → Octets) (s : Octets) : Except ArithError (Octets × Changes) := do
  let (v, changes) ← value look (← parse s) []
  return (toString v.toInt, changes.reverse)

end ScriptRunner.Posix.Sh.Arith
