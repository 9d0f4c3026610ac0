import ScriptRunner.Posix.Task

namespace ScriptRunner.Posix.Condition

abbrev Check := ExceptT Octets Act

def inspect (path : Octets) : Check (Option FileInfo) := do
  match ← (Act.call (.inspect path) : Act (Except Errno FileInfo)) with
  | .ok info => return some info
  | .error _ => return none

def integer (s : Octets) : Check Int :=
  let cs := (s.toList.dropWhile (· == ' ')).reverse.dropWhile (· == ' ') |>.reverse
  let n? := match cs with
    | '-' :: ds => (Octets.digitsBelow 10 ds).map fun n => -(n : Int)
    | '+' :: ds => (Octets.digitsBelow 10 ds).map Int.ofNat
    | ds => (Octets.digitsBelow 10 ds).map Int.ofNat
  match n? with
  | some n => return n
  | none => throw ("Illegal number: " ++ s)

def unaryOperators : List Octets :=
  ["-n", "-z", "-e", "-f", "-d", "-r", "-w", "-x", "-s", "-t", "-L", "-h", "-p", "-S", "-b", "-c", "-u", "-g", "-k",
    "-O", "-G"]

def binaryOperators : List Octets :=
  ["=", "!=", "<", ">", "-eq", "-ne", "-lt", "-le", "-gt", "-ge", "-nt", "-ot", "-ef"]

def unary (op s : Octets) : Check Bool := do
  match op with
  | "-n" => return s != ""
  | "-z" => return s == ""
  | "-t" => return false
  | _ =>
    match ← inspect s with
    | none => return false
    | some i =>
      match op with
      | "-f" => return i.isFile
      | "-d" => return i.isDir
      | "-x" => return i.executable
      | "-s" => return i.size > 0
      | "-c" => return i.isDevice
      | "-e" | "-r" | "-w" | "-O" | "-G" => return true
      | _ => return false

def binary (a op b : Octets) : Check Bool := do
  match op with
  | "=" => return a == b
  | "!=" => return a != b
  | "<" => return a < b
  | ">" => return b < a
  | "-nt" | "-ot" | "-ef" => return op == "-ef" && a == b
  | _ =>
    let x ← integer a
    let y ← integer b
    match op with
    | "-eq" => return x == y
    | "-ne" => return x != y
    | "-lt" => return x < y
    | "-le" => return x ≤ y
    | "-gt" => return x > y
    | _ => return x ≥ y

def ofTwo (a s : Octets) : Check Bool := if a == "!" then return s == "" else unary a s

mutual

def anyOf : Nat → List Octets → Check (Bool × List Octets)
  | 0, _ => throw "syntax error"
  | n + 1, ws => do
    let (a, rest) ← allOf n ws
    match rest with
    | "-o" :: rest =>
      let (b, rest) ← anyOf n rest
      return (a || b, rest)
    | _ => return (a, rest)

def allOf : Nat → List Octets → Check (Bool × List Octets)
  | 0, _ => throw "syntax error"
  | n + 1, ws => do
    let (a, rest) ← single n ws
    match rest with
    | "-a" :: rest =>
      let (b, rest) ← allOf n rest
      return (a && b, rest)
    | _ => return (a, rest)

def single : Nat → List Octets → Check (Bool × List Octets)
  | 0, _ => throw "syntax error"
  | n + 1, ws => do
    match ws with
    | [] => throw "argument expected"
    | [a] => return (a != "", [])
    | a :: op :: more =>
      match binaryOperators.contains op, more with
      | true, [] =>
        if a == "!" || unaryOperators.contains a then return (← ofTwo a op, [])
        else throw (op ++ ": argument expected")
      | true, b :: rest => return (← binary a op b, rest)
      | _, _ =>
        if a == "!" then
          let (b, rest) ← single n (op :: more)
          return (!b, rest)
        else if a == "(" then
          let (b, rest) ← anyOf n (op :: more)
          match rest with
          | ")" :: rest => return (b, rest)
          | _ => throw "closing paren expected"
        else if unaryOperators.contains a then return (← unary a op, more)
        else return (a != "", op :: more)

end

def holds (ws : List Octets) : Act (Except Octets Bool) := do
  if ws.isEmpty then return .ok false
  match ← (anyOf (4 * ws.length + 4) ws).run with
  | .error e => return .error e
  | .ok (b, []) => return .ok b
  | .ok (_, rest) => return .error (ws.getD (ws.length - rest.length - 1) "" ++ ": unexpected operator")

end ScriptRunner.Posix.Condition
