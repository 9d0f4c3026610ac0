import ScriptRunner.Json.Quoted
import ScriptRunner.Text.Ascii

namespace ScriptRunner.Json

/-- A number, kept as written unless it is an integer. -/
inductive Number where
  | int (n : Int)
  | real (written : String)
  deriving DecidableEq, Repr

inductive Token where
  | openBrace | closeBrace | openBracket | closeBracket | colon | comma
  | null
  | bool (b : Bool)
  | number (n : Number)
  | string (s : String)
  | unpaired
  deriving DecidableEq, Repr

namespace Number

def isMark (c : Char) : Bool := c.isDigit || c == '-' || c == '+' || c == '.' || c == 'e' || c == 'E'

def isWhole (s : List Char) : Bool := s.all Char.isDigit && (s == ['0'] || (s != [] && s.head? != some '0'))

def isExponent : List Char → Bool
  | [] => true
  | 'e' :: s | 'E' :: s =>
    match s with
    | '+' :: s | '-' :: s => s != [] && s.all Char.isDigit
    | s => s != [] && s.all Char.isDigit
  | _ => false

def isTail : List Char → Bool
  | '.' :: s => s.head?.any Char.isDigit && isExponent (s.dropWhile Char.isDigit)
  | s => isExponent s

def read? (s : List Char) : Option Number :=
  let (negative, body) := match s with
    | '-' :: r => (true, r)
    | r => (false, r)
  let whole := body.takeWhile Char.isDigit
  let tail := body.dropWhile Char.isDigit
  if isWhole whole && isTail tail then
    if tail = [] then
      if negative then
        if whole = ['0'] then some (.real "-0") else some (.int (-(Text.decimal whole : Int)))
      else some (.int (Text.decimal whole))
    else some (.real (String.ofList s))
  else none

def text : Number → List Char
  | .int n => (toString n).toList
  | .real written => written.toList

end Number

def isSpace (c : Char) : Bool := c == ' ' || c == '\n' || c == '\t' || c == '\r'

namespace Token

def next? : List Char → Option (Token × List Char)
  | '\x7b' :: rest => some (.openBrace, rest)
  | '\x7d' :: rest => some (.closeBrace, rest)
  | '[' :: rest => some (.openBracket, rest)
  | ']' :: rest => some (.closeBracket, rest)
  | ':' :: rest => some (.colon, rest)
  | ',' :: rest => some (.comma, rest)
  | 'n' :: 'u' :: 'l' :: 'l' :: rest => some (.null, rest)
  | 't' :: 'r' :: 'u' :: 'e' :: rest => some (.bool true, rest)
  | 'f' :: 'a' :: 'l' :: 's' :: 'e' :: rest => some (.bool false, rest)
  | '"' :: rest =>
    (unescape? rest).map fun
      | (some s, rest) => (.string (String.ofList s), rest)
      | (none, rest) => (.unpaired, rest)
  | s => (Number.read? (s.takeWhile Number.isMark)).map fun n => (.number n, s.dropWhile Number.isMark)

def lexWithin : Nat → List Char → Option (List Token)
  | 0, _ => none
  | _ + 1, [] => some []
  | fuel + 1, c :: s =>
    if isSpace c then lexWithin fuel s
    else
      match next? (c :: s) with
      | none => none
      | some (t, rest) => (lexWithin fuel rest).map (t :: ·)

def lex? (s : List Char) : Option (List Token) := lexWithin (s.length + 1) s

def text : Token → List Char
  | .openBrace => ['\x7b']
  | .closeBrace => ['\x7d']
  | .openBracket => ['[']
  | .closeBracket => [']']
  | .colon => [':']
  | .comma => [',']
  | .null => "null".toList
  | .bool true => "true".toList
  | .bool false => "false".toList
  | .number n => n.text
  | .string s => '"' :: escape s.toList ++ ['"']
  | .unpaired => "\"\\ud800\"".toList

end Token

end ScriptRunner.Json
