import ScriptRunner.Text.Ascii
import ScriptRunner.Text.Decimal
import ScriptRunner.Toml.Value

namespace ScriptRunner.Toml

def isScalarChar (c : Char) : Bool := c.isAlphanum || c == '_' || c == '+' || c == '-' || c == '.' || c == ':'

def digits? (isDigit : Char → Bool) : List Char → Option (List Char)
  | [] => none
  | [c] => if isDigit c then some [c] else none
  | c :: '_' :: s => if isDigit c then (digits? isDigit s).map (c :: ·) else none
  | c :: s => if isDigit c then (digits? isDigit s).map (c :: ·) else none

def whole? (s : List Char) : Option (List Char) :=
  match s with
  | '0' :: _ :: _ => none
  | s => digits? Char.isDigit s

def sign (s : List Char) : Bool × List Char :=
  match s with
  | '-' :: s => (true, s)
  | '+' :: s => (false, s)
  | s => (false, s)

def isHexDigit (c : Char) : Bool := c.isDigit || ('a' ≤ c && c ≤ 'f') || ('A' ≤ c && c ≤ 'F')

def hexDigitValue (c : Char) : Nat :=
  if c.isDigit then c.toNat - 0x30 else if 'a' ≤ c then c.toNat - 0x57 else c.toNat - 0x37

def inBase (base : Nat) (s : List Char) : Nat := s.foldl (fun n c => n * base + hexDigitValue c) 0

def checked (n : Int) : Option Value := if -0x8000000000000000 ≤ n ∧ n < 0x8000000000000000 then some (.integer n) else none

def integer? (s : List Char) : Option Value :=
  match s with
  | '0' :: 'x' :: s => (digits? isHexDigit s).bind fun ds => checked (inBase 16 ds)
  | '0' :: 'o' :: s => (digits? (fun c => '0' ≤ c && c ≤ '7') s).bind fun ds => checked (inBase 8 ds)
  | '0' :: 'b' :: s => (digits? (fun c => c == '0' || c == '1') s).bind fun ds => checked (inBase 2 ds)
  | s =>
    let (negative, s) := sign s
    (whole? s).bind fun ds =>
      let n : Int := inBase 10 ds
      checked (if negative then -n else n)

def isExponentMark (c : Char) : Bool := c == 'e' || c == 'E'

def exponent? (s : List Char) : Option Int :=
  match s with
  | [] => some 0
  | _ :: s =>
    let (negative, s) := sign s
    (digits? Char.isDigit s).map fun ds => let n : Int := inBase 10 ds; if negative then -n else n

def float? (s : List Char) : Option Value :=
  let (negative, body) := sign s
  if body = "inf".toList then some (.float (if negative then "-inf" else "inf"))
  else if body = "nan".toList then some (.float "NaN")
  else
    let mantissa := body.takeWhile fun c => !isExponentMark c
    let tail := body.dropWhile fun c => !isExponentMark c
    let places := mantissa.dropWhile (· != '.')
    if places = [] ∧ tail = [] then none
    else do
      let front ← whole? (mantissa.takeWhile (· != '.'))
      let back ← match places with
        | [] => some []
        | _ :: back => digits? Char.isDigit back
      let e ← exponent? tail
      let text := Decimal.display negative (inBase 10 (front ++ back)) (e - back.length)
      if text = "inf" then none
      else some (.float (if text.toList.contains '.' || text = "-inf" then text else text ++ ".0"))

def pair? (low high : Nat) (a b : Char) : Option Nat :=
  if a.isDigit && b.isDigit then
    let n := Text.decimal [a, b]
    if low ≤ n ∧ n ≤ high then some n else none
  else none

def isLeap (year : Nat) : Bool := year % 4 == 0 && (year % 100 != 0 || year % 400 == 0)

def monthLength (year month : Nat) : Nat :=
  if month = 2 then (if isLeap year then 29 else 28)
  else if month = 4 ∨ month = 6 ∨ month = 9 ∨ month = 11 then 30
  else 31

def date? : List Char → Option (List Char × List Char)
  | a :: b :: c :: d :: '-' :: e :: f :: '-' :: g :: h :: rest => do
    if [a, b, c, d].all Char.isDigit then
      let month ← pair? 1 12 e f
      let _ ← pair? 1 (monthLength (Text.decimal [a, b, c, d]) month) g h
      return ([a, b, c, d, '-', e, f, '-', g, h], rest)
    else none
  | _ => none

/-- A fraction of a second: nine digits count, and zeros at the end do not. -/
def fraction (ds : List Char) : List Char :=
  match ((ds.take 9).reverse.dropWhile (· == '0')).reverse with
  | [] => []
  | ds => '.' :: ds

def time? : List Char → Option (List Char × List Char)
  | a :: b :: ':' :: c :: d :: ':' :: e :: f :: rest => do
    let _ ← pair? 0 23 a b
    let _ ← pair? 0 59 c d
    let _ ← pair? 0 60 e f
    let clock := [a, b, ':', c, d, ':', e, f]
    match rest with
    | '.' :: g :: rest =>
      if g.isDigit then
        return (clock ++ fraction ((g :: rest).takeWhile Char.isDigit), (g :: rest).dropWhile Char.isDigit)
      else none
    | rest => return (clock, rest)
  | _ => none

def offset? : List Char → Option (List Char)
  | [] => some []
  | ['Z'] | ['z'] => some ['Z']
  | [s, a, b, ':', c, d] => do
    if s = '+' ∨ s = '-' then
      let _ ← pair? 0 23 a b
      let _ ← pair? 0 59 c d
      return [s, a, b, ':', c, d]
    else none
  | _ => none

def datetime? (s : List Char) : Option Value :=
  match date? s with
  | some (date, []) => some (.datetime (String.ofList date))
  | some (date, c :: rest) =>
    if c = 'T' ∨ c = 't' ∨ c = ' ' then do
      let (time, rest) ← time? rest
      let offset ← offset? rest
      return .datetime (String.ofList (date ++ 'T' :: time ++ offset))
    else none
  | none =>
    match time? s with
    | some (time, []) => some (.datetime (String.ofList time))
    | _ => none

def boolean? (s : List Char) : Option Value :=
  if s = "true".toList then some (.boolean true) else if s = "false".toList then some (.boolean false) else none

def scalar? (s : List Char) : Option Value := boolean? s <|> datetime? s <|> float? s <|> integer? s

def splitScalar (s : List Char) : List Char × List Char :=
  let run := s.takeWhile isScalarChar
  let rest := s.dropWhile isScalarChar
  match date? run, rest with
  | some (_, []), ' ' :: a :: b :: ':' :: more =>
    if a.isDigit && b.isDigit then
      (run ++ ' ' :: a :: b :: ':' :: more.takeWhile isScalarChar, more.dropWhile isScalarChar)
    else (run, rest)
  | _, _ => (run, rest)

end ScriptRunner.Toml
