import ScriptRunner.Toml.Scalar

namespace ScriptRunner.Toml

def isPlain (c : Char) : Bool := c == '\t' || (0x20 ≤ c.toNat && c.toNat != 0x7F)

def isGap (c : Char) : Bool := c == ' ' || c == '\t'

abbrev Text := List Char

def consText (c : Char) (r : Option (Text × List Char)) : Option (Text × List Char) :=
  r.map fun (t, rest) => (c :: t, rest)

def escapeLetter? (c : Char) : Option Char :=
  if c = 'b' then some '\x08'
  else if c = 't' then some '\t'
  else if c = 'n' then some '\n'
  else if c = 'f' then some '\x0c'
  else if c = 'r' then some '\r'
  else if c = '"' then some '"'
  else if c = '\\' then some '\\'
  else none

def scalarValue? (s : List Char) : Option Char :=
  if s.all isHexDigit then
    let n := inBase 16 s
    if n < 0xD800 ∨ (0xE000 ≤ n ∧ n < 0x110000) then some (Char.ofNat n) else none
  else none

def escape? : List Char → Option (Char × List Char)
  | 'u' :: a :: b :: c :: d :: rest => (scalarValue? [a, b, c, d]).map (·, rest)
  | 'U' :: a :: b :: c :: d :: e :: f :: g :: h :: rest =>
    (scalarValue? [a, b, c, d, e, f, g, h]).map (·, rest)
  | c :: rest => (escapeLetter? c).map (·, rest)
  | [] => none

def basicWithin : Nat → List Char → Option (Text × List Char)
  | 0, _ => none
  | _, [] => none
  | fuel + 1, c :: s =>
    if c = '"' then some ([], s)
    else if c = '\\' then (escape? s).bind fun (c, s) => consText c (basicWithin fuel s)
    else if isPlain c then consText c (basicWithin fuel s)
    else none

def literal? (s : List Char) : Option (Text × List Char) :=
  match s.dropWhile fun c => c != '\'' && isPlain c with
  | '\'' :: rest => some (s.takeWhile fun c => c != '\'' && isPlain c, rest)
  | _ => none

def newline? : List Char → Option (List Char)
  | '\n' :: rest => some rest
  | '\r' :: '\n' :: rest => some rest
  | _ => none

def skipLines : List Char → List Char
  | '\r' :: '\n' :: s => skipLines s
  | c :: s => if isGap c || c == '\n' then skipLines s else c :: s
  | [] => []

/-- A backslash at the end of a line removes the line ending and all white space behind it. -/
def joinedLine? (s : List Char) : Option (List Char) := (newline? (s.dropWhile isGap)).map skipLines

/-- Three quotes or more: up to two of them belong to the text before the closing ones. -/
def closing? (q : Char) (s : List Char) : Option (Text × List Char) :=
  let n := min (s.takeWhile (· == q)).length 5
  if 3 ≤ n then some (List.replicate (n - 3) q, s.drop n) else none

def multiBasicWithin : Nat → List Char → Option (Text × List Char)
  | 0, _ => none
  | _, [] => none
  | fuel + 1, c :: s =>
    match newline? (c :: s) with
    | some rest => consText '\n' (multiBasicWithin fuel rest)
    | none =>
      if c = '"' then
        match closing? '"' (c :: s) with
        | some r => some r
        | none => consText c (multiBasicWithin fuel s)
      else if c = '\\' then
        match joinedLine? s with
        | some rest => multiBasicWithin fuel rest
        | none => (escape? s).bind fun (c, s) => consText c (multiBasicWithin fuel s)
      else if isPlain c then consText c (multiBasicWithin fuel s)
      else none

def multiLiteralWithin : Nat → List Char → Option (Text × List Char)
  | 0, _ => none
  | _, [] => none
  | fuel + 1, c :: s =>
    match newline? (c :: s) with
    | some rest => consText '\n' (multiLiteralWithin fuel rest)
    | none =>
      if c = '\'' then
        match closing? '\'' (c :: s) with
        | some r => some r
        | none => consText c (multiLiteralWithin fuel s)
      else if isPlain c then consText c (multiLiteralWithin fuel s)
      else none

def afterOpening (s : List Char) : List Char := (newline? s).getD s

def string? (s : List Char) : Option (Text × List Char) :=
  match s with
  | '"' :: '"' :: '"' :: rest => multiBasicWithin (rest.length + 1) (afterOpening rest)
  | '"' :: rest => basicWithin (rest.length + 1) rest
  | '\'' :: '\'' :: '\'' :: rest => multiLiteralWithin (rest.length + 1) (afterOpening rest)
  | '\'' :: rest => literal? rest
  | _ => none

end ScriptRunner.Toml
