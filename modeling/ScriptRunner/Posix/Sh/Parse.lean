import ScriptRunner.Posix.Sh.Script

namespace ScriptRunner.Posix.Sh

structure Fault where
  line : Nat
  text : String

structure Awaited where
  number : Nat
  delimiter : Octets
  stripsTabs : Bool
  expands : Bool

structure Source where
  rest : List Char
  lines : Nat
  waiting : List Awaited
  bodies : List (Nat × Word)
  nextBody : Nat

namespace Source

def ofText (s : Octets) (nextBody : Nat) : Source :=
  ⟨s.toList, s.toList.count '\n' + 1, [], [], nextBody⟩

def line (s : Source) : Nat := s.lines - s.rest.count '\n'

end Source

abbrev Reader := StateT Source (Except Fault)

namespace Reader

def fault {α : Type} (text : String) : Reader α := do
  throw ⟨(← get).line, text⟩

def rest : Reader (List Char) := do return (← get).rest

def setRest (cs : List Char) : Reader Unit := modify ({ · with rest := cs })

def skip (n : Nat) : Reader Unit := modify fun s => { s with rest := s.rest.drop n }

def startsWith (t : String) : Reader Bool := do return t.toList.isPrefixOf (← rest)

def eat (t : String) : Reader Bool := do
  if ← startsWith t then
    skip t.length
    return true
  return false

def within {α : Type} (text : List Char) (m : Reader α) : Reader α := do
  let outside ← rest
  setRest text
  let a ← m
  setRest outside
  return a

end Reader

open Reader

def isNameStart (c : Char) : Bool := c.isAlpha || c == '_'
def isNamePart (c : Char) : Bool := c.isAlphanum || c == '_'

def isName (s : List Char) : Bool := (s.head?.any isNameStart) && s.all isNamePart

def isDelimiter (c : Char) : Bool := " \t\n;&|<>()".toList.contains c

def dropBlanks : List Char → List Char
  | '\\' :: '\n' :: cs => dropBlanks cs
  | '#' :: cs => cs.dropWhile (· != '\n')
  | c :: cs => if c == ' ' || c == '\t' then dropBlanks cs else c :: cs
  | [] => []

def skipBlanks : Reader Unit := do setRest (dropBlanks (← rest))

def reserved : List String :=
  ["if", "then", "elif", "else", "fi", "do", "done", "while", "until", "for", "case", "esac", "\x7b", "\x7d", "!",
    "in"]

def closers : List String := ["then", "elif", "else", "fi", "do", "done", "esac", "\x7d"]

def nextWord : Reader String := do
  skipBlanks
  return String.ofList ((← rest).takeWhile (!isDelimiter ·))

def tokenName : Reader String := do
  skipBlanks
  match ← rest with
  | [] => return "end of file"
  | '\n' :: _ => return "newline"
  | c :: cs =>
    let op := String.ofList [c]
    if c == '<' || c == '>' then return "redirection"
    else if isDelimiter c then
      return "\"" ++ (if (c == ';' || c == '&' || c == '|') && cs.head? == some c then op ++ op else op) ++ "\""
    else
      let w ← nextWord
      return if reserved.contains w then "\"" ++ w ++ "\"" else "word"

def unexpected {α : Type} (expecting : String) : Reader α := do
  let token ← tokenName
  fault ("Syntax error: " ++ token ++ " unexpected" ++
    if expecting == "" then "" else " (expecting \"" ++ expecting ++ "\")")

inductive Mode where
  | bare
  | brace
  | quotes
  | quotedBrace
  | document
  deriving DecidableEq

namespace Mode

def quoted : Mode → Bool
  | .bare | .brace => false
  | _ => true

def ends (m : Mode) (c : Char) : Bool :=
  match m with
  | .bare => isDelimiter c
  | .brace | .quotedBrace => c == '\x7d'
  | .quotes => c == '"'
  | .document => false

def escapes (m : Mode) (c : Char) : Bool :=
  match m with
  | .bare | .brace => true
  | .quotes => "$\x60\"\\".toList.contains c
  | .quotedBrace => "$\x60\"\\\x7d".toList.contains c
  | .document => "$\x60\\".toList.contains c

def special (m : Mode) (c : Char) : Bool :=
  c == '\\' || c == '$' || c == '\x60' || (c == '"' && m != .document) || (c == '\'' && !m.quoted) || m.ends c

end Mode

structure Nested where
  items : Reader (List Item)
  command : Reader Command
  word : Mode → Reader Word

def literal (quoted : Bool) (text : List Char) : Piece :=
  if quoted then .quoted (String.ofList text) else .plain (String.ofList text)

def parameterName (braced : Bool) : List Char → Option (List Char)
  | c :: cs =>
    if isNameStart c then some ((c :: cs).takeWhile isNamePart)
    else if c.isDigit then some (if braced then (c :: cs).takeWhile Char.isDigit else [c])
    else if "@*#?-$!".toList.contains c then some [c] else none
  | [] => none

def bracedParameter (r : Nested) (quoted : Bool) : Reader Piece := do
  let mode := if quoted then Mode.quotedBrace else .brace
  let close : Reader Unit := do
    if !(← eat "\x7d") then fault "Syntax error: Missing '\x7d'"
  let cs ← rest
  let counted := match cs with
    | '#' :: c :: _ => c != '\x7d' && (parameterName true (cs.drop 1)).isSome
    | _ => false
  let plainHash := match cs with
    | '#' :: '-' :: '\x7d' :: _ | '#' :: '?' :: '\x7d' :: _ | '#' :: '#' :: '\x7d' :: _ => false
    | '#' :: c :: _ => "-?#".toList.contains c
    | _ => false
  if counted && !plainHash then
    let name := (parameterName true (cs.drop 1)).getD []
    skip (1 + name.length)
    close
    return .parameter (String.ofList name) .length quoted
  match parameterName true cs with
  | none => fault (if cs.isEmpty then "Syntax error: Missing '\x7d'" else "Bad substitution")
  | some name =>
    skip name.length
    let cs ← rest
    let colon := cs.head? == some ':'
    let marks := if colon then cs.drop 1 else cs
    match marks.head? with
    | none => fault "Syntax error: Missing '\x7d'"
    | some c =>
      if "-=?+".toList.contains c then
        skip (if colon then 2 else 1)
        let w ← r.word mode
        close
        return .parameter (String.ofList name) (.instead c colon w) quoted
      else if colon then fault "Bad substitution"
      else if c == '#' || c == '%' then
        skip 1
        let longest ← eat (String.ofList [c])
        let w ← r.word .brace
        close
        return .parameter (String.ofList name) (.trim (c == '%') longest w) quoted
      else if c == '\x7d' then
        close
        return .parameter (String.ofList name) .value quoted
      else fault "Bad substitution"

/-- The text of an expression, up to two closing parentheses that belong to no opening ones. -/
def expressionText : List Char → Nat → List Char → Option (List Char × List Char)
  | ')' :: ')' :: rest, 0, acc => some (acc.reverse, rest)
  | '(' :: cs, depth, acc => expressionText cs (depth + 1) ('(' :: acc)
  | ')' :: cs, depth, acc => expressionText cs (depth - 1) (')' :: acc)
  | c :: cs, depth, acc => expressionText cs depth (c :: acc)
  | [], _, _ => none

def dollar (r : Nested) (quoted : Bool) : Reader Piece := do
  if ← eat "((" then
    match expressionText (← rest) 0 [] with
    | none =>
      setRest []
      fault "Syntax error: Missing '))'"
    | some (text, after) =>
      let w ← within text (r.word .document)
      setRest after
      return .arithmetic w quoted
  else if ← eat "(" then
    let body ← r.items
    if !(← eat ")") then unexpected ")"
    return .command body quoted
  else if ← eat "\x7b" then bracedParameter r quoted
  else
    match parameterName false (← rest) with
    | some name =>
      skip name.length
      return .parameter (String.ofList name) .value quoted
    | none => return literal quoted ['$']

/-- A script between backquotes, in which a backslash can stand before a backquote, a dollar sign and itself. -/
def backquoted : Bool → List Char → List Char → Option (List Char × List Char)
  | _, '\x60' :: cs, acc => some (acc.reverse, cs)
  | quoted, '\\' :: c :: cs, acc =>
    if "\x60$\\".toList.contains c || (quoted && c == '"') then backquoted quoted cs (c :: acc)
    else backquoted quoted cs (c :: '\\' :: acc)
  | quoted, c :: cs, acc => backquoted quoted cs (c :: acc)
  | _, [], _ => none

def pieces (r : Nested) (m : Mode) : Nat → Reader Word
  | 0 => return []
  | n + 1 => do
    match ← rest with
    | [] =>
      if m = .quotes then fault "Syntax error: Unterminated quoted string"
      return []
    | c :: cs =>
      if m.ends c then return []
      else if c == '\'' && !m.quoted then
        let text := cs.takeWhile (· != '\'')
        if text.length == cs.length then fault "Syntax error: Unterminated quoted string"
        setRest (cs.drop (text.length + 1))
        return .quoted (String.ofList text) :: (← pieces r m n)
      else if c == '"' && m != .document then
        setRest cs
        if m = .quotedBrace then pieces r m n
        else
          let inner ← r.word .quotes
          skip 1
          return .quoted "" :: inner ++ (← pieces r m n)
      else if c == '\\' then
        match cs with
        | [] =>
          setRest []
          return [literal m.quoted ['\\']]
        | '\n' :: cs =>
          setRest cs
          pieces r m n
        | d :: cs =>
          setRest cs
          return .quoted (String.ofList (if m.escapes d then [d] else ['\\', d])) :: (← pieces r m n)
      else if c == '$' then
        setRest cs
        let p ← dollar r m.quoted
        return p :: (← pieces r m n)
      else if c == '\x60' then
        match backquoted m.quoted cs [] with
        | none => fault "Syntax error: EOF in backquote substitution"
        | some (text, after) =>
          let body ← within text do
            let body ← r.items
            if !(← rest).isEmpty then unexpected ""
            return body
          setRest after
          return .command body m.quoted :: (← pieces r m n)
      else
        let text := (c :: cs).takeWhile (!m.special ·)
        setRest ((c :: cs).drop text.length)
        return literal m.quoted text :: (← pieces r m n)

def expandTilde : Word → Word
  | .plain s :: rest =>
    match s.toList with
    | ['~'] => if rest.isEmpty then [.home] else .plain s :: rest
    | '~' :: '/' :: cs => .home :: .plain (String.ofList ('/' :: cs)) :: rest
    | _ => .plain s :: rest
  | w => w

def word? (r : Nested) : Reader (Option Word) := do
  skipBlanks
  match ← rest with
  | [] => return none
  | c :: _ => if isDelimiter c then return none else return some (expandTilde (← r.word .bare))

def documentText (a : Awaited) : Nat → List Char → List Char → List Char × List Char
  | 0, cs, acc => (acc.reverse, cs)
  | n + 1, cs, acc =>
    if cs.isEmpty then (acc.reverse, [])
    else
      let written := cs.takeWhile (· != '\n')
      let rest := cs.drop (written.length + 1)
      let line := if a.stripsTabs then written.dropWhile (· == '\t') else written
      if line == a.delimiter.toList then (acc.reverse, rest)
      else documentText a n rest ((if written.length == cs.length then [] else ['\n']) ++ line.reverse ++ acc)

def documents (r : Nested) : List Awaited → Reader Unit
  | [] => return
  | a :: more => do
    let cs ← rest
    let (text, after) := documentText a (cs.length + 1) cs []
    let body ← if a.expands then within text (r.word .document) else pure [.quoted (String.ofList text)]
    setRest after
    modify fun s => { s with bodies := (a.number, body) :: s.bodies }
    documents r more

def lineEnd (r : Nested) : Reader Unit := do
  skip 1
  let waiting := (← get).waiting
  modify ({ · with waiting := [] })
  documents r waiting

def lineEnds (r : Nested) : Nat → Reader Unit
  | 0 => return
  | n + 1 => do
    skipBlanks
    if ← startsWith "\n" then
      lineEnd r
      lineEnds r n

def anyLineEnds (r : Nested) : Reader Unit := do lineEnds r ((← rest).length + 1)

def wordText (w : Word) : Octets :=
  w.foldl (fun acc p => match p with
    | .plain s | .quoted s => acc ++ s
    | _ => acc) ""

def hasQuotes (w : Word) : Bool := w.any fun p => match p with
  | .quoted _ => true
  | _ => false

/-- Redirection operators, longest first, with the handle that they mean by themselves. -/
def redirectOperators : List (String × Nat × RedirectKind) :=
  [("<<-", 0, .here 0), ("<<", 0, .here 0), ("<&", 0, .duplicate), ("<>", 0, .update), ("<", 0, .read),
    (">>", 1, .append), (">&", 1, .duplicate), (">|", 1, .overwrite), (">", 1, .write)]

def redirect? (r : Nested) : Reader (Option Redirect) := do
  skipBlanks
  let cs ← rest
  let digits := cs.takeWhile Char.isDigit
  match redirectOperators.find? fun op => op.1.toList.isPrefixOf (cs.drop digits.length) with
  | none => return none
  | some (op, handle, kind) =>
    skip (digits.length + op.length)
    let handle := (Octets.nat? (String.ofList digits)).getD handle
    match ← word? r with
    | none => unexpected ""
    | some w =>
      match kind with
      | .here _ =>
        let number := (← get).nextBody
        let a : Awaited := ⟨number, wordText w, op == "<<-", !hasQuotes w⟩
        modify fun s => { s with nextBody := number + 1, waiting := s.waiting ++ [a] }
        return some (.mk handle (.here number) [])
      | kind => return some (.mk handle kind w)

def redirects (r : Nested) : Nat → Reader (List Redirect)
  | 0 => return []
  | n + 1 => do
    match ← redirect? r with
    | none => return []
    | some d => return d :: (← redirects r n)

def anyRedirects (r : Nested) : Reader (List Redirect) := do redirects r ((← rest).length + 1)

def assignment? : Word → Option (Octets × Word)
  | .plain s :: more =>
    match s.splitAt? '=' with
    | some (name, value) =>
      if isName name.toList then
        some (name, expandTilde ((if value == "" then [] else [.plain value]) ++ more))
      else none
    | none => none
  | _ => none

def simpleParts (r : Nested) : Nat → List (Octets × Word) → List Word → List Redirect →
    Reader (List (Octets × Word) × List Word × List Redirect)
  | 0, assigns, words, reds => return (assigns.reverse, words.reverse, reds.reverse)
  | n + 1, assigns, words, reds => do
    match ← redirect? r with
    | some d => simpleParts r n assigns words (d :: reds)
    | none =>
      match ← word? r with
      | none => return (assigns.reverse, words.reverse, reds.reverse)
      | some w =>
        match words, assignment? w with
        | [], some a => simpleParts r n (a :: assigns) words reds
        | _, _ => simpleParts r n assigns (w :: words) reds

def afterParentheses (cs : List Char) : Option (List Char) :=
  match dropBlanks cs with
  | '(' :: cs =>
    match dropBlanks cs with
    | ')' :: cs => some cs
    | _ => none
  | _ => none

def simple (r : Nested) : Reader Command := do
  skipBlanks
  let s ← get
  let name ← nextWord
  match isName name.toList, afterParentheses ((← rest).drop name.length) with
  | true, some after =>
    setRest after
    anyLineEnds r
    return .define name (← r.command)
  | true, none =>
    setRest (dropBlanks ((← rest).drop name.length))
    if ← eat "(" then unexpected ")"
    modify ({ · with rest := s.rest })
    ordinary s
  | false, _ => ordinary s
where
  ordinary (s : Source) : Reader Command := do
    let (assigns, words, reds) ← simpleParts r (s.rest.length + 1) [] [] []
    if assigns.isEmpty && words.isEmpty && reds.isEmpty then unexpected ""
    return .simple s.line assigns words reds

def expectWord (w : String) : Reader Unit := do
  if (← nextWord) == w then skip w.length else unexpected w

def body (r : Nested) (closing : String) : Reader (List Item) := do
  let items ← r.items
  if items.isEmpty then
    if (← rest).isEmpty then unexpected closing else unexpected ""
  return items

def branches (r : Nested) : Nat → Reader (List (List Item × List Item) × List Item)
  | 0 => unexpected "fi"
  | n + 1 => do
    let condition ← body r "then"
    expectWord "then"
    let then_ ← body r "fi"
    let w ← nextWord
    if w == "elif" then
      skip 4
      let (more, otherwise) ← branches r n
      return ((condition, then_) :: more, otherwise)
    else if w == "else" then
      skip 4
      let otherwise ← body r "fi"
      expectWord "fi"
      return ([(condition, then_)], otherwise)
    else
      expectWord "fi"
      return ([(condition, then_)], [])

def loopBody (r : Nested) : Reader (List Item) := do
  expectWord "do"
  let items ← body r "done"
  expectWord "done"
  return items

def wordsUpToEnd (r : Nested) : Nat → Reader (List Word)
  | 0 => return []
  | n + 1 => do
    match ← word? r with
    | none => return []
    | some w => return w :: (← wordsUpToEnd r n)

def armPatterns (r : Nested) : Nat → Reader (List Word)
  | 0 => unexpected ")"
  | n + 1 => do
    match ← word? r with
    | none => unexpected ")"
    | some w =>
      skipBlanks
      if ← eat "|" then return w :: (← armPatterns r n)
      else if ← eat ")" then return [w]
      else unexpected ")"

def arms (r : Nested) : Nat → Reader (List (List Word × List Item))
  | 0 => unexpected "esac"
  | n + 1 => do
    anyLineEnds r
    if (← nextWord) == "esac" then return []
    discard (eat "(")
    let patterns ← armPatterns r n
    let items ← r.items
    skipBlanks
    if ← eat ";;" then return (patterns, items) :: (← arms r n)
    else if (← nextWord) == "esac" then return [(patterns, items)]
    else unexpected ";;"

def forLoop (r : Nested) : Reader Command := do
  let line := (← get).line
  let name ← nextWord
  if !isName name.toList then fault "Syntax error: Bad for loop variable"
  skip name.length
  anyLineEnds r
  let words ←
    if (← nextWord) == "in" then
      skip 2
      let ws ← wordsUpToEnd r ((← rest).length + 1)
      skipBlanks
      if !(← eat ";") && !(← startsWith "\n") then unexpected ""
      pure (some ws)
    else
      discard (eat ";")
      pure none
  anyLineEnds r
  let items ← loopBody r
  return .each line name words items (← anyRedirects r)

def selection (r : Nested) : Reader Command := do
  let line := (← get).line
  match ← word? r with
  | none => unexpected ""
  | some w =>
    anyLineEnds r
    expectWord "in"
    let found ← arms r ((← rest).length + 1)
    expectWord "esac"
    return .select line w found (← anyRedirects r)

def commandOf (r : Nested) : Reader Command := do
  skipBlanks
  if ← eat "(" then
    let items ← body r ")"
    if !(← eat ")") then unexpected ")"
    return .subshell items (← anyRedirects r)
  let w ← nextWord
  if w == "\x7b" then
    skip 1
    let items ← body r "\x7d"
    expectWord "\x7d"
    return .group items (← anyRedirects r)
  else if w == "if" then
    skip 2
    let (bs, otherwise) ← branches r ((← rest).length + 1)
    return .choose bs otherwise (← anyRedirects r)
  else if w == "while" || w == "until" then
    skip 5
    let condition ← body r "do"
    let items ← loopBody r
    return .loop (w == "until") condition items (← anyRedirects r)
  else if w == "for" then
    skip 3
    forLoop r
  else if w == "case" then
    skip 4
    selection r
  else if closers.contains w then unexpected ""
  else simple r

def pipeRest (r : Nested) : Nat → Reader (List Command)
  | 0 => return []
  | n + 1 => do
    skipBlanks
    if ← startsWith "||" then return []
    else if ← eat "|" then
      anyLineEnds r
      let c ← commandOf r
      return c :: (← pipeRest r n)
    else return []

def pipeline (r : Nested) : Reader Command := do
  let negated := (← nextWord) == "!"
  if negated then skip 1
  let first ← commandOf r
  let more ← pipeRest r ((← rest).length + 1)
  return if negated || !more.isEmpty then .pipeline negated (first :: more) else first

def chain (r : Nested) : Nat → Command → Reader Command
  | 0, c => return c
  | n + 1, c => do
    skipBlanks
    if ← eat "&&" then
      anyLineEnds r
      chain r n (.both c (← pipeline r))
    else if ← eat "||" then
      anyLineEnds r
      chain r n (.either c (← pipeline r))
    else return c

def andOr (r : Nested) : Reader Command := do
  chain r ((← rest).length + 1) (← pipeline r)

/-- A separator behind a command: whether the command runs beside the next, if there is any separator. -/
def separator : Reader (Option Bool) := do
  skipBlanks
  if ← startsWith ";;" then return none
  else if ← eat ";" then return some false
  else if ← eat "&" then return some true
  else return none

def itemsOf (r : Nested) : Nat → Reader (List Item)
  | 0 => return []
  | n + 1 => do
    anyLineEnds r
    let w ← nextWord
    if (← rest).isEmpty || (← startsWith ")") || (← startsWith ";;") || closers.contains w then return []
    let c ← andOr r
    match ← separator with
    | some background => return .mk c background :: (← itemsOf r n)
    | none => if ← startsWith "\n" then return .mk c false :: (← itemsOf r n) else return [.mk c false]

def nested : Nat → Nested
  | 0 => ⟨fault "Syntax error: too deep", fault "Syntax error: too deep", fun _ => fault "Syntax error: too deep"⟩
  | n + 1 =>
    let r := nested n
    ⟨do itemsOf r ((← rest).length + 1), commandOf r, fun m => do pieces r m ((← rest).length + 1)⟩

def depth : Nat := 200

def lineItems (r : Nested) : Nat → Reader (List Item)
  | 0 => return []
  | n + 1 => do
    skipBlanks
    match ← rest with
    | [] => return []
    | '\n' :: _ =>
      lineEnd r
      return []
    | _ =>
      let c ← andOr r
      match ← separator with
      | some background => return .mk c background :: (← lineItems r n)
      | none =>
        skipBlanks
        match ← rest with
        | [] => return [.mk c false]
        | '\n' :: _ =>
          lineEnd r
          return [.mk c false]
        | _ => unexpected ""

def nextLine (s : Source) : Except Fault (Option (List Item × Source)) :=
  if s.rest.isEmpty then .ok none
  else (((lineItems (nested depth) (s.rest.length + 1)).run s).map some)

end ScriptRunner.Posix.Sh
