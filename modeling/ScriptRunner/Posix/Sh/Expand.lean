import ScriptRunner.Posix.Sh.Arith
import ScriptRunner.Posix.Sh.Control
import ScriptRunner.Posix.Sh.Glob

namespace ScriptRunner.Posix.Sh

open Run

namespace Mark

def ofText (quoted : Bool) (s : Octets) : List Mark :=
  if quoted then .hold :: s.toList.map (.char · true false) else s.toList.map (.char · false true)

def ofFields (quoted : Bool) : List Octets → List Mark
  | [] => if quoted then [.vanish] else []
  | [s] => ofText quoted s
  | s :: more => ofText quoted s ++ .cut :: ofFields quoted more

/-- The characters without their marks. What begins a field is set off by a blank. -/
def flat (ms : List Mark) : Marked :=
  ms.filterMap fun
    | .char c quoted _ => some (c, quoted)
    | .cut => some (' ', true)
    | _ => none

def text (ms : List Mark) : Octets := String.ofList ((flat ms).map Prod.fst)

def loosen (ms : List Mark) : List Mark :=
  ms.map fun
    | .char c false _ => .char c false true
    | m => m

/-- A field in the making, if one has begun, and whether a blank separator has just ended one. -/
structure Splitting where
  current : Option Marked
  afterBlank : Bool
  fields : List Marked

namespace Splitting

def add (s : Splitting) (c : Char × Bool) : Splitting :=
  ⟨some (c :: s.current.getD []), false, s.fields⟩

def close (s : Splitting) (afterBlank : Bool) : Splitting :=
  match s.current with
  | some f => ⟨none, afterBlank, f.reverse :: s.fields⟩
  | none => { s with afterBlank := s.afterBlank && afterBlank }

def step (separators : List Char) (s : Splitting) : Mark → Splitting
  | .hold => { s with current := some (s.current.getD []), afterBlank := false }
  | .vanish => if s.current == some [] then { s with current := none } else s
  | .cut => { s.close false with afterBlank := false }
  | .char c quoted splits =>
    if splits && separators.contains c then
      if c == ' ' || c == '\t' || c == '\n' then if s.current.isSome then s.close true else s
      else if s.current.isNone && s.afterBlank then { s with afterBlank := false }
      else { s with current := some (s.current.getD []) }.close false
    else s.add (c, quoted)

end Splitting

def fields (separators : List Char) (ms : List Mark) : List Marked :=
  ((ms.foldl (Splitting.step separators) ⟨none, false, []⟩).close false).fields.reverse

end Mark

namespace Interpreter

def parameter? (s : Shell) (name : Octets) : Option Octets :=
  match name with
  | "?" => some (toString s.status)
  | "$" => some (toString s.number)
  | "!" => s.lastBackground.map toString
  | "#" => some (toString s.args.length)
  | "-" => some (String.ofList s.options)
  | "PPID" => some ((s.value? name).getD (toString s.parent))
  | _ =>
    match name.nat? with
    | some 0 => some s.name
    | some n => s.args[n - 1]?
    | none => s.value? name

def valueMarks (s : Shell) (name : Octets) (quoted : Bool) : Option (List Mark × Octets) :=
  if name == "@" || name == "*" then
    if s.args.isEmpty then (if quoted && name == "@" then some ([.vanish], "") else none)
    else
      let joined := (match s.value? "IFS" with
        | some v => v.take 1
        | none => " ").intercalate s.args
      some (if quoted && name == "*" then Mark.ofText true joined else Mark.ofFields quoted s.args, joined)
  else (parameter? s name).map fun v => (Mark.ofText quoted v, v)

def assign (name value : Octets) : Run Unit := do
  let s ← get
  if !isName name.toList then die (name ++ ": bad variable name")
  else if (s.lookup name).any Variable.readOnly then die (name ++ ": is read only")
  else modify (·.assign name value)

def parameterMarks (r : Interpreter) (name : Octets) (use : Use) (quoted : Bool) : Run (List Mark) := do
  let s ← get
  let v := valueMarks s name quoted
  match use with
  | .value =>
    match v with
    | some (ms, _) => return ms
    | none =>
      if s.options.contains 'u' && name != "@" && name != "*" then die (name ++ ": parameter not set")
      else return if quoted then [.hold] else []
  | .length =>
    let n := ((v.map Prod.snd).getD "").length
    return Mark.ofText quoted (toString n)
  | .trim suffix longest pattern =>
    let p := Glob.parse (Mark.flat (← r.word pattern))
    let cut := fun t : Octets => String.ofList (Glob.trim suffix longest p t.toList)
    if name == "@" || name == "*" then return Mark.ofFields quoted (s.args.map cut)
    else return Mark.ofText quoted (cut ((parameter? s name).getD ""))
  | .instead mark colon w =>
    let found := v.filter fun v => !colon || v.2 != ""
    let word : Run (List Mark) := do
      let ms ← r.word w
      return if quoted then .hold :: ms else Mark.loosen ms
    match mark, found with
    | '+', some _ => word
    | '+', none => return if quoted then [.hold] else []
    | _, some (ms, _) => return ms
    | '-', none => word
    | '=', none =>
      let text := Mark.text (← r.word w)
      assign name text
      return Mark.ofText quoted text
    | _, none =>
      let text := Mark.text (← r.word w)
      die (name ++ ": " ++ if text != "" then text else if colon then "parameter not set or null" else "parameter not set")

def trimLineEnds (s : Octets) : Octets := String.ofList ((s.toList.reverse.dropWhile (· == '\n')).reverse)

def pieceMarks (r : Interpreter) : Piece → Run (List Mark)
  | .plain s => return s.toList.map (.char · false false)
  | .quoted s => return Mark.ofText true s
  | .home => do return Mark.ofText true (((← get).value? "HOME").getD "~")
  | .parameter name use quoted => parameterMarks r name use quoted
  | .command is quoted => do
    -- A zero byte cannot be part of a word.
    let out ← capture r is
    return Mark.ofText quoted (trimLineEnds (String.ofList (out.toList.filter (· != '\x00'))))
  | .arithmetic e quoted => do
    let text := Mark.text (← r.word e)
    let s ← get
    match Arith.evaluate (fun name => (parameter? s name).getD "") text with
    | .ok (v, changes) =>
      for (name, value) in changes do assign name value
      return Mark.ofText quoted v
    | .error e => die (e.message text)

def wordMarks (r : Interpreter) : Word → Run (List Mark)
  | [] => return []
  | p :: ps => do
    let ms ← pieceMarks r p
    return ms ++ (← wordMarks r ps)

def wordText (r : Interpreter) (w : Word) : Run Octets := do return Mark.text (← r.word w)

def paths (base : Octets) : List Marked → Run (List Octets)
  | [] => do
    match ← call (.inspect base) with
    | .ok _ => return [base]
    | .error _ => return []
  | c :: cs => do
    let more := fun path : Octets => paths (if cs.isEmpty then path else path ++ "/") cs
    if !Glob.isPattern c then more (base ++ String.ofList (c.map Prod.fst))
    else
      let names ← call (.list (if base == "" then "." else base))
      let hidden := c.head?.any (·.1 == '.')
      let g := Glob.parse c
      let chosen := names.filter fun n => (hidden || !n.startsWith ".") && Glob.covers g n.toList
      let found ← (chosen.mergeSort (fun a b => decide (a ≤ b))).mapM fun n => more (base ++ n)
      return found.flatten

def components (f : Marked) : List Marked :=
  f.foldr (fun c acc => if c.1 == '/' then [] :: acc else
    match acc with
    | a :: more => (c :: a) :: more
    | [] => [[c]]) [[]]

def globbed (f : Marked) : Run (List Octets) := do
  let text := String.ofList (f.map Prod.fst)
  if !Glob.isPattern f || (← get).options.contains 'f' then return [text]
  let found ← paths "" (components f)
  return if found.isEmpty then [text] else found

def words (r : Interpreter) : List Word → Run (List Octets)
  | [] => return []
  | w :: ws => do
    let ms ← r.word w
    let s ← get
    let found ← (Mark.fields s.separators ms).mapM globbed
    return found.flatten ++ (← words r ws)

end Interpreter

end ScriptRunner.Posix.Sh
