import ScriptRunner.Posix.Condition
import ScriptRunner.Posix.Escape
import ScriptRunner.Posix.Sh.Expand

namespace ScriptRunner.Posix.Sh

open Run

namespace Interpreter

/-- Commands that are found before functions, and whose failure ends the shell. -/
def specials : List Octets :=
  [":", ".", "break", "continue", "eval", "exec", "exit", "export", "local", "readonly", "return", "set", "shift",
    "times", "trap", "unset"]

def regulars : List Octets :=
  ["true", "false", "echo", "printf", "test", "[", "cd", "pwd", "kill", "wait", "read", "umask", "command",
    "type", "hash"]

def isBuiltin (name : Octets) : Bool := specials.contains name || regulars.contains name

def finish (status : Nat) : Run Flow := do
  setStatus status
  return .next

def printed (name text : Octets) : Run Flow := do
  if ← print text then finish 0
  else
    complain (name ++ ": I/O error")
    finish 1

def echo (args : List Octets) : Run Flow := do
  let (args, lineEnd) := match args with
    | "-n" :: args => (args, "")
    | args => (args, "\n")
  let (text, stops) := Escape.unescaped (" ".intercalate args)
  printed "echo" (text ++ if stops then "" else lineEnd)

def takeOptions (allowed : List Char) : List Octets → Run (List Char × List Octets)
  | [] => return ([], [])
  | "-" :: args => return ([], "-" :: args)
  | "--" :: args => return ([], args)
  | a :: args => do
    match a.toList with
    | '-' :: cs =>
      match cs.find? (!allowed.contains ·) with
      | some c => die ("Illegal option -" ++ String.ofList [c])
      | none =>
        let (more, rest) ← takeOptions allowed args
        return (cs ++ more, rest)
    | _ => return ([], a :: args)

def printf (args : List Octets) : Run Flow := do
  match (← takeOptions [] args).2 with
  | fmt :: args =>
    let p := Escape.format fmt args
    for c in p.complaints do complain c
    if ← print p.out then finish p.status
    else
      complain "printf: I/O error"
      finish 1
  | [] =>
    complain "usage: printf format [arg ...]"
    finish 2

def test (args : List Octets) : Run Flow := do
  match ← act (Condition.holds args) with
  | .ok b => finish (if b then 0 else 1)
  | .error e =>
    complain e
    finish 2

def bracket (args : List Octets) : Run Flow := do
  if args.getLast? == some "]" then test args.dropLast
  else
    complain "missing ]"
    finish 2

def changeDirectory (args : List Octets) : Run Flow := do
  let (_, args) ← takeOptions ['L', 'P'] args
  let s ← get
  if args == [""] then return ← finish 0
  let back := args == ["-"]
  let target := if back then (s.value? "OLDPWD").getD "" else (args.head?.getD ((s.value? "HOME").getD ""))
  let old ← call .place
  match ← call (.enter target) with
  | .ok () =>
    let now ← call .place
    modify fun s => (s.setVariable "OLDPWD" ⟨some old, true, false⟩).setVariable "PWD" ⟨some now, true, false⟩
    if back then printed "cd" (now ++ "\n") else finish 0
  | .error _ =>
    complain ("can't cd to " ++ target)
    finish 2

def signal? (s : Octets) : Option Nat :=
  match s.nat? with
  | some n => if n ≤ Signal.last then some n else none
  | none => if s.toUpper == "EXIT" then some 0 else Signal.ofName? s.toUpper

def integer? (s : Octets) : Option Int :=
  match s.toList with
  | '-' :: ds => (Octets.digitsBelow 10 ds).map fun n => -(n : Int)
  | ds => (Octets.digitsBelow 10 ds).map Int.ofNat

def killAll (signal : Nat) : List Octets → Nat → Run Flow
  | [], status => finish status
  | t :: ts, status => do
    match integer? t with
    | none =>
      complain ("Illegal number: " ++ t)
      finish 2
    | some n =>
      match ← call (.kill n signal) with
      | .ok () => killAll signal ts status
      | .error e =>
        complain (e.text ++ "\n")
        killAll signal ts 1

def kill (args : List Octets) : Run Flow := do
  let usage : Run Flow := do
    complain "Usage: kill [-s sigspec | -signum | -sigspec] [pid | job]... or\nkill -l [exitstatus]"
    finish 2
  let withSignal := fun (name : Octets) (rest : List Octets) => do
    match signal? name with
    | none =>
      complain ("Illegal option -" ++ name.take 1)
      finish 2
    | some n =>
      let rest := if rest.head? == some "--" then rest.drop 1 else rest
      if rest.isEmpty then usage else killAll n rest 0
  match args with
  | [] => usage
  | "-l" :: n :: _ =>
    match n.nat? with
    | some n => printed "kill" ((Signal.name? (if n > 128 then n - 128 else n)).getD (toString n) ++ "\n")
    | none => usage
  | ["-l"] => printed "kill" (String.join (Signal.table.map fun row => row.2.1 ++ "\n"))
  | "-s" :: name :: rest => withSignal name rest
  | "--" :: rest => killAll Signal.terminate rest 0
  | a :: rest =>
    match a.toList with
    | '-' :: name => withSignal (String.ofList name) rest
    | _ => killAll Signal.terminate args 0

def waitAll (r : Interpreter) : Nat → Run Flow
  | 0 => finish 0
  | n + 1 => do
    match ← call (.await none true) with
    | .noChild => finish 0
    | .interrupted signal =>
      signals r
      finish (128 + signal)
    | .ended child status =>
      modify fun s => { s with collected := (child, statusOf status) :: s.collected }
      waitAll r n

def waitFor (r : Interpreter) : List Octets → Run Flow
  | [] => return .next
  | t :: ts => do
    match t.nat? with
    | none => die ("Illegal number: " ++ t)
    | some n =>
      match (← get).collected.lookup n with
      | some status => setStatus status
      | none =>
        let status ← Run.await n true
        modify fun s => { s with collected := (n, status) :: s.collected }
        setStatus status
        signals r
      waitFor r ts

/-- Reads a line, in which a backslash takes the meaning from the next character. The marks tell what was behind a
backslash. -/
def readLine (raw : Bool) : Nat → Marked → Run (Marked × Bool)
  | 0, acc => return (acc.reverse, false)
  | n + 1, acc => do
    match ← call (.read 0 1) with
    | .ok "\n" => return (acc.reverse, true)
    | .ok "\\" =>
      if raw then readLine raw n (('\\', false) :: acc)
      else
        match ← call (.read 0 1) with
        | .ok "\n" => readLine raw n acc
        | .ok s => readLine raw n ((s.toList.map ((·, true))).reverse ++ acc)
        | .error _ => return (acc.reverse, false)
    | .ok s =>
      match s.toList with
      | c :: _ => readLine raw n ((c, false) :: acc)
      | [] => return (acc.reverse, false)
    | .error _ => return (acc.reverse, false)

def distribute (separators : List Char) : List Octets → Marked → Run Unit
  | [], _ => return
  | name :: names, line => do
    let blank := fun c : Char × Bool => !c.2 && separators.contains c.1 && (c.1 == ' ' || c.1 == '\t')
    let separates := fun c : Char × Bool => !c.2 && separators.contains c.1
    let text := fun m : Marked => String.ofList (m.map Prod.fst)
    let line := line.dropWhile blank
    if names.isEmpty then assign name (text (line.reverse.dropWhile blank).reverse)
    else
      let field := line.takeWhile (!separates ·)
      let rest := (line.drop field.length).dropWhile blank
      let rest := if rest.head?.any fun c => separates c && !blank c then rest.drop 1 else rest
      assign name (text field)
      distribute separators names rest

def read (args : List Octets) : Run Flow := do
  let (options, names) ← takeOptions ['r'] args
  let raw := options.contains 'r'
  if names.isEmpty then
    complain "arg count"
    return ← finish 2
  let (line, whole) ← readLine raw 1000000 []
  distribute (← get).separators names line
  finish (if whole then 0 else 1)

def shellQuoted (s : Octets) : Octets :=
  "'" ++ "'\"'\"'".intercalate (s.splitOn '\'') ++ "'"

def variableLines (opening : Octets) (chosen : Variable → Bool) (s : Shell) : Octets :=
  let rows := (s.vars.filter fun v => chosen v.2).mergeSort fun a b => decide (a.1 ≤ b.1)
  String.join (rows.map fun (name, v) => opening ++ name ++ (match v.value with
    | some t => "=" ++ shellQuoted t
    | none => "") ++ "\n")

def mark (change : Variable → Variable) : List Octets → Run Flow
  | [] => finish 0
  | a :: more => do
    let (name, value) := match a.splitAt? '=' with
      | some (name, value) => (name, some value)
      | none => (a, none)
    if !isName name.toList then die (name ++ ": bad variable name")
    if let some v := value then assign name v
    modify fun s => s.setVariable name (change ((s.lookup name).getD ⟨none, false, false⟩))
    mark change more

def markOrShow (name : Octets) (change : Variable → Variable) (marked : Variable → Bool) (args : List Octets) :
    Run Flow := do
  let (options, args) ← takeOptions ['p'] args
  if args.isEmpty || !options.isEmpty then printed name (variableLines (name ++ " ") marked (← get))
  else mark change args

def unset (functions : Bool) : List Octets → Run Flow
  | [] => finish 0
  | name :: more => do
    if functions then modify fun s => { s with functions := s.functions.filter (·.1 != name) }
    else if !isName name.toList then die (name ++ ": bad variable name")
    else if ((← get).lookup name).any Variable.readOnly then die (name ++ ": is read only")
    else modify (·.dropVariable name)
    unset functions more

def optionLetters : List (Octets × Char) :=
  [("errexit", 'e'), ("nounset", 'u'), ("noglob", 'f'), ("xtrace", 'x'), ("verbose", 'v'), ("noexec", 'n'),
    ("allexport", 'a'), ("noclobber", 'C')]

def setOption (on : Bool) (c : Char) (s : Shell) : Shell :=
  let without := s.options.filter (· != c)
  { s with options := if on then without ++ [c] else without }

def setArguments : List Octets → Run Flow
  | [] => finish 0
  | "--" :: args => do
    modify ({ · with args := args })
    finish 0
  | "-o" :: name :: more | "+o" :: name :: more => do
    match optionLetters.lookup name with
    | some c => modify (setOption true c)
    | none => die ("Illegal option -o " ++ name)
    setArguments more
  | a :: more => do
    match a.toList with
    | sign :: c :: cs =>
      if sign == '-' || sign == '+' then
        if (c :: cs).all fun c => optionLetters.any (·.2 == c) || "hbmI".toList.contains c then
          modify fun s => (c :: cs).foldl (fun s c => setOption (sign == '-') c s) s
          setArguments more
        else die ("Illegal option " ++ a)
      else
        modify ({ · with args := a :: more })
        finish 0
    | _ =>
      modify ({ · with args := a :: more })
      finish 0

def setTrap (script : Option Octets) : List Octets → Run Flow
  | [] => finish 0
  | t :: more => do
    match signal? t with
    | none =>
      discard (act (Act.print 2 ("trap: " ++ t ++ ": bad trap\n")))
      finish 1
    | some n =>
      modify fun s => { s with traps := (script.toList.map fun text => (n, text)) ++ s.traps.filter (·.1 != n) }
      if n != 0 then
        call (.arrange n (match script with
          | none => .byDefault
          | some "" => .ignored
          | some _ => .caught))
      setTrap script more

def trap (args : List Octets) : Run Flow := do
  let (_, args) ← takeOptions [] args
  match args with
  | [] =>
    let s ← get
    let line := fun (n, script) =>
      "trap -- " ++ shellQuoted script ++ " " ++ (if n == 0 then "EXIT" else (Signal.name? n).getD (toString n)) ++ "\n"
    printed "trap" (String.join ((s.traps.mergeSort fun a b => decide (a.1 ≤ b.1)).map line))
  | [t] => setTrap none [t]
  | "-" :: signals => setTrap none signals
  | script :: signals => if script.nat?.isSome then setTrap none args else setTrap (some script) signals

def makeLocal : List Octets → Run Flow
  | [] => finish 0
  | a :: more => do
    let (name, value) := match a.splitAt? '=' with
      | some (name, value) => (name, some value)
      | none => (a, none)
    if !isName name.toList then die (name ++ ": bad variable name")
    modify fun s =>
      match s.hidden with
      | frame :: frames => { s with hidden := ((name, s.lookup name) :: frame) :: frames }
      | [] => s
    if let some v := value then assign name v
    makeLocal more

def count (args : List Octets) : Run Nat := do
  match args.head? with
  | none => return 1
  | some a =>
    match a.nat? with
    | some n => return n
    | none => die ("Illegal number: " ++ a)

def statusArgument (args : List Octets) : Run Nat := do
  match args.head? with
  | none => return (← get).status
  | some a =>
    match a.nat? with
    | some n => return n
    | none => die ("Illegal number: " ++ a)

/-- Where the file of a script is. A name without a slash is looked for in the search path. -/
def scriptPath (name : Octets) : Run Octets := do
  if name.toList.contains '/' then return name
  else search (FileTree.candidates (((← get).value? "PATH").getD FileTree.defaultSearchPath) name)
where
  search : List Octets → Run Octets
    | [] => die (name ++ ": not found")
    | path :: more => do
      match ← call (.inspect path) with
      | .ok i => if i.isFile then return path else search more
      | .error _ => search more

def readScript (path : Octets) : Run Octets := do
  match ← call (.openPath 9 path .read) with
  | .error _ => die ("cannot open " ++ path ++ ": No such file")
  | .ok () =>
    let text ← capture.collect 9 "" 1000000
    call (.close 9)
    return text

def builtin (r : Interpreter) (name : Octets) (args : List Octets) : Run Flow := do
  match name with
  | ":" | "true" | "hash" | "times" => finish 0
  | "umask" =>
    match args.head? with
    | none =>
      let digits := String.ofList (Nat.toDigits 8 (← get).mask)
      printed name ("".pushn '0' (4 - digits.length) ++ digits ++ "\n")
    | some a =>
      match Octets.digitsBelow 8 a.toList with
      | some n =>
        modify ({ · with mask := n })
        finish 0
      | none => die ("Illegal mode: " ++ a)
  | "false" => finish 1
  | "echo" => echo args
  | "printf" => printf args
  | "test" => test args
  | "[" => bracket args
  | "cd" => changeDirectory args
  | "pwd" =>
    discard (takeOptions ['L', 'P'] args)
    printed "pwd" ((← call .place) ++ "\n")
  | "kill" => kill args
  | "wait" =>
    let (_, args) ← takeOptions [] args
    if args.isEmpty then waitAll r 100000 else waitFor r args
  | "read" => read args
  | "export" => markOrShow name ({ · with exported := true }) Variable.exported args
  | "readonly" => markOrShow name ({ · with readOnly := true }) Variable.readOnly args
  | "local" => if (← get).hidden.isEmpty then die "not in a function" else makeLocal args
  | "unset" =>
    let (options, names) ← takeOptions ['f', 'v'] args
    unset (options.getLast? == some 'f') names
  | "set" => if args.isEmpty then printed name (variableLines "" (·.value.isSome) (← get)) else setArguments args
  | "shift" =>
    let n ← count args
    if n > (← get).args.length then die "can't shift that many"
    modify fun s => { s with args := s.args.drop n }
    finish 0
  | "trap" => trap args
  | "eval" => script r (" ".intercalate args)
  | "." =>
    match (← takeOptions [] args).2 with
    | path :: _ =>
      let path ← scriptPath path
      let text ← readScript path
      let flow ← speaking path (script r text)
      return if flow = .back then .next else flow
    | [] => finish 0
  | "exit" => leave r ((← statusArgument args) % 256)
  | "return" =>
    setStatus (← statusArgument args)
    return .back
  | "break" =>
    let n ← count args
    setStatus 0
    let loops := (← get).loops
    return if loops == 0 then .next else .leave (min loops (max 1 n))
  | "continue" =>
    let n ← count args
    setStatus 0
    let loops := (← get).loops
    return if loops == 0 then .next else .again (min loops (max 1 n))
  | _ => finish 0

end Interpreter

end ScriptRunner.Posix.Sh
