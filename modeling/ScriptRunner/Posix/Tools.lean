import ScriptRunner.Posix.Condition
import ScriptRunner.Posix.Escape
import ScriptRunner.Posix.Sh.Glob
import ScriptRunner.Posix.Signal
import ScriptRunner.Posix.Task

namespace ScriptRunner.Posix.Tools

open Act

def fuel : Nat := 100000000

def valueOf? (environment : List Octets) (name : Octets) : Option Octets :=
  environment.reverse.findSome? fun e =>
    match e.splitAt? '=' with
    | some (key, value) => if key == name then some value else none
    | none => none

def localeName (environment : List Octets) : Octets :=
  (["LC_ALL", "LC_CTYPE", "LANG"].findSome? fun v => (valueOf? environment v).filter (· != "")).getD "C"

def isUtf8 (environment : List Octets) : Bool :=
  let tail := ((localeName environment).toList.dropWhile (· != '.')).drop 1
  let name := String.ofList ((tail.takeWhile (· != '@')).map Char.toLower)
  name == "utf-8" || name == "utf8"

def quoted (environment : List Octets) (s : Octets) : Octets :=
  if isUtf8 environment then Octets.ofText "‘" ++ s ++ Octets.ofText "’" else "'" ++ s ++ "'"

def complain (program text : Octets) : Act Unit := do discard (print 2 (program ++ ": " ++ text ++ "\n"))

def finish (program text : Octets) (status : Nat) : Act Nat := do
  if text == "" then return status
  match ← call (.write 1 text) with
  | .ok () => return status
  | .error e =>
    complain program ("write error: " ++ e.text)
    return 1

def missingOperand (program what : Octets) : Act Nat := do
  complain program ("missing " ++ what ++ "\nTry '" ++ program ++ " --help' for more information.")
  return 1

def eachFile (program : Octets) (failure : Octets → Octets) (use : Nat → Octets → Act Nat) :
    List Octets → Nat → Act Nat
  | [], status => return status
  | "-" :: more, status => do eachFile program failure use more (max status (← use 0 "-"))
  | path :: more, status => do
    match ← call (.openPath 3 path .read) with
    | .ok () =>
      let s ← use 3 path
      call (.close 3)
      eachFile program failure use more (max status s)
    | .error e =>
      complain program (failure path ++ ": " ++ e.text)
      eachFile program failure use more 1

def copy (handle : Nat) (name : Octets) : Nat → Act Nat
  | 0 => return 0
  | n + 1 => do
    match ← call (.read handle 65536) with
    | .error e =>
      complain "cat" (name ++ ": " ++ e.text)
      return 1
    | .ok "" => return 0
    | .ok data =>
      match ← call (.write 1 data) with
      | .ok () => copy handle name n
      | .error e =>
        complain "cat" ("write error: " ++ e.text)
        Act.exit 1

def cat (args : List Octets) : Act Nat := do
  let files := args.filter fun a => a == "-" || !a.startsWith "-"
  eachFile "cat" (fun path => path) (fun handle name => copy handle name fuel) (if files.isEmpty then ["-"] else files) 0

inductive Amount where
  | bytes (n : Nat)
  | lines (n : Nat)

namespace Amount

def isZero : Amount → Bool
  | .bytes n | .lines n => n == 0

def ofText? (bytes : Bool) (s : Octets) : Option Amount := s.nat?.map fun n => if bytes then .bytes n else .lines n

def takeLines : Nat → List Char → List Char → List Char × Nat
  | 0, _, acc => (acc.reverse, 0)
  | n, [], acc => (acc.reverse, n)
  | n + 1, c :: cs, acc => takeLines (if c == '\n' then n else n + 1) cs (c :: acc)
  termination_by _ cs _ => cs.length

def part : Amount → Octets → Octets × Amount
  | .bytes n, data => (data.take n, .bytes (n - data.length))
  | .lines n, data =>
    let (cs, left) := takeLines n data.toList []
    (String.ofList cs, .lines left)

def request : Amount → Nat
  | .bytes n => min n 65536
  | .lines _ => 65536

end Amount

def headOf (handle : Nat) (name : Octets) : Nat → Amount → Act Nat
  | 0, _ => return 0
  | n + 1, amount => do
    if amount.isZero then return 0
    match ← call (.read handle amount.request) with
    | .error e =>
      complain "head" ("error reading '" ++ name ++ "': " ++ e.text)
      return 1
    | .ok "" => return 0
    | .ok data =>
      let (s, left) := amount.part data
      match ← call (.write 1 s) with
      | .ok () => headOf handle name n left
      | .error e =>
        complain "head" ("write error: " ++ e.text)
        Act.exit 1

def amountOption? (a : Octets) : Option (Bool × Octets) :=
  match a.toList with
  | '-' :: 'c' :: n => some (true, String.ofList n)
  | '-' :: 'n' :: n => some (false, String.ofList n)
  | '-' :: d :: n => some (false, String.ofList (d :: n))
  | _ => none

def readAmount (bytes : Bool) (n : Octets) : Except Octets Amount :=
  match Amount.ofText? bytes n with
  | some amount => .ok amount
  | none => .error ("invalid number of " ++ (if bytes then "bytes" else "lines") ++ ": '" ++ n ++ "'")

def headOptions : List Octets → Amount → Except Octets (Amount × List Octets)
  | [], amount => .ok (amount, [])
  | a :: more, amount =>
    match amountOption? a with
    | none => .ok (amount, a :: more)
    | some (bytes, "") =>
      match more with
      | [] =>
        .error ("option requires an argument -- '" ++ (if bytes then "c" else "n") ++
          "'\nTry 'head --help' for more information.")
      | n :: more => (readAmount bytes n).bind (headOptions more)
    | some (bytes, n) => (readAmount bytes n).bind (headOptions more)

def head (args : List Octets) : Act Nat := do
  match headOptions args (.lines 10) with
  | .error message =>
    complain "head" message
    return 1
  | .ok (amount, files) =>
    let many := files.length > 1
    eachFile "head" (fun path => "cannot open '" ++ path ++ "' for reading") (fun handle name => do
      if many then
        discard (print 1 ((if files.head? == some name then "" else "\n") ++ "==> " ++ name ++ " <==\n"))
      headOf handle name fuel amount) (if files.isEmpty then ["-"] else files) 0

def characters : Nat → List Char → List Char
  | 0, _ | _, [] => []
  | n + 1, cs =>
    let unit : Option (Char × List Char) := match cs with
      | '\\' :: c :: rest =>
        if Escape.isOctal c then some (Escape.octal 3 (c :: rest)) else some ((Escape.letter? c).getD c, rest)
      | c :: rest => some (c, rest)
      | [] => none
    match cs with
    | '[' :: ':' :: rest =>
      let name := rest.takeWhile Char.isAlpha
      let ranges := Sh.Glob.classRanges (String.ofList name)
      match rest.drop name.length with
      | ':' :: ']' :: rest =>
        ranges.flatMap (fun r => (List.range (r.2.toNat + 1 - r.1.toNat)).map fun i => Char.ofNat (r.1.toNat + i)) ++
          characters n rest
      | _ => '[' :: characters n (':' :: rest)
    | _ =>
      match unit with
      | some (a, '-' :: b :: rest) =>
        let (b, rest) := match b, rest with
          | '\\', c :: rest =>
            if Escape.isOctal c then Escape.octal 3 (c :: rest) else ((Escape.letter? c).getD c, rest)
          | b, rest => (b, rest)
        (List.range (b.toNat + 1 - a.toNat)).map (fun i => Char.ofNat (a.toNat + i)) ++ characters n rest
      | some (a, rest) => a :: characters n rest
      | none => []

structure Recoding where
  deletes : Bool
  squeezes : Bool
  first : Char → Bool
  replace : Char → Char
  squeezed : Char → Bool

def Recoding.apply (t : Recoding) : List Char → Option Char → List Char → List Char × Option Char
  | [], last, acc => (acc.reverse, last)
  | c :: cs, last, acc =>
    if t.deletes && t.first c then apply t cs last acc
    else
      let d := if t.first c then t.replace c else c
      if t.squeezes && t.squeezed d && last == some d then apply t cs last acc
      else apply t cs (some d) (d :: acc)

def recode (t : Recoding) : Nat → Option Char → Act Nat
  | 0, _ => return 0
  | n + 1, last => do
    match ← call (.read 0 65536) with
    | .ok "" => return 0
    | .error e =>
      complain "tr" ("read error: " ++ e.text)
      return 1
    | .ok data =>
      let (out, last) := t.apply data.toList last []
      if out.isEmpty then recode t n last
      else
        match ← call (.write 1 (String.ofList out)) with
        | .ok () => recode t n last
        | .error e =>
          complain "tr" ("write error: " ++ e.text)
          return 1

def tr (args : List Octets) : Act Nat := do
  let flags := (args.takeWhile fun a => a.startsWith "-" && a.length > 1).flatMap (·.toList.drop 1)
  let sets := (args.dropWhile fun a => a.startsWith "-" && a.length > 1).map fun s =>
    (characters (s.length + 1) s.toList).toArray
  let complement := flags.any fun c => c == 'c' || c == 'C'
  match sets with
  | [] => missingOperand "tr" "operand"
  | a :: more =>
    if more.isEmpty && !flags.contains 'd' && !flags.contains 's' then
      complain "tr" ("missing operand after '" ++ args.getLastD "" ++
        "'\nTwo strings must be given when translating.\nTry 'tr --help' for more information.")
      return 1
    let b := more.head?.getD #[]
    let first := fun c => a.contains c != complement
    let replace := fun c =>
      if flags.contains 'd' || b.isEmpty then c
      else if complement then b.back?.getD c
      else match (List.range a.size).reverse.find? fun i => a[i]? == some c with
        | some i => (b[i]? <|> b.back?).getD c
        | none => c
    let squeezed := if more.isEmpty then first else fun c => b.contains c
    recode ⟨flags.contains 'd', flags.contains 's', first, replace, squeezed⟩ fuel none

def micros? (s : Octets) : Option Nat :=
  let cs := s.toList
  let (cs, scale) := match cs.getLast? with
    | some 's' => (cs.dropLast, 1)
    | some 'm' => (cs.dropLast, 60)
    | some 'h' => (cs.dropLast, 3600)
    | some 'd' => (cs.dropLast, 86400)
    | _ => (cs, 1)
  let whole := cs.takeWhile Char.isDigit
  let fraction := (cs.drop whole.length).drop 1
  let marked := (cs.drop whole.length).head?
  if (whole.isEmpty && fraction.isEmpty) || !fraction.all Char.isDigit || marked.any (· != '.') then none
  else
    let w := (Octets.digitsBelow 10 whole).getD 0
    let f := (Octets.digitsBelow 10 ((fraction ++ "000000".toList).take 6)).getD 0
    some ((w * 1000000 + f) * scale)

def sleep (environment args : List Octets) : Act Nat := do
  if args.isEmpty then return ← missingOperand "sleep" "operand"
  match args.find? fun a => (micros? a).isNone with
  | some a =>
    complain "sleep" (if a.startsWith "-" then
      "invalid option -- '" ++ (a.drop 1).take 1 ++ "'\nTry 'sleep --help' for more information."
    else "invalid time interval " ++ quoted environment a ++ "\nTry 'sleep --help' for more information.")
    return 1
  | none =>
    call (.sleep ((args.filterMap micros?).foldl (· + ·) 0))
    return 0

def eachOperand (program : Octets) (failure : Octets → Octets) (use : Octets → Act (Except Errno Unit)) :
    List Octets → Nat → Act Nat
  | [], status => return status
  | path :: more, status => do
    match ← use path with
    | .ok () => eachOperand program failure use more status
    | .error e =>
      complain program (failure path ++ ": " ++ e.text)
      eachOperand program failure use more 1

def operands (args : List Octets) : List Char × List Octets :=
  ((args.takeWhile fun a => a.startsWith "-" && a != "--").flatMap (·.toList.drop 1),
    (args.dropWhile fun a => a.startsWith "-" && a != "--").filter (· != "--"))

def touchOne (path : Octets) : Act (Except Errno Unit) := do
  match ← call (.inspect path) with
  | .ok _ => return .ok ()
  | .error _ =>
    match ← call (.openPath 3 path .update) with
    | .ok () =>
      call (.close 3)
      return .ok ()
    | .error e => return .error e

def touch (environment args : List Octets) : Act Nat := do
  let (flags, paths) := operands args
  if paths.isEmpty then missingOperand "touch" "file operand"
  else if flags.contains 'c' then return 0
  else eachOperand "touch" (fun p => "cannot touch " ++ quoted environment p) touchOne paths 0

def makeDirs (base : Octets) : List Octets → Act (Except Errno Unit)
  | [] => return .ok ()
  | c :: cs => do
    let path := base ++ c
    if path == "" || c == "" then makeDirs (path ++ "/") cs
    else
      match ← call (.inspect path) with
      | .ok i => if i.isDir then makeDirs (path ++ "/") cs else return .error (if cs.isEmpty then .exists else .notDirectory)
      | .error _ =>
        match ← call (.makeDir path) with
        | .ok () => makeDirs (path ++ "/") cs
        | .error e => return .error e

def mkdir (environment args : List Octets) : Act Nat := do
  let (flags, paths) := operands args
  if paths.isEmpty then missingOperand "mkdir" "operand"
  else
    eachOperand "mkdir" (fun p => "cannot create directory " ++ quoted environment p)
      (fun p => if flags.contains 'p' then makeDirs "" (p.splitOn '/') else call (.makeDir p)) paths 0

def removeTree : Nat → Octets → Act (Except Errno Unit)
  | 0, _ => return .error .notEmpty
  | n + 1, path => do
    match ← call (.inspect path) with
    | .error e => return .error e
    | .ok i =>
      if i.isDir then
        for name in ← call (.list path) do
          discard (removeTree n (path ++ "/" ++ name))
        call (.removeDir path)
      else call (.unlink path)

def rm (environment args : List Octets) : Act Nat := do
  let (flags, paths) := operands args
  let deep := flags.contains 'r' || flags.contains 'R'
  let force := flags.contains 'f'
  if paths.isEmpty then
    if force then return 0 else missingOperand "rm" "operand"
  else
    eachOperand "rm" (fun p => "cannot remove " ++ quoted environment p) (fun p => do
      match ← (if deep then removeTree 64 p else call (.unlink p)) with
      | .error .noEntry => return if force then .ok () else .error .noEntry
      | r => return r) paths 0

def echo (args : List Octets) : Act Nat :=
  let (args, lineEnd) := match args with
    | "-n" :: args => (args, "")
    | args => (args, "\n")
  match args with
  | "-e" :: args =>
    let (text, stops) := Escape.unescaped (" ".intercalate args)
    finish "echo" (text ++ if stops then "" else lineEnd) 0
  | args => finish "echo" (" ".intercalate args ++ lineEnd) 0

def printf (args : List Octets) : Act Nat := do
  match args with
  | "--" :: fmt :: args | fmt :: args =>
    let p := Escape.format fmt args
    for c in p.complaints do complain "printf" c
    finish "printf" p.out p.status
  | [] => missingOperand "printf" "operand"

def test (name : Octets) (args : List Octets) : Act Nat := do
  match ← Condition.holds args with
  | .ok b => return if b then 0 else 1
  | .error e =>
    complain name e
    return 2

def locale (environment args : List Octets) : Act Nat := do
  if args == ["charmap"] then
    finish "locale" (if isUtf8 environment then "UTF-8\n" else "ANSI_X3.4-1968\n") 0
  else return 0

def kill (args : List Octets) : Act Nat := do
  let (signal, targets) := match args with
    | "-s" :: name :: targets => ((Signal.ofName? name).getD 0, targets)
    | a :: targets =>
      match a.toList with
      | '-' :: name =>
        let name := String.ofList name
        ((Octets.nat? name <|> Signal.ofName? name).getD 0, targets)
      | _ => (Signal.terminate, a :: targets)
    | [] => (Signal.terminate, [])
  eachOperand "kill" (fun t => "sending signal to " ++ t ++ " failed")
    (fun t => match t.toInt? with
      | some n => call (.kill n signal)
      | none => return .error .invalid) targets 0

def table (environment : List Octets) : List (String × (List Octets → Act Nat)) :=
  [("cat", cat), ("head", head), ("tr", tr), ("sleep", sleep environment), ("touch", touch environment),
    ("mkdir", mkdir environment), ("rm", rm environment), ("echo", echo), ("printf", printf),
    ("test", test "test"), ("[", fun args => test "[" args.dropLast), ("true", fun _ => return 0),
    ("false", fun _ => return 1), ("locale", locale environment), ("kill", kill),
    ("pwd", fun _ => do finish "pwd" ((← call .place) ++ "\n") 0)]

end ScriptRunner.Posix.Tools
