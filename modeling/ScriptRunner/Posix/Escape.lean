import ScriptRunner.Posix.Octets

namespace ScriptRunner.Posix.Escape

def isOctal (c : Char) : Bool := '0' ≤ c && c ≤ '7'

def octal (most : Nat) (cs : List Char) : Char × List Char :=
  let digits := (cs.take most).takeWhile isOctal
  (Char.ofNat ((digits.foldl (fun n c => 8 * n + (c.toNat - '0'.toNat)) 0) % 256), cs.drop digits.length)

def letter? (c : Char) : Option Char :=
  [('a', '\x07'), ('b', '\x08'), ('f', '\x0c'), ('n', '\n'), ('r', '\r'), ('t', '\t'), ('v', '\x0b'),
    ('e', '\x1b'), ('\\', '\\')].lookup c

def unescape : Nat → List Char → List Char → List Char × Bool
  | 0, _, acc => (acc.reverse, false)
  | n + 1, cs, acc =>
    match cs with
    | [] => (acc.reverse, false)
    | '\\' :: 'c' :: _ => (acc.reverse, true)
    | '\\' :: '0' :: rest =>
      let (c, rest) := octal 3 rest
      unescape n rest (c :: acc)
    | '\\' :: c :: rest =>
      if isOctal c then
        let (c, rest) := octal 3 (c :: rest)
        unescape n rest (c :: acc)
      else
        match letter? c with
        | some d => unescape n rest (d :: acc)
        | none => unescape n rest (c :: '\\' :: acc)
    | c :: rest => unescape n rest (c :: acc)

def unescaped (s : Octets) : Octets × Bool :=
  let (cs, stops) := unescape (s.length + 1) s.toList []
  (String.ofList cs, stops)

structure Printed where
  out : Octets
  complaints : List Octets
  status : Nat
  stopped : Bool

namespace Printed

def none : Printed := ⟨"", [], 0, false⟩

def add (p : Printed) (s : Octets) : Printed := { p with out := p.out ++ s }

def complain (p : Printed) (s : Octets) : Printed := { p with complaints := p.complaints ++ [s], status := 1 }

end Printed

structure Layout where
  flags : List Char
  width : Nat
  precision : Option Nat

namespace Layout

def pad (l : Layout) (s : Octets) (zeros : Bool) : Octets :=
  let gap := l.width - s.length
  if l.flags.contains '-' then s.pushn ' ' gap
  else if zeros && l.flags.contains '0' && l.precision.isNone then
    match s.toList with
    | '-' :: rest => "-" ++ "".pushn '0' gap ++ String.ofList rest
    | _ => "".pushn '0' gap ++ s
  else "".pushn ' ' gap ++ s

def precise (l : Layout) (digits : Octets) : Octets :=
  match l.precision with
  | some p => if p == 0 && digits == "0" then "" else "".pushn '0' (p - digits.length) ++ digits
  | none => digits

end Layout

structure Reading where
  value : Int
  /-- How much of the argument it does not cover. -/
  left : Nat

def blanks : List Char := [' ', '\t', '\n', '\x0b', '\x0c', '\r']

/-- A number at the start of an argument. A zero in front makes it octal, and `0x` hexadecimal. -/
def number? (s : Octets) : Option Reading :=
  let cs := s.toList.dropWhile (blanks.contains ·)
  let (negative, cs) := match cs with
    | '-' :: cs => (true, cs)
    | '+' :: cs => (false, cs)
    | cs => (false, cs)
  let digitsOf := fun (base : Nat) (cs : List Char) => cs.takeWhile fun c => (Octets.digitsBelow base [c]).isSome
  let (base, cs) := match cs with
    | '0' :: 'x' :: rest | '0' :: 'X' :: rest => if (digitsOf 16 rest).isEmpty then (8, cs) else (16, rest)
    | '0' :: _ => (8, cs)
    | cs => (10, cs)
  let digits := digitsOf base cs
  (Octets.digitsBelow base digits).map fun n => ⟨if negative then -n else n, cs.length - digits.length⟩

def clamp (signed : Bool) (n : Int) : Int :=
  if signed then max (-0x8000000000000000) (min 0x7FFFFFFFFFFFFFFF n)
  else if n < -0xFFFFFFFFFFFFFFFF then 0xFFFFFFFFFFFFFFFF
  else min 0xFFFFFFFFFFFFFFFF n

/-- The number that an argument gives, with a complaint if it is not one altogether. Behind a quote stands the
character whose code is meant. -/
def argument (signed : Bool) (p : Printed) (arg : Option Octets) : Int × Printed :=
  match arg.getD "" with
  | "" => (0, p)
  | s =>
    match s.toList with
    | '\'' :: cs | '"' :: cs => (((cs.head?.map Char.toNat).getD 0 : Nat), p)
    | _ =>
      match number? s with
      | none => (0, p.complain (s ++ ": expected numeric value"))
      | some ⟨n, left⟩ =>
        let m := clamp signed n
        (m, if left != 0 then p.complain (s ++ ": not completely converted")
          else if m = n then p else p.complain (s ++ ": Numerical result out of range"))

def directive (l : Layout) (conversion : Char) (arg : Option Octets) (p : Printed) : Printed :=
  match conversion with
  | 's' =>
    let s := arg.getD ""
    p.add (l.pad (match l.precision with
      | some n => s.take n
      | none => s) false)
  | 'b' =>
    let (s, stops) := unescaped (arg.getD "")
    { p.add (l.pad s false) with stopped := stops }
  | 'c' => p.add (l.pad (String.ofList [(arg.getD "").toList.headD '\x00']) false)
  | _ =>
    let (n, p) := argument (conversion == 'd' || conversion == 'i') p arg
    let unsigned := if n < 0 then (n + 0x10000000000000000).toNat else n.toNat
    let digits := fun base : Nat => String.ofList (Nat.toDigits base unsigned)
    match conversion with
    | 'o' => p.add (l.pad (l.precise ((if l.flags.contains '#' then "0" else "") ++ digits 8)) true)
    | 'u' => p.add (l.pad (l.precise (digits 10)) true)
    | 'x' => p.add (l.pad ((if l.flags.contains '#' && n ≠ 0 then "0x" else "") ++ l.precise (digits 16)) true)
    | 'X' =>
      p.add (l.pad ((if l.flags.contains '#' && n ≠ 0 then "0X" else "") ++ l.precise (digits 16).toUpper) true)
    | _ =>
      let sign := if n < 0 then "-" else if l.flags.contains '+' then "+" else if l.flags.contains ' ' then " " else ""
      p.add (l.pad (sign ++ l.precise (toString n.natAbs)) true)

def size (cs : List Char) (args : List Octets) : Option Int × List Char × List Octets :=
  match cs with
  | '*' :: cs => (some (((args.head?.bind number?).map Reading.value).getD 0), cs, args.drop 1)
  | _ =>
    let digits := cs.takeWhile Char.isDigit
    ((Octets.digitsBelow 10 digits).map Int.ofNat, cs.drop digits.length, args)

def pass : Nat → List Char → List Octets → Printed → Printed × List Octets
  | 0, _, args, p => (p, args)
  | n + 1, cs, args, p =>
    if p.stopped then (p, args)
    else
      match cs with
      | [] => (p, args)
      | '%' :: '%' :: rest => pass n rest args (p.add "%")
      | '%' :: rest =>
        let flags := rest.takeWhile ("-+ #0".toList.contains ·)
        let (width, rest, args) := size (rest.drop flags.length) args
        let (precision, rest, args) := match rest with
          | '.' :: rest =>
            let (q, rest, args) := size rest args
            (some (q.getD 0), rest, args)
          | rest => (none, rest, args)
        let flags := if (width.getD 0) < 0 then '-' :: flags else flags
        let l : Layout := ⟨flags, (width.getD 0).natAbs, precision.bind fun q => if q < 0 then none else some q.toNat⟩
        match rest with
        | c :: rest =>
          if "sbcdiouxX".toList.contains c then pass n rest (args.drop 1) (directive l c args.head? p)
          else
            let written := String.ofList (cs.take (cs.length - rest.length))
            ({ p.complain (written ++ ": invalid directive") with status := 2, stopped := true }, [])
        | [] => ({ p.complain "missing format character" with status := 2, stopped := true }, [])
      | '\\' :: c :: rest =>
        if isOctal c then
          let (d, rest) := octal 3 (c :: rest)
          pass n rest args (p.add (String.ofList [d]))
        else
          match letter? c with
          | some d => pass n rest args (p.add (String.ofList [d]))
          | none => pass n rest args (p.add (String.ofList ['\\', c]))
      | c :: rest => pass n rest args (p.add (String.ofList [c]))

def passes (fmt : Octets) : Nat → List Octets → Printed → Printed
  | 0, _, p => p
  | n + 1, args, p =>
    let (p, left) := pass (fmt.length + 1) fmt.toList args p
    if p.stopped || left.isEmpty || left.length == args.length then p else passes fmt n left p

def format (fmt : Octets) (args : List Octets) : Printed := passes fmt (args.length + 1) args .none

end ScriptRunner.Posix.Escape
