import ScriptRunner.Posix.Octets

namespace ScriptRunner.Posix.Sh

abbrev Marked := List (Char × Bool)

inductive Glob where
  | one (c : Char)
  | any
  | many
  | among (negated : Bool) (ranges : List (Char × Char))

namespace Glob

def classRanges (name : String) : List (Char × Char) :=
  match name with
  | "alpha" => [('a', 'z'), ('A', 'Z')]
  | "digit" => [('0', '9')]
  | "alnum" => [('a', 'z'), ('A', 'Z'), ('0', '9')]
  | "upper" => [('A', 'Z')]
  | "lower" => [('a', 'z')]
  | "space" => [('\t', '\r'), (' ', ' ')]
  | "blank" => [('\t', '\t'), (' ', ' ')]
  | "punct" => [('!', '/'), (':', '@'), ('[', '\x60'), ('\x7b', '~')]
  | "xdigit" => [('0', '9'), ('a', 'f'), ('A', 'F')]
  | "cntrl" => [('\x00', '\x1f'), ('\x7f', '\x7f')]
  | "print" => [(' ', '~')]
  | "graph" => [('!', '~')]
  | _ => []

def classBody (s : Marked) : Option (String × Marked) :=
  let name := (s.takeWhile fun c => c.1.isAlpha).map Prod.fst
  match s.drop name.length with
  | (':', _) :: (']', _) :: rest => some (String.ofList name, rest)
  | _ => none

def members : Nat → Bool → Marked → List (Char × Char) → Option (List (Char × Char) × Marked)
  | 0, _, _, _ => none
  | _ + 1, _, [], _ => none
  | n + 1, first, (c, q) :: rest, acc =>
    if c == ']' && !q && !first then some (acc.reverse, rest)
    else
      let range := fun (_ : Unit) =>
        match rest with
        | ('-', false) :: (d, e) :: rest' =>
          if d == ']' && !e then members n false rest ((c, c) :: acc) else members n false rest' ((c, d) :: acc)
        | _ => members n false rest ((c, c) :: acc)
      match c, q, rest with
      | '[', false, (':', false) :: rest' =>
        match classBody rest' with
        | some (name, rest') => members n false rest' ((classRanges name).reverse ++ acc)
        | none => range ()
      | _, _, _ => range ()

def parseFrom : Nat → Marked → List Glob
  | 0, _ | _, [] => []
  | n + 1, (c, true) :: rest => .one c :: parseFrom n rest
  | n + 1, ('*', false) :: rest => .many :: parseFrom n rest
  | n + 1, ('?', false) :: rest => .any :: parseFrom n rest
  | n + 1, ('[', false) :: rest =>
    let negated := rest.head?.any fun c => (c.1 == '!' || c.1 == '^') && !c.2
    match members (rest.length + 1) true (if negated then rest.drop 1 else rest) [] with
    | some (ranges, rest) => .among negated ranges :: parseFrom n rest
    | none => .one '[' :: parseFrom n rest
  | n + 1, ('\\', false) :: (c, _) :: rest => .one c :: parseFrom n rest
  | n + 1, (c, false) :: rest => .one c :: parseFrom n rest

def parse (s : Marked) : List Glob := parseFrom s.length s

def accepts : Glob → Char → Bool
  | .one d, c => c == d
  | .any, _ => true
  | .many, _ => false
  | .among negated ranges, c => (ranges.any fun r => r.1 ≤ c && c ≤ r.2) != negated

def covers : List Glob → List Char → Bool
  | [], s => s.isEmpty
  | .many :: ps, [] => covers ps []
  | .many :: ps, c :: s => covers ps (c :: s) || covers (.many :: ps) s
  | _ :: _, [] => false
  | p :: ps, c :: s => p.accepts c && covers ps s
  termination_by ps s => ps.length + s.length

def isPattern (s : Marked) : Bool := s.any fun c => !c.2 && (c.1 == '*' || c.1 == '?' || c.1 == '[')

/-- What is left of a text when the shortest or longest covered part at one end is cut off. -/
def trim (suffix longest : Bool) (ps : List Glob) (s : List Char) : List Char :=
  let sizes := List.range (s.length + 1)
  let lengths := if longest then sizes.reverse else sizes
  let fits := fun n => covers ps (if suffix then s.drop (s.length - n) else s.take n)
  match lengths.find? fits with
  | some n => if suffix then s.take (s.length - n) else s.drop n
  | none => s

end Glob

end ScriptRunner.Posix.Sh
