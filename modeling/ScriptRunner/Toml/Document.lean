import ScriptRunner.Toml.Quoted

namespace ScriptRunner.Toml

def skipGap (s : List Char) : List Char := s.dropWhile isGap

def isBareKeyChar (c : Char) : Bool := c.isAlphanum || c == '_' || c == '-'

def simpleKey? (s : List Char) : Option (String × List Char) :=
  match s with
  | '"' :: rest => (basicWithin (rest.length + 1) rest).map fun (t, rest) => (String.ofList t, rest)
  | '\'' :: rest => (literal? rest).map fun (t, rest) => (String.ofList t, rest)
  | s =>
    match s.takeWhile isBareKeyChar with
    | [] => none
    | key => some (String.ofList key, s.dropWhile isBareKeyChar)

/-- The deepest nesting of values, and the greatest number of parts of a key. -/
def depthLimit : Nat := 79

def keyWithin : Nat → List Char → Option (List String × List Char)
  | 0, _ => none
  | fuel + 1, s =>
    match simpleKey? (skipGap s) with
    | none => none
    | some (key, rest) =>
      match skipGap rest with
      | '.' :: rest => (keyWithin fuel rest).map fun (keys, rest) => (key :: keys, rest)
      | rest => some ([key], rest)

def key? (s : List Char) : Option (List String × List Char) := keyWithin depthLimit s

def skipComment? (s : List Char) : Option (List Char) :=
  match s with
  | '#' :: s =>
    match s.dropWhile isPlain with
    | [] => some []
    | rest => if (newline? rest).isSome then some rest else none
  | s => some s

def skipFillerWithin : Nat → List Char → Option (List Char)
  | 0, _ => none
  | fuel + 1, s =>
    match skipLines s with
    | '#' :: rest => (skipComment? ('#' :: rest)).bind (skipFillerWithin fuel)
    | rest => some rest

def skipFiller? (s : List Char) : Option (List Char) := skipFillerWithin (s.length + 1) s

def splitKey (keys : List String) : List String × String := (keys.dropLast, keys.getLastD "")

def addLine? (keys : List String) (v : Value) (es : Entries) : Option Entries :=
  let (path, key) := splitKey keys
  es.addDotted true path key v

mutual

def valueWithin (depth : Nat) : Nat → List Char → Option (Value × List Char)
  | 0, _ => none
  | fuel + 1, s =>
    match s with
    | '"' :: _ | '\'' :: _ => (string? s).map fun (t, rest) => (.string (String.ofList t), rest)
    | '[' :: rest =>
      if depth = 0 then none
      else (itemsWithin (depth - 1) fuel rest).map fun (items, rest) => (.array items, rest)
    | '\x7b' :: rest =>
      if depth = 0 then none
      else
        match skipGap rest with
        | '\x7d' :: rest => some (.table [], rest)
        | rest => (pairsWithin (depth - 1) fuel rest []).map fun (es, rest) => (.table (entriesValue es), rest)
    | s =>
      let (run, rest) := splitScalar s
      (scalar? run).map (·, rest)

def itemsWithin (depth : Nat) : Nat → List Char → Option (List Value × List Char)
  | 0, _ => none
  | fuel + 1, s =>
    match skipFiller? s with
    | none => none
    | some (']' :: rest) => some ([], rest)
    | some s =>
      match valueWithin depth fuel s with
      | none => none
      | some (v, rest) =>
        match skipFiller? rest with
        | some (']' :: rest) => some ([v], rest)
        | some (',' :: rest) => (itemsWithin depth fuel rest).map fun (vs, rest) => (v :: vs, rest)
        | _ => none

def pairsWithin (depth : Nat) : Nat → List Char → Entries → Option (Entries × List Char)
  | 0, _, _ => none
  | fuel + 1, s, es =>
    match key? s with
    | some (keys, '=' :: rest) =>
      match valueWithin depth fuel (skipGap rest) with
      | none => none
      | some (v, rest) =>
        match addLine? keys v es with
        | none => none
        | some es =>
          match skipGap rest with
          | '\x7d' :: rest => some (es, rest)
          | ',' :: rest => pairsWithin depth fuel rest es
          | _ => none
    | _ => none

end

def endLine? (s : List Char) : Option (List Char) :=
  match skipComment? (skipGap s) with
  | some [] => some []
  | some s => newline? s
  | none => none

/-- A document while it is being read: finished tables, and the table that the last header opened. -/
structure Draft where
  root : Entries
  path : List String
  repeated : Bool
  current : Entries

namespace Draft

def empty : Draft := ⟨[], [], false, []⟩

def close? (d : Draft) : Option Entries :=
  if d.path = [] then some d.current
  else
    let (parents, key) := splitKey d.path
    let place (es : Entries) : Option (Entries × Unit) :=
      if d.repeated then
        match es.get? key with
        | some (.tables items) => some (es.set key (.tables (items ++ [d.current])), ())
        | none => some (es ++ [(key, .tables [d.current])], ())
        | _ => none
      else if (es.get? key).isSome then none
      else some (es ++ [(key, .table .header d.current)], ())
    (Entries.within? place parents d.root).map Prod.fst

/-- Opens the table of a header. A table that only other headers implied goes on, in its new place. -/
def openTable? (path : List String) (root : Entries) : Option Draft :=
  let (parents, key) := splitKey path
  let take (es : Entries) : Option (Entries × Entries) :=
    match es.get? key with
    | none => some (es, [])
    | some (.table .implied sub) => some (es.remove key, sub)
    | some _ => none
  (Entries.within? take parents root).map fun (root, current) => ⟨root, path, false, current⟩

def openRepeated? (path : List String) (root : Entries) : Option Draft :=
  let (parents, key) := splitKey path
  let check (es : Entries) : Option (Entries × Unit) :=
    match es.get? key with
    | none => some (es ++ [(key, .tables [])], ())
    | some (.tables _) => some (es, ())
    | some _ => none
  (Entries.within? check parents root).map fun (root, _) => ⟨root, path, true, []⟩

def line? (s : List Char) (d : Draft) : Option (Draft × List Char) :=
  match s with
  | '[' :: '[' :: rest => do
    match ← key? rest with
    | (path, ']' :: ']' :: rest) => return (← openRepeated? path (← d.close?), ← endLine? rest)
    | _ => none
  | '[' :: rest => do
    match ← key? rest with
    | (path, ']' :: rest) => return (← openTable? path (← d.close?), ← endLine? rest)
    | _ => none
  | s => do
    match ← key? s with
    | (keys, '=' :: rest) =>
      let (v, rest) ← valueWithin depthLimit (2 * s.length + 2) (skipGap rest)
      return ({ d with current := ← addLine? keys v d.current }, ← endLine? rest)
    | _ => none

def linesWithin : Nat → List Char → Draft → Option Draft
  | 0, _, _ => none
  | fuel + 1, s, d =>
    match skipGap s with
    | [] => some d
    | '#' :: rest =>
      match endLine? ('#' :: rest) with
      | some rest => linesWithin fuel rest d
      | none => none
    | s =>
      match newline? s with
      | some rest => linesWithin fuel rest d
      | none =>
        match line? s d with
        | some (d, rest) => linesWithin fuel rest d
        | none => none

end Draft

def withoutMark (s : List Char) : List Char :=
  match s with
  | '\uFEFF' :: s => s
  | s => s

def parse? (text : String) : Option (List (String × Value)) :=
  let s := withoutMark text.toList
  ((Draft.linesWithin (s.length + 1) s .empty).bind Draft.close?).map entriesValue

end ScriptRunner.Toml
