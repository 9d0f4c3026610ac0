import ScriptRunner.Posix.Octets

namespace ScriptRunner.Posix.Sh

inductive RedirectKind where
  | read | write | append | update
  | overwrite
  | duplicate
  | here (number : Nat)
  deriving DecidableEq, Repr

mutual

/-- A part of a word. What is quoted is neither split nor taken for a pattern. -/
inductive Piece where
  | plain (text : Octets)
  | quoted (text : Octets)
  | home
  | parameter (name : Octets) (use : Use) (quoted : Bool)
  | command (body : List Item) (quoted : Bool)
  | arithmetic (expr : List Piece) (quoted : Bool)

inductive Use where
  | value
  | length
  /-- Another word, by one of the marks `-`, `=`, `?` and `+`; with a colon an empty value counts as none. -/
  | instead (mark : Char) (colon : Bool) (word : List Piece)
  | trim (suffix longest : Bool) (pattern : List Piece)

inductive Redirect where
  | mk (handle : Nat) (kind : RedirectKind) (target : List Piece)

inductive Command where
  | simple (line : Nat) (assigns : List (Octets × List Piece)) (words : List (List Piece))
      (redirects : List Redirect)
  | subshell (body : List Item) (redirects : List Redirect)
  | group (body : List Item) (redirects : List Redirect)
  | choose (branches : List (List Item × List Item)) (otherwise : List Item) (redirects : List Redirect)
  | loop (ends : Bool) (condition body : List Item) (redirects : List Redirect)
  | each (line : Nat) (name : Octets) (words : Option (List (List Piece))) (body : List Item)
      (redirects : List Redirect)
  | select (line : Nat) (word : List Piece) (arms : List (List (List Piece) × List Item))
      (redirects : List Redirect)
  | define (name : Octets) (body : Command)
  | pipeline (negated : Bool) (commands : List Command)
  | both (first second : Command)
  | either (first second : Command)

inductive Item where
  | mk (command : Command) (background : Bool)

end

abbrev Word := List Piece

instance : Inhabited Piece := ⟨.plain ""⟩
instance : Inhabited Command := ⟨.simple 0 [] [] []⟩
instance : Inhabited Item := ⟨.mk default false⟩

end ScriptRunner.Posix.Sh
