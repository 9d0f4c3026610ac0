import ScriptRunner.Posix.Errno
import ScriptRunner.Posix.Octets

namespace ScriptRunner.Posix

inductive Device where
  | null
  | zero
  | full
  deriving DecidableEq, Repr

inductive Node where
  | dir
  | file (content : Octets) (executable : Bool)
  | device (d : Device)
  | program (name : String)
  deriving DecidableEq, Repr, Inhabited

/-- Where a node is: the names from the root. -/
abbrev Place := List Octets

structure FileTree where
  nodes : Array Node
  names : List (Place × Nat)
  deriving DecidableEq

namespace FileTree

def empty : FileTree := ⟨#[.dir], [([], 0)]⟩

def number? (t : FileTree) (p : Place) : Option Nat := t.names.lookup p

def node? (t : FileTree) (p : Place) : Option Node := t.number? p >>= fun i => t.nodes[i]?

def isDir (t : FileTree) (p : Place) : Bool := t.node? p == some .dir

def put (t : FileTree) (p : Place) (n : Node) : FileTree :=
  ⟨t.nodes.push n, t.names.filter (·.1 != p) ++ [(p, t.nodes.size)]⟩

def remove (t : FileTree) (p : Place) : FileTree := { t with names := t.names.filter (·.1 != p) }

def update (t : FileTree) (i : Nat) (n : Node) : FileTree := { t with nodes := t.nodes.setIfInBounds i n }

/-- Makes the directories on the way to a place, and the place itself a directory. -/
def makePlace (t : FileTree) (p : Place) : FileTree :=
  (List.range (p.length + 1)).foldl
    (fun t i => if (t.node? (p.take i)).isSome then t else t.put (p.take i) .dir) t

def install (t : FileTree) (p : Place) (n : Node) : FileTree := (t.makePlace p.dropLast).put p n

def children (t : FileTree) (p : Place) : List Octets :=
  t.names.filterMap fun (q, _) => if q != [] && q.dropLast == p then q.getLast? else none

def nameLimit : Nat := 255

def child (p : Place) (name : Octets) : Place :=
  if name == "" || name == "." then p else if name == ".." then p.dropLast else p ++ [name]

/-- Goes from place to place. Every name has to stand in a directory; the last one need not be there. -/
def walk (t : FileTree) : Place → List Octets → Except Errno Place
  | p, [] => .ok p
  | p, c :: cs =>
    match t.node? p with
    | none => .error .noEntry
    | some .dir => if c.length > nameLimit then .error .nameTooLong else walk t (child p c) cs
    | some _ => .error .notDirectory

def locate (t : FileTree) (cwd : Place) (path : Octets) : Except Errno Place :=
  if path == "" then .error .noEntry
  else if path.length ≥ 4096 then .error .nameTooLong
  else t.walk (if path.startsWith "/" then [] else cwd) (path.splitOn '/')

def trimSlashes (path : Octets) : Octets :=
  let kept := (path.toList.reverse.dropWhile (· == '/')).reverse
  if kept.isEmpty && path != "" then "/" else String.ofList kept

def find (t : FileTree) (cwd : Place) (path : Octets) : Except Errno (Place × Node) :=
  (t.locate cwd path).bind fun p =>
    match t.node? p with
    | some n => .ok (p, n)
    | none => .error .noEntry

def locateWritable (t : FileTree) (cwd : Place) (path : Octets) : Except Errno Place :=
  if path.endsWith "/" then
    let start : Place := if path.startsWith "/" then [] else cwd
    (t.walk start (((trimSlashes path).splitOn '/').dropLast ++ ["."])).bind fun _ => .error .isDirectory
  else (t.locate cwd path).bind fun p => if t.isDir p then .error .isDirectory else .ok p

def create (t : FileTree) (cwd : Place) (path : Octets) : Except Errno (FileTree × Nat) :=
  (t.locateWritable cwd path).map fun p =>
    match t.number? p with
    | some i => (t, i)
    | none => (t.put p (.file "" false), t.nodes.size)

def read (t : FileTree) (cwd : Place) (path : Octets) : Except Errno Octets :=
  (t.find cwd path).bind fun (_, n) =>
    match n with
    | .file content _ => .ok content
    | .dir => .error .isDirectory
    | _ => .ok ""

/-- Adds bytes to the end of an open file. A device has no end to add to. -/
def extend (t : FileTree) (i : Nat) (bytes : Octets) : Except Errno FileTree :=
  match t.nodes[i]? with
  | some (.file old executable) => .ok (t.update i (.file (old ++ bytes) executable))
  | some (.device .full) => .error .noSpace
  | _ => .ok t

def makeDir (t : FileTree) (cwd : Place) (path : Octets) : Except Errno FileTree :=
  (t.locate cwd (trimSlashes path)).bind fun p =>
    if (t.node? p).isSome then .error .exists else .ok (t.put p .dir)

def unlink (t : FileTree) (cwd : Place) (path : Octets) : Except Errno FileTree :=
  (t.find cwd path).bind fun (p, n) => if n == .dir then .error .isDirectory else .ok (t.remove p)

def removeDir (t : FileTree) (cwd : Place) (path : Octets) : Except Errno FileTree :=
  (t.find cwd path).bind fun (p, n) =>
    if n != .dir then .error .notDirectory
    else if !(t.children p).isEmpty then .error .notEmpty
    else .ok (t.remove p)

structure Image where
  program : String
  argv : List Octets
  deriving DecidableEq, Repr

/-- The words on the first line of a script behind its mark: the interpreter and at most one argument. -/
def interpreter (content : Octets) : Option (List Octets) :=
  match content.toList with
  | '#' :: '!' :: rest =>
    let blank := fun c : Char => c == ' ' || c == '\t'
    let line := (((rest.takeWhile (· != '\n')).dropWhile blank).reverse.dropWhile blank).reverse
    let arg := (line.dropWhile (!blank ·)).dropWhile blank
    some (String.ofList (line.takeWhile (!blank ·)) :: if arg.isEmpty then [] else [String.ofList arg])
  | _ => none

def loadFrom (t : FileTree) (cwd : Place) : Nat → Octets → List Octets → Except Errno Image
  | 0, _, _ => .error .notExecutable
  | n + 1, path, argv =>
    match t.find cwd path with
    | .error e => .error e
    | .ok (_, .program name) => .ok ⟨name, argv⟩
    | .ok (_, .file content true) =>
      match interpreter content with
      | some (program :: args) =>
        if program == "" then .error .notExecutable
        else loadFrom t cwd n program (program :: args ++ path :: argv.drop 1)
      | _ => .error .notExecutable
    | .ok _ => .error .denied

def load (t : FileTree) (cwd : Place) (path : Octets) (argv : List Octets) : Except Errno Image :=
  t.loadFrom cwd 5 path argv

/-- The paths that a program name stands for: itself if it has a slash, else one in every directory of the
search path. -/
def candidates (searchPath program : Octets) : List Octets :=
  if program.toList.contains '/' then [program]
  else (searchPath.splitOn ':').map fun dir => if dir == "" then "./" ++ program else dir ++ "/" ++ program

/-- Loads the first candidate that is there. A program that may not be run counts if no other is found. -/
def loadFirst (t : FileTree) (cwd : Place) (argv : List Octets) : List Octets → Bool → Except Errno Image
  | [], denied => .error (if denied then .denied else .noEntry)
  | path :: paths, denied =>
    match t.load cwd path argv with
    | .ok image => .ok image
    | .error .denied => loadFirst t cwd argv paths true
    | .error .noEntry | .error .notDirectory => loadFirst t cwd argv paths denied
    | .error e => .error e

def defaultSearchPath : Octets := "/bin:/usr/bin"

def search (t : FileTree) (cwd : Place) (searchPath program : Octets) (argv : List Octets) :
    Except Errno Image :=
  if program == "" then .error .noEntry
  else if program.toList.contains '/' then t.load cwd program argv
  else t.loadFirst cwd argv (candidates searchPath program) false

def plain (programs : List String) : FileTree :=
  let dirs : List Place := [["bin"], ["usr", "bin"], ["dev"], ["tmp"], ["proc"], ["etc"], ["root"]]
  let t := dirs.foldl makePlace empty
  let t := [("null", Device.null), ("zero", .zero), ("full", .full)].foldl
    (fun t d => t.put ["dev", d.1] (.device d.2)) t
  programs.foldl (fun t name => (t.put ["bin", name] (.program name)).put ["usr", "bin", name] (.program name)) t

def filesBelow (t : FileTree) (root : Place) : List (Octets × Octets) :=
  t.names.filterMap fun (p, i) =>
    match t.nodes[i]? with
    | some (.file content _) =>
      if root.isPrefixOf p then some ("/".intercalate (p.drop root.length), content) else none
    | _ => none

end FileTree

end ScriptRunner.Posix
