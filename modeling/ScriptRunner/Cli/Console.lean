import ScriptRunner.Cli.Color
import ScriptRunner.Encoding.Decoder
import ScriptRunner.Notice

namespace ScriptRunner.Cli

/-- A part of what goes to an output stream of the program. -/
inductive Piece where
  | own (bytes : List UInt8)
  /-- What is added at the end of the file that the stream leads to, as that file has a path. -/
  | added (bytes : List UInt8)
  deriving DecidableEq, Repr

def Piece.bytes : Piece → List UInt8
  | .own bytes | .added bytes => bytes

/-- What an output stream leads to, with all that stands there. -/
inductive Outlet where
  /-- A pipe, a terminal, or a file that was opened for adding. -/
  | tail (content : List UInt8)
  /-- A file that was opened for writing, and how far the program has come in it. -/
  | file (content : List UInt8) (offset : Nat)
  deriving DecidableEq, Repr

namespace Outlet

/-- Bytes in place of those at the offset. A gap in front of them is filled with zeros. -/
def overwrite (content : List UInt8) (offset : Nat) (bytes : List UInt8) : List UInt8 :=
  if bytes.isEmpty then content
  else
    content.take offset ++ List.replicate (offset - content.length) 0 ++ bytes ++ content.drop (offset + bytes.length)

def take (o : Outlet) (p : Piece) : Outlet :=
  match o, p with
  | .tail content, p => .tail (content ++ p.bytes)
  | .file content offset, .own bytes => .file (overwrite content offset bytes) (offset + bytes.length)
  | .file content offset, .added bytes => .file (content ++ bytes) offset

def write (o : Outlet) (bytes : List UInt8) : Outlet := o.take (.own bytes)

def after (o : Outlet) (pieces : List Piece) : Outlet := pieces.foldl take o

end Outlet

structure Console where
  quiet : Bool
  colors : Bool

namespace Console

def ofLine (c : Console) (l : LogLine) : String :=
  if l.level = .error then Role.error.paint c.colors l.text else l.text

def ofProgress (c : Console) (e : ProgressEvent) : String :=
  (match e with
    | .start title => Role.context.paint c.colors ("▸ " ++ title)
    | .next detail => Role.context.paint c.colors ("  $ " ++ detail)
    | .finish true => Role.context.paint c.colors "✓ done"
    | .finish false => Role.error.paint c.colors "✗ failed") ++ "\n"

def stderr (c : Console) : Notice → List Piece
  | .progress e => [.own (utf8Bytes (c.ofProgress e))]
  | .line l => if c.quiet then [] else [.own (utf8Bytes (c.ofLine l))]
  | .terminal true bytes => [.own bytes]
  | .added true bytes => [.added bytes]
  | .terminal false _ | .added false _ => []

def stdout : Notice → List Piece
  | .terminal false bytes => [.own bytes]
  | .added false bytes => [.added bytes]
  | _ => []

end Console

end ScriptRunner.Cli
