import ScriptRunner.Encoding.Decoder
import ScriptRunner.Notice

namespace ScriptRunner

/-- The files of a system over its state `σ`, as far as text is added to them. Every answer may be an error. -/
structure Files (σ : Type) where
  Handle : Type
  /-- Opens a file to add to its end, and creates it if it is missing. -/
  openAppend : String → σ → Except String Handle × σ
  /-- Takes some of the bytes from the front, and tells how many. -/
  write : Handle → List UInt8 → σ → Except String Nat × σ
  /-- Brings all that was taken to the file. -/
  flush : Handle → σ → Except String Unit × σ
  /-- Which output stream of the program the file is, if any: standard error or standard output. -/
  stream? : Handle → Option Bool

namespace Files

variable {σ : Type} (files : Files σ)

def takesNothing : String := "write zero"

/-- Offers bytes until all are taken, and tells which were. The first so many are taken already. -/
def writeAll (h : files.Handle) : List UInt8 → Nat → σ → Except String Unit × List UInt8 × σ
  | [], _, s => (.ok (), [], s)
  | byte :: bytes, already + 1, s =>
    let (result, taken, s) := writeAll h bytes already s
    (result, byte :: taken, s)
  | byte :: bytes, 0, s =>
    match files.write h (byte :: bytes) s with
    | (.error cause, s) => (.error cause, [], s)
    | (.ok 0, s) => (.error takesNothing, [], s)
    | (.ok (n + 1), s) =>
      let (result, taken, s) := writeAll h bytes n s
      (result, byte :: taken, s)

/-- Adds a text to a file. What goes to a stream of the program shows there. -/
def append (path text : String) (s : σ) : Except String Unit × List Notice × σ :=
  match files.openAppend path s with
  | (.error cause, s) => (.error cause, [], s)
  | (.ok h, s) =>
    let (result, taken, s) := files.writeAll h (utf8Bytes text) 0 s
    let shown := match files.stream? h with
      | some toStderr => [.added toStderr taken]
      | none => []
    match result with
    | .error cause => (.error cause, shown, s)
    | .ok () =>
      let (result, s) := files.flush h s
      (result, shown, s)

end Files

end ScriptRunner
