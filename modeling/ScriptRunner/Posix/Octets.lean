import ScriptRunner.Encoding.Decoder

namespace ScriptRunner.Posix

/-- A byte string. Every character is below 256. -/
abbrev Octets := String

namespace Octets

def ofBytes (bytes : List UInt8) : Octets := String.ofList (bytes.map fun b => Char.ofNat b.toNat)

def toBytes (s : Octets) : List UInt8 := s.toList.map fun c => UInt8.ofNat c.toNat

def ofText (text : String) : Octets := ofBytes (utf8Bytes text)

def toText (s : Octets) : String := utf8Lossy (toBytes s)

def take (s : Octets) (n : Nat) : Octets := String.ofList (s.toList.take n)

def drop (s : Octets) (n : Nat) : Octets := String.ofList (s.toList.drop n)

def hasNul (s : Octets) : Bool := s.toList.any (· == '\x00')

def splitAt? (s : Octets) (c : Char) : Option (Octets × Octets) :=
  match s.toList.dropWhile (· != c) with
  | [] => none
  | _ :: rest => some (String.ofList (s.toList.takeWhile (· != c)), String.ofList rest)

def splitOn (s : Octets) (c : Char) : List Octets := (s.toList.splitOn c).map String.ofList

def digitsBelow (base : Nat) (digits : List Char) : Option Nat :=
  if digits.isEmpty then none
  else digits.foldl (fun acc c => acc.bind fun n =>
    let d := if c.isDigit then c.toNat - '0'.toNat
      else if 'a' ≤ c && c ≤ 'z' then c.toNat - 'a'.toNat + 10
      else if 'A' ≤ c && c ≤ 'Z' then c.toNat - 'A'.toNat + 10 else base
    if d < base then some (n * base + d) else none) (some 0)

def nat? (s : Octets) : Option Nat := digitsBelow 10 s.toList

end Octets

end ScriptRunner.Posix
