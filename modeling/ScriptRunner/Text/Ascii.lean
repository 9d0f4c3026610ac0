namespace ScriptRunner.Text

def lowerAscii (s : String) : String := s.map Char.toLower

def isAsciiBlank (c : Char) : Bool := c == ' ' || c == '\t' || c == '\n' || c == '\r' || c == '\x0c'

def digitValue (c : Char) : Nat := c.toNat - '0'.toNat

def decimal (s : List Char) : Nat := s.foldl (fun n c => 10 * n + digitValue c) 0

def decimalBelow? (bound : Nat) (s : List Char) : Option Nat :=
  if s ≠ [] ∧ s.all Char.isDigit ∧ decimal s < bound then some (decimal s) else none

def signedDecimalBelow? (bound : Nat) : List Char → Option Nat
  | '+' :: s => decimalBelow? bound s
  | s => decimalBelow? bound s

def wordBound : Nat := 0x10000000000000000

def occurs (needle : List Char) : List Char → Bool
  | [] => needle.isEmpty
  | c :: s => needle.isPrefixOf (c :: s) || occurs needle s

end ScriptRunner.Text
