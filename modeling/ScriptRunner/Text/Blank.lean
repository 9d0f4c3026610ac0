namespace ScriptRunner.Text

def isBlank (c : Char) : Bool :=
  let n := c.toNat
  (9 ≤ n && n ≤ 13) || n == 0x20 || n == 0x85 || n == 0xA0 || n == 0x1680 ||
    (0x2000 ≤ n && n ≤ 0x200A) || n == 0x2028 || n == 0x2029 || n == 0x202F || n == 0x205F || n == 0x3000

def dropBlanks (s : List Char) : List Char := s.dropWhile isBlank

def dropRightWhile (p : Char → Bool) (s : List Char) : List Char := (s.reverse.dropWhile p).reverse

def trimEnd (s : String) : String := String.ofList (dropRightWhile isBlank s.toList)

def trim (s : String) : String := String.ofList (dropRightWhile isBlank (dropBlanks s.toList))

def blank (s : String) : Bool := s.toList.all isBlank

end ScriptRunner.Text
