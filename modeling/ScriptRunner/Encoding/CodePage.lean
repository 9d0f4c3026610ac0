import ScriptRunner.Text.Ascii

namespace ScriptRunner.CodePage

def labels : List (Nat × String) :=
  [(65001, "utf-8"), (936, "gb2312"), (950, "big5"), (932, "shift_jis"), (949, "euc-kr"), (866, "ibm866"),
    (874, "windows-874"), (1250, "windows-1250"), (1251, "windows-1251"), (1252, "windows-1252"),
    (1253, "windows-1253"), (1254, "windows-1254"), (1255, "windows-1255"), (1256, "windows-1256"),
    (1257, "windows-1257"), (1258, "windows-1258"), (20127, "us-ascii")]

def label? (codePage : Nat) : Option String := labels.lookup codePage

def lastDigits (s : List Char) : List Char :=
  ((s.reverse.dropWhile (!·.isDigit)).takeWhile Char.isDigit).reverse

def parse? (answer : String) : Option Nat := Text.decimalBelow? 0x100000000 (lastDigits answer.toList)

end ScriptRunner.CodePage
