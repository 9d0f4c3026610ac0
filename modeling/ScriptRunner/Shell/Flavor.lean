import ScriptRunner.Text.Ascii

namespace ScriptRunner

inductive ShellFlavor where
  | posix | cmd | powershell
  deriving DecidableEq, Repr

namespace ShellFlavor

def name : ShellFlavor → String
  | .posix => "posix"
  | .cmd => "cmd"
  | .powershell => "powershell"

def isSeparator (c : Char) : Bool := c == '/' || c == '\\'

def fileName (path : List Char) : List Char := (path.reverse.takeWhile fun c => !isSeparator c).reverse

def stem (shell : String) : List Char :=
  let file := (fileName shell.toList).map Char.toLower
  if ".exe".toList.isSuffixOf file then file.take (file.length - 4) else file

def of (shell : String) : ShellFlavor :=
  if stem shell = "cmd".toList then .cmd
  else if stem shell = "pwsh".toList ∨ stem shell = "powershell".toList then .powershell
  else .posix

end ShellFlavor

end ScriptRunner
