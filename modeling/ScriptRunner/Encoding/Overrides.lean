import ScriptRunner.Bindings
import ScriptRunner.Text.Ascii

namespace ScriptRunner

/-- Package names and labels. The earliest package that a command mentions decides. -/
abbrev Overrides := Bindings

namespace Overrides

def builtIn : Overrides := Bindings.ofPairs [("@azure/static-web-apps-cli", "utf8")]

def mentions (command package : String) : Bool :=
  !package.isEmpty && Text.occurs package.toList command.toList

def lookup (t : Overrides) (command : String) : Option String :=
  (t.entries.find? fun p => mentions command p.1).map Prod.snd

end Overrides

end ScriptRunner
