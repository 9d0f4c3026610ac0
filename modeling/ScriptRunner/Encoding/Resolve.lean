import ScriptRunner.Encoding.CodePage
import ScriptRunner.Encoding.Locale
import ScriptRunner.Encoding.Overrides
import ScriptRunner.Host

namespace ScriptRunner.Encoding

def fallbackLabel : String := "utf-8"

def ofAnswer? (read : String → Option String) : Except QueryError String → Option String
  | .ok answer => read answer
  | .error _ => none

/-- An override that the command mentions decides, then the platform's query. A query that fails, or that is not
understood, leaves the fallback. -/
def resolve (platform : Platform) (overrides : Overrides) (command : String) : Inquiry String :=
  match overrides.lookup command with
  | some label => .done label
  | none =>
    match platform with
    | .windows =>
      .query "cmd" ["/d", "/c", "chcp"] fun r =>
        .done ((ofAnswer? (fun a => CodePage.parse? a >>= CodePage.label?) r).getD fallbackLabel)
    | .linux | .macos =>
      .query "locale" ["charmap"] fun r => .done ((ofAnswer? Locale.charset? r).getD fallbackLabel)
    | .other => .done fallbackLabel

end ScriptRunner.Encoding
