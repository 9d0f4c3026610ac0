import ScriptRunner.Encoding.Label
import ScriptRunner.Text.Blank

namespace ScriptRunner.Locale

def beforeModifier (s : List Char) : List Char := s.takeWhile (· != '@')

def afterLastDot (s : List Char) : List Char := (s.reverse.takeWhile (· != '.')).reverse

/-- A known label is kept whole, dots included. Of any other text the part behind the last dot counts. -/
def charset? (answer : String) : Option String :=
  let named := String.ofList (beforeModifier (Text.trim answer).toList)
  let charset :=
    if (Encoding.ofLabel? named).isSome then named else String.ofList (afterLastDot named.toList)
  let charset := Text.trim charset
  if charset.isEmpty then none else some (Text.lowerAscii charset)

end ScriptRunner.Locale
