import ScriptRunner.Cli.Program

open ScriptRunner ScriptRunner.Posix ScriptRunner.Cli

def inheritedVariables : List String :=
  ["PATH", "HOME", "SHELL", "LC_ALL", "LC_CTYPE", "LANG", "NO_COLOR", "COLOR", timeoutVariable]

def namedFiles (words : List String) : List String :=
  match CommandLine.parse words with
  | .error _ => []
  | .ok c =>
    c.config.toList ++ match c.command with
      | .parse file => file.toList
      | .run a => a.redirectTo.toList
      | .host _ => []

def readsInput (words : List String) : Bool :=
  match CommandLine.parse words with
  | .ok ⟨_, _, .parse none⟩ => true
  | .ok ⟨_, _, .run a⟩ => a.interactive
  | _ => false

def main (words : List String) : IO UInt32 := do
  let mut m := Machine.start [] "/root"
  for name in inheritedVariables do
    m := m.setVariable name (← IO.getEnv name)
  for path in namedFiles words do
    try
      m := m.addFile path (← IO.FS.readBinFile path).toList false
    catch _ => pure ()
  if readsInput words then
    m := { m with input := .ofBytes (← (← IO.getStdin).readBinToEnd).toList }
  let (finished, after) := Cli.run Decoder "unknown" words m
  for path in namedFiles words do
    match after.readText path with
    | .ok text => if (m.readText path).toOption != some text then IO.FS.writeFile path text
    | .error _ => pure ()
  (← IO.getStdout).write ⟨(finished.stdout.flatMap Piece.bytes).toArray⟩
  (← IO.getStderr).write ⟨(finished.stderr.flatMap Piece.bytes).toArray⟩
  return finished.code.toUInt32
