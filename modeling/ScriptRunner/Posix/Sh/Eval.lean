import ScriptRunner.Posix.Sh.Builtin

namespace ScriptRunner.Posix.Sh

open Run

namespace Interpreter

abbrev Saved := Nat × Option Nat

def restore : List Saved → Run Unit
  | [] => return
  | (handle, slot) :: more => do
    match slot with
    | some slot =>
      discard (call (.duplicate slot handle))
      call (.close slot)
    | none => call (.close handle)
    restore more

def openFailure (mode : OpenMode) (path : Octets) (e : Errno) : Octets :=
  let reason := match e with
    | .noEntry | .notDirectory => if mode = .read then "No such file" else "Directory nonexistent"
    | e => e.text
  (if mode = .read then "cannot open " else "cannot create ") ++ path ++ ": " ++ reason

def redirect (r : Interpreter) : Redirect → Run (Option Octets)
  | .mk handle kind target => do
    let toFile := fun (mode : OpenMode) => do
      let path ← wordText r target
      match ← call (.openPath handle path mode) with
      | .ok () => return none
      | .error e => return some (openFailure mode path e)
    match kind with
    | .read => toFile .read
    | .write =>
      let protected_ ← if (← get).options.contains 'C' then do
          let path ← wordText r target
          match ← call (.inspect path) with
          | .ok i => pure (if i.isFile then some ("cannot create " ++ path ++ ": File exists") else none)
          | .error _ => pure none
        else pure none
      match protected_ with
      | some message => return some message
      | none => toFile .truncate
    | .overwrite => toFile .truncate
    | .append => toFile .append
    | .update => toFile .update
    | .duplicate =>
      let t ← wordText r target
      if t == "-" then
        call (.close handle)
        return none
      match t.nat? with
      | none => die "Syntax error: Bad fd number"
      | some n =>
        match ← call (.duplicate n handle) with
        | .ok () => return none
        | .error e => return some (t ++ ": " ++ e.text)
    | .here number =>
      let text ← wordText r (((← get).bodies.lookup number).getD [])
      let (reader, writer) ← call .pipe
      discard (act (Act.print writer text))
      discard (call (.duplicate reader handle))
      call (.close reader)
      call (.close writer)
      return none

def handleOf : Redirect → Nat
  | .mk handle _ _ => handle

def redirectAll (r : Interpreter) (keep : Bool) : List Redirect → List Saved → Run (Except (Octets × List Saved) (List Saved))
  | [], saved => return .ok saved
  | d :: ds, saved => do
    let slot ← if keep then call (.save (handleOf d)) else pure (.error .badHandle)
    let saved := if keep then (handleOf d, slot.toOption) :: saved else saved
    match ← redirect r d with
    | none => redirectAll r keep ds saved
    | some message => return .error (message, saved)

def redirected (r : Interpreter) (ds : List Redirect) (m : Run Flow) : Run Flow := do
  if ds.isEmpty then m
  else
    match ← redirectAll r true ds [] with
    | .ok saved =>
      let flow ← m
      restore saved
      return flow
    | .error (message, saved) =>
      restore saved
      complain message
      finish 2

inductive Located where
  | found (path : Octets)
  | missing
  | denied

def isProgram (path : Octets) : Run Located := do
  match ← call (.inspect path) with
  | .ok i => return if i.isFile && i.executable then .found path else .denied
  | .error _ => return .missing

def searchPaths : List Octets → Bool → Run Located
  | [], denied => return if denied then .denied else .missing
  | p :: ps, denied => do
    match ← isProgram p with
    | .found path => return .found path
    | .denied => searchPaths ps true
    | .missing => searchPaths ps denied

def locate (name : Octets) : Run Located := do
  if name == "" then return .denied
  else if name.toList.contains '/' then isProgram name
  else
    let s ← get
    searchPaths (FileTree.candidates ((s.value? "PATH").getD FileTree.defaultSearchPath) name) false

def becomeProgram {α : Type} (r : Interpreter) (path : Octets) (args : List Octets) : Run α := do
  let s ← get
  let start := fun program argv => do
    call (.become path)
    Run.act (Act.become (r.start program argv s.environment))
  match ← call (.load path args) with
  | .ok image => start image.program image.argv
  | .error .notExecutable => start "sh" ("sh" :: path :: args.drop 1)
  | .error .denied =>
    complain (args.headD "" ++ ": Permission denied")
    Run.exit 126
  | .error _ =>
    complain (args.headD "" ++ ": not found")
    Run.exit 127

def program (r : Interpreter) (last : Bool) (name : Octets) (args : List Octets) : Run Flow := do
  match ← locate name with
  | .missing =>
    complain (name ++ ": not found")
    finish 127
  | .denied =>
    complain (name ++ ": Permission denied")
    finish (if name == "" then 127 else 126)
  | .found path =>
    if last && (← get).traps.isEmpty then becomeProgram r path (name :: args)
    else
      let child ← fork do
        enterChild
        becomeProgram r path (name :: args)
      finish (← Run.await child false)

def replace (r : Interpreter) (args : List Octets) : Run Flow := do
  match args with
  | [] => finish 0
  | name :: rest =>
    match ← locate name with
    | .missing =>
      complain (name ++ ": not found")
      leave r 127
    | .denied =>
      complain (name ++ ": Permission denied")
      leave r 126
    | .found path => becomeProgram r path (name :: rest)

def withVariables (assigns : List (Octets × Octets)) (m : Run Flow) : Run Flow := do
  if assigns.isEmpty then m
  else
    let before ← get
    for (name, value) in assigns do
      modify fun s => s.setVariable name ⟨some value, true, false⟩
    let flow ← m
    for (name, _) in assigns do
      modify fun s => match before.lookup name with
        | some v => s.setVariable name v
        | none => s.dropVariable name
    return flow

def callFunction (r : Interpreter) (body : Command) (args : List Octets) : Run Flow := do
  let before ← get
  modify fun s => { s with args := args, hidden := [] :: s.hidden, loops := 0 }
  let flow ← r.command false body
  for (name, v) in ((← get).hidden.headD []) do
    modify fun s => match v with
      | some v => s.setVariable name v
      | none => s.dropVariable name
  modify fun s => { s with args := before.args, hidden := s.hidden.drop 1, loops := before.loops }
  return if flow = .back then .next else flow

def describe (name : Octets) (long : Bool) : Run Flow := do
  let s ← get
  if (s.functions.lookup name).isSome then printed "command" (name ++ (if long then " is a shell function" else "") ++ "\n")
  else if isBuiltin name then
    let kind := if specials.contains name then " is a special shell builtin" else " is a shell builtin"
    printed "command" (name ++ (if long then kind else "") ++ "\n")
  else
    match ← locate name with
    | .found path => printed "command" ((if long then name ++ " is " else "") ++ path ++ "\n")
    | _ =>
      if long then discard (print (name ++ ": not found\n"))
      finish 127

def describeAll : List Octets → Nat → Run Flow
  | [], status => finish status
  | name :: more, status => do
    discard (describe name true)
    describeAll more (max status (← get).status)

def sheltered (m : Run Flow) : Run Flow := do
  let before ← get
  rescue m do
    modify fun s =>
      { s with
        speaker := before.speaker, args := before.args, hidden := before.hidden, loops := before.loops,
        tested := before.tested }
    gaveUp

def dispatch (r : Interpreter) (last : Bool) (name : Octets) (args : List Octets) : Run Flow := do
  if name == "exec" then speaking name (replace r args)
  else if specials.contains name then speaking name (builtin r name args)
  else
    match (← get).functions.lookup name with
    | some body => callFunction r body args
    | none =>
      if name == "command" then
        match args with
        | "-v" :: n :: _ => speaking name (describe n false)
        | "-V" :: n :: _ => speaking name (describe n true)
        | [] => finish 0
        | n :: rest =>
          if n == "exec" then speaking n (replace r rest)
          else if isBuiltin n then sheltered (speaking n (builtin r n rest))
          else program r last n rest
      else if name == "type" then speaking name (describeAll args 0)
      else if isBuiltin name then sheltered (speaking name (builtin r name args))
      else program r last name args

def assignedValues (r : Interpreter) : List (Octets × Word) → Run (List (Octets × Octets))
  | [] => return []
  | (name, w) :: more => do
    let value ← wordText r w
    if ((← get).lookup name).any Variable.readOnly then die (name ++ ": is read only")
    return (name, value) :: (← assignedValues r more)

def assignAll (r : Interpreter) : List (Octets × Word) → Run (List (Octets × Octets))
  | [] => return []
  | (name, w) :: more => do
    let value ← wordText r w
    assign name value
    return (name, value) :: (← assignAll r more)

def trace (assigns : List (Octets × Octets)) (args : List Octets) : Run Unit := do
  if (← get).options.contains 'x' then
    let shown := (assigns.map fun a => a.1 ++ "=" ++ a.2) ++ args
    discard (act (Act.print 2 ("+ " ++ " ".intercalate shown ++ "\n")))

def simple (r : Interpreter) (last : Bool) (assigns : List (Octets × Word)) (ws : List Word)
    (ds : List Redirect) : Run Flow := do
  modify ({ · with substituted := 0 })
  match ← words r ws with
  | [] =>
    match ← redirectAll r true ds [] with
    | .error (message, saved) =>
      restore saved
      complain message
      finish 2
    | .ok saved =>
      restore saved
      let values ← assignAll r assigns
      if !values.isEmpty then trace values []
      finish (← get).substituted
  | name :: args =>
    let special := specials.contains name
    if name == "exec" && args.isEmpty then
      match ← redirectAll r false ds [] with
      | .ok _ =>
        trace (← assignAll r assigns) ["exec"]
        finish 0
      | .error (message, _) => die message
    else if special then
      match ← redirectAll r true ds [] with
      | .error (message, _) => die message
      | .ok saved =>
        trace (← assignAll r assigns) (name :: args)
        let flow ← dispatch r last name args
        restore saved
        return flow
    else
      if assigns.isEmpty then trace [] (name :: args)
      redirected r ds do
        let values ← assignedValues r assigns
        if !assigns.isEmpty then trace values (name :: args)
        withVariables values (dispatch r (last && ds.isEmpty) name args)

def asked (m : Run Flow) : Run Flow := do
  let before := (← get).tested
  modify ({ · with tested := true })
  let flow ← m
  modify ({ · with tested := before })
  return flow

def checked (r : Interpreter) (m : Run Flow) : Run Flow := do
  let flow ← m
  let s ← get
  if s.status != 0 && s.options.contains 'e' && !s.tested then leave r s.status
  return flow

/-- What a loop does after its body: it goes round again, or hands on control. -/
def afterBody (flow : Flow) : Option Flow :=
  match flow with
  | .next | .again 1 => none
  | .leave 1 => some .next
  | .leave n => some (.leave (n - 1))
  | .again n => some (.again (n - 1))
  | .back => some .back

def choose (r : Interpreter) (last : Bool) (otherwise : List Item) : List (List Item × List Item) → Run Flow
  | [] => if otherwise.isEmpty then finish 0 else items r last otherwise
  | (condition, then_) :: more => do
    let flow ← asked (items r false condition)
    if flow ≠ .next then return flow
    if (← get).status == 0 then items r last then_ else choose r last otherwise more

def rounds : Nat := 100000000

def inLoop (m : Run Flow) : Run Flow := do
  modify fun s => { s with loops := s.loops + 1 }
  let flow ← m
  modify fun s => { s with loops := s.loops - 1 }
  return flow

def loop (r : Interpreter) (ends : Bool) (condition body : List Item) : Nat → Nat → Run Flow
  | 0, _ => return .next
  | n + 1, status => do
    call .tick
    let flow ← asked (items r false condition)
    let flow ←
      if flow ≠ .next then pure (afterBody flow)
      else if ((← get).status == 0) == ends then do
        setStatus status
        pure (some .next)
      else afterBody <$> items r false body
    match flow with
    | some flow => return flow
    | none => loop r ends condition body n (← get).status

def each (r : Interpreter) (name : Octets) (body : List Item) : List Octets → Run Flow
  | [] => return .next
  | value :: more => do
    assign name value
    let flow ← items r false body
    match afterBody flow with
    | some flow => return flow
    | none => each r name body more

def coveredBy (r : Interpreter) (text : Octets) : List Word → Run Bool
  | [] => return false
  | p :: ps => do
    let g := Glob.parse (Mark.flat (← r.word p))
    if Glob.covers g text.toList then return true else coveredBy r text ps

def select (r : Interpreter) (last : Bool) (text : Octets) : List (List Word × List Item) → Run Flow
  | [] => finish 0
  | (patterns, is) :: more => do
    if ← coveredBy r text patterns then if is.isEmpty then finish 0 else items r last is
    else select r last text more

/-- Starts the commands of a pipeline, each reading what the one before it writes. The handle is what the next one
reads from. -/
def pipeline (r : Interpreter) : Option Nat → List Command → List Nat → Run (List Nat)
  | _, [], children => return children
  | input, c :: more, children => do
    let output ← if more.isEmpty then pure none else some <$> call .pipe
    let child ← fork do
      if let some h := input then
        discard (call (.duplicate h 0))
        call (.close h)
      if let some (reader, writer) := output then
        call (.close reader)
        discard (call (.duplicate writer 1))
        call (.close writer)
      inChild r (r.command true c)
    if let some h := input then call (.close h)
    if let some (_, writer) := output then call (.close writer)
    pipeline r (output.map Prod.fst) more (child :: children)

def awaitAll : List Nat → Run Nat
  | [] => return 0
  | last :: others => do
    for child in others.reverse do discard (Run.await child false)
    Run.await last false

def carryOut (r : Interpreter) (last : Bool) (c : Command) : Run Flow := do
  if (← get).options.contains 'n' then return .next
  match c with
  | .simple line assigns ws ds =>
    call .tick
    modify ({ · with line := line })
    signals r
    let flow ← checked r (simple r last assigns ws ds)
    signals r
    return flow
  | .subshell body ds =>
    checked r do
      let child : Run Nat := inChild r (redirected r ds (items r true body))
      if last && (← get).traps.isEmpty then
        Run.exit (← child)
      else
        finish (← Run.await (← fork child) false)
  | .group body ds => redirected r ds (items r (last && ds.isEmpty) body)
  | .choose branches otherwise ds => redirected r ds (choose r (last && ds.isEmpty) otherwise branches)
  | .loop ends condition body ds => redirected r ds (inLoop (loop r ends condition body rounds 0))
  | .each line name ws body ds =>
    modify ({ · with line := line })
    redirected r ds do
      let values ← match ws with
        | some ws => words r ws
        | none => pure (← get).args
      if values.isEmpty then finish 0 else inLoop (each r name body values)
  | .select line w arms ds =>
    modify ({ · with line := line })
    redirected r ds do
      let text ← wordText r w
      select r (last && ds.isEmpty) text arms
  | .define name body =>
    modify fun s => { s with functions := (name, body) :: s.functions.filter (·.1 != name) }
    finish 0
  | .pipeline negated commands =>
    match negated, commands with
    | true, [c] =>
      let flow ← asked (r.command false c)
      if flow = .next then setStatus (if (← get).status == 0 then 1 else 0)
      return flow
    | _, _ =>
      checked r do
        let status ← awaitAll (← pipeline r none commands [])
        finish (if negated then (if status == 0 then 1 else 0) else status)
  | .both a b =>
    let flow ← asked (r.command false a)
    if flow ≠ .next || (← get).status != 0 then return flow
    r.command last b
  | .either a b =>
    let flow ← asked (r.command false a)
    if flow ≠ .next || (← get).status == 0 then return flow
    r.command last b

end Interpreter

abbrev Starter := String → List Octets → List Octets → Task

mutual

def evaluate (start : Starter) : Nat → Bool → Command → Run Flow
  | 0, _, _ => Run.exit 2
  | n + 1, last, c => Interpreter.carryOut ⟨evaluate start n, expand start n, start⟩ last c

def expand (start : Starter) : Nat → Word → Run (List Mark)
  | 0, _ => Run.exit 2
  | n + 1, w => Interpreter.wordMarks ⟨evaluate start n, expand start n, start⟩ w

end

def fuel : Nat := 100000000

def interpreter (start : Starter) : Interpreter := ⟨evaluate start fuel, expand start fuel, start⟩

inductive Purpose where
  | command (text : Octets) (name : Octets) (args : List Octets)
  | file (path : Octets) (args : List Octets)
  | input (args : List Octets)

def purpose (name : Octets) : List Octets → List Char → Purpose × List Char
  | [], options => (.input [], options)
  | a :: more, options =>
    match a.toList with
    | '-' :: cs =>
      if cs.contains 'c' then
        let options := options ++ cs.filter (· != 'c')
        match more with
        | text :: name :: args => (.command text name args, options)
        | [text] => (.command text name [], options)
        | [] => (.input [], options)
      else if cs.contains 's' then (.input more, options ++ cs.filter (· != 's'))
      else if a == "--" then
        match more with
        | path :: args => (.file path args, options)
        | [] => (.input [], options)
      else purpose name more (options ++ cs)
    | _ => (.file a more, options)

def run (start : Starter) (argv environment : List Octets) : Task :=
  let called := argv.headD "sh"
  let (what, options) := purpose called (argv.drop 1) []
  let r := interpreter start
  let (name, args) := match what with
    | .command _ name args => (name, args)
    | .file path args => (path, args)
    | .input args => (called, args)
  let main : Run Nat := do
    let text ← match what with
      | .command text _ _ => pure text
      | .input _ => Interpreter.capture.collect 0 "" 1000000
      | .file path _ =>
        match ← Run.call (.openPath 9 path .read) with
        | .ok () =>
          let text ← Interpreter.capture.collect 9 "" 1000000
          Run.call (.close 9)
          pure text
        | .error e =>
          discard (Run.act (Act.print 2 (called ++ ": 0: " ++ Interpreter.openFailure .read path e ++ "\n")))
          Run.exit 2
    let here ← Run.call .place
    Run.modify fun s => { s.setVariable "PWD" ⟨some here, true, false⟩ with options := options }
    discard (Run.rescue (Interpreter.script r text) (Interpreter.leave r 2))
    Interpreter.signals r
    Interpreter.leave r (← Run.get).status
  .call .identity fun (number, parent) =>
    main (.start name args environment number parent) (fun _ => .exit 2) fun status _ => .exit status

end ScriptRunner.Posix.Sh
