namespace ScriptRunner.Path

def isAbsolute (path : String) : Bool := "/".toList.isPrefixOf path.toList

def join (root path : String) : String :=
  if isAbsolute path then path
  else if root.isEmpty || "/".toList.isSuffixOf root.toList then root ++ path
  else root ++ "/" ++ path

def resolve (project : Option String) (path : String) : String :=
  match project with
  | some root => join root path
  | none => path

def names (path : String) : List String := ((path.toList.splitOn '/').map String.ofList).filter (· != "")

/-- The parts by which paths are compared: repeated slashes count as one, and a dot only at the very start. -/
def components (path : String) : List String :=
  let ns := names path
  if isAbsolute path then "/" :: ns.filter (· != ".")
  else
    match ns with
    | [] => []
    | n :: ns => n :: ns.filter (· != ".")

def same (a b : String) : Bool := components a == components b

end ScriptRunner.Path
