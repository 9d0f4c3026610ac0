namespace ScriptRunner.Toml

inductive Value where
  | string (s : String)
  | integer (n : Int)
  | float (text : String)
  | boolean (b : Bool)
  | datetime (text : String)
  | array (items : List Value)
  | table (entries : List (String × Value))

instance : Inhabited Value := ⟨.boolean false⟩

/-- How a table came to be. Dotted keys may go on only in tables that dotted keys began, and a header may open
only a table that no other line defined. -/
inductive Origin where
  | implied
  | dotted
  | header
  deriving DecidableEq, Repr

inductive Node where
  | leaf (v : Value)
  | table (origin : Origin) (entries : List (String × Node))
  | tables (items : List (List (String × Node)))

instance : Inhabited Node := ⟨.leaf default⟩

abbrev Entries := List (String × Node)

namespace Entries

def get? (es : Entries) (key : String) : Option Node := es.lookup key

def set (key : String) (n : Node) : Entries → Entries
  | [] => [(key, n)]
  | (k, m) :: es => if k = key then (key, n) :: es else (k, m) :: set key n es

def remove (key : String) (es : Entries) : Entries := es.filter (·.1 != key)

def mapLast? {α β : Type} (f : α → Option (α × β)) : List α → Option (List α × β)
  | [] => none
  | [a] => (f a).map fun (a, b) => ([a], b)
  | a :: as => (mapLast? f as).map fun (as, b) => (a :: as, b)

def addDotted (direct : Bool) : List String → String → Value → Entries → Option Entries
  | [], key, v, es => if !direct || (es.get? key).isSome then none else some (es ++ [(key, .leaf v)])
  | p :: ps, key, v, es =>
    match es.get? p with
    | none => (addDotted true ps key v []).map fun sub => es ++ [(p, .table .dotted sub)]
    | some (.table .dotted sub) => (addDotted true ps key v sub).map fun sub => es.set p (.table .dotted sub)
    | some (.table .implied sub) => (addDotted false ps key v sub).map fun sub => es.set p (.table .implied sub)
    | some (.table .header _) => none
    | some (.tables items) =>
      (mapLast? (fun sub => (addDotted false ps key v sub).map fun sub => (sub, ())) items).map fun (items, _) =>
        es.set p (.tables items)
    | some (.leaf _) => none

/-- Changes the table at a path of headers. Missing tables are implied; of repeated ones the last is meant. -/
def within? {β : Type} (f : Entries → Option (Entries × β)) : List String → Entries → Option (Entries × β)
  | [], es => f es
  | p :: ps, es =>
    match es.get? p with
    | none => (within? f ps []).map fun (sub, b) => (es ++ [(p, .table .implied sub)], b)
    | some (.table origin sub) => (within? f ps sub).map fun (sub, b) => (es.set p (.table origin sub), b)
    | some (.tables items) => (mapLast? (within? f ps) items).map fun (items, b) => (es.set p (.tables items), b)
    | some (.leaf _) => none

end Entries

mutual

def Node.value : Node → Value
  | .leaf v => v
  | .table _ es => .table (entriesValue es)
  | .tables items => .array (itemsValue items)

def entriesValue : List (String × Node) → List (String × Value)
  | [] => []
  | (k, n) :: es => (k, n.value) :: entriesValue es

def itemsValue : List (List (String × Node)) → List Value
  | [] => []
  | es :: items => .table (entriesValue es) :: itemsValue items

end

end ScriptRunner.Toml
