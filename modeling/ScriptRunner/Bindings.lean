namespace ScriptRunner

/-- Name and text pairs in which no name repeats. -/
structure Bindings where
  entries : List (String × String)
  nodup : (entries.map Prod.fst).Nodup

namespace Bindings

def put (name text : String) : List (String × String) → List (String × String)
  | [] => [(name, text)]
  | (n, t) :: rest => if n = name then (name, text) :: rest else (n, t) :: put name text rest

theorem keys_put (name text : String) (l : List (String × String)) :
    (put name text l).map Prod.fst =
      if name ∈ l.map Prod.fst then l.map Prod.fst else l.map Prod.fst ++ [name] := by
  induction l with
  | nil => rfl
  | cons p l ih =>
    obtain ⟨n, t⟩ := p
    by_cases h : n = name
    · simp [put, h]
    · have h' : ¬ name = n := fun e => h e.symm
      simp only [put, h, if_false, List.map_cons, ih, List.mem_cons, h', false_or]
      split <;> simp

theorem nodup_put (name text : String) {l : List (String × String)} (h : (l.map Prod.fst).Nodup) :
    ((put name text l).map Prod.fst).Nodup := by
  rw [keys_put]
  split
  · exact h
  · next hn =>
    rw [List.nodup_append]
    refine ⟨h, by simp, ?_⟩
    intro a ha b hb
    simp only [List.mem_singleton] at hb
    subst hb
    intro e
    exact hn (e ▸ ha)

def empty : Bindings := ⟨[], by simp⟩

def insert (b : Bindings) (name text : String) : Bindings :=
  ⟨put name text b.entries, nodup_put name text b.nodup⟩

def insertAll (b : Bindings) (pairs : List (String × String)) : Bindings :=
  pairs.foldl (fun b p => b.insert p.1 p.2) b

def ofPairs (pairs : List (String × String)) : Bindings := empty.insertAll pairs

def get? (b : Bindings) (name : String) : Option String := b.entries.lookup name

instance : Inhabited Bindings := ⟨empty⟩

theorem ext_entries {a b : Bindings} (h : a.entries = b.entries) : a = b := by
  cases a; cases b; cases h; rfl

theorem insertAll_append (b : Bindings) (p q : List (String × String)) :
    b.insertAll (p ++ q) = (b.insertAll p).insertAll q := List.foldl_append

end Bindings

end ScriptRunner
