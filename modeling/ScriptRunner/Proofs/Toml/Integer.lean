import ScriptRunner.Toml.Document

namespace ScriptRunner.Toml

def Value.Fits (v : Value) : Prop := ∀ n, v = .integer n → -0x8000000000000000 ≤ n ∧ n < 0x8000000000000000

theorem fits_of_checked {n : Int} {v : Value} (read : checked n = some v) : v.Fits := by
  unfold checked at read
  split at read
  · next range =>
    cases read
    rintro _ ⟨⟩
    omega
  · cases read

theorem fits_of_integer? {s : List Char} {v : Value} (read : integer? s = some v) : v.Fits := by
  unfold integer? at read
  split at read <;>
    · obtain ⟨digits, -, found⟩ := Option.bind_eq_some_iff.1 read
      exact fits_of_checked found

theorem fits_of_boolean? {s : List Char} {v : Value} (read : boolean? s = some v) : v.Fits := by
  unfold boolean? at read
  split at read
  · cases read
    nofun
  split at read
  · cases read
    nofun
  · cases read

theorem fits_of_datetime? {s : List Char} {v : Value} (read : datetime? s = some v) : v.Fits := by
  unfold datetime? at read
  split at read
  · cases read
    nofun
  · split at read
    · simp only [Option.bind_eq_bind, Option.bind_eq_some_iff, Option.pure_def, Option.some.injEq] at read
      obtain ⟨_, -, _, -, rfl⟩ := read
      nofun
    · cases read
  · split at read
    · cases read
      nofun
    · cases read

theorem fits_of_float? {s : List Char} {v : Value} (read : float? s = some v) : v.Fits := by
  unfold float? at read
  dsimp only at read
  split at read
  · cases read
    nofun
  split at read
  · cases read
    nofun
  split at read
  · cases read
  · simp only [Option.bind_eq_bind, Option.bind_eq_some_iff] at read
    obtain ⟨_, -, read⟩ := read
    split at read <;>
      · obtain ⟨_, -, shown⟩ := Option.bind_eq_some_iff.1 read
        obtain ⟨_, -, shown⟩ := Option.bind_eq_some_iff.1 shown
        split at shown
        · cases shown
        · cases shown
          nofun

theorem fits_of_scalar? {s : List Char} {v : Value} (read : scalar? s = some v) : v.Fits := by
  simp only [scalar?, Option.orElse_eq_orElse, Option.orElse_eq_or, Option.or_eq_some_iff] at read
  obtain boolean | ⟨-, datetime | ⟨-, float | ⟨-, integer⟩⟩⟩ := read
  · exact fits_of_boolean? boolean
  · exact fits_of_datetime? datetime
  · exact fits_of_float? float
  · exact fits_of_integer? integer

theorem fits_of_valueWithin {depth fuel : Nat} {s rest : List Char} {v : Value}
    (read : valueWithin depth fuel s = some (v, rest)) : v.Fits := by
  cases fuel with
  | zero => cases read
  | succ fuel =>
    unfold valueWithin at read
    split at read
    · obtain ⟨_, -, pair⟩ := Option.map_eq_some_iff.1 read
      cases pair
      nofun
    · obtain ⟨_, -, pair⟩ := Option.map_eq_some_iff.1 read
      cases pair
      nofun
    · split at read
      · cases read
      · obtain ⟨_, -, pair⟩ := Option.map_eq_some_iff.1 read
        cases pair
        nofun
    · split at read
      · cases read
      · split at read
        · cases read
          nofun
        · obtain ⟨_, -, pair⟩ := Option.map_eq_some_iff.1 read
          cases pair
          nofun
    · obtain ⟨_, scalar, pair⟩ := Option.map_eq_some_iff.1 read
      cases pair
      exact fits_of_scalar? scalar

def Entries.Fits (es : Entries) : Prop := ∀ key v, (key, .leaf v) ∈ es → v.Fits

def Node.Holds : Node → Prop
  | .leaf _ => False
  | .table _ _ | .tables _ => True

namespace Entries

variable {es es' : Entries} {key : String} {n : Node}

theorem fits_nil : Fits [] := nofun

theorem Fits.append_leaf {v : Value} (h : Fits es) (fits : v.Fits) (key : String) : Fits (es ++ [(key, .leaf v)]) := by
  intro k w member
  rcases List.mem_append.1 member with old | new
  · exact h k w old
  · cases List.mem_singleton.1 new
    exact fits

theorem Fits.append_table (h : Fits es) (key : String) (holds : n.Holds) : Fits (es ++ [(key, n)]) := by
  intro k w member
  rcases List.mem_append.1 member with old | new
  · exact h k w old
  · cases List.mem_singleton.1 new
    exact holds.elim

theorem Fits.set (h : Fits es) (key : String) (holds : n.Holds) : Fits (es.set key n) := by
  intro k w
  induction es with
  | nil =>
    intro member
    cases List.mem_singleton.1 member
    exact holds.elim
  | cons e es ih =>
    obtain ⟨first, m⟩ := e
    have later : Fits es := fun k w member => h k w (List.mem_cons_of_mem _ member)
    rw [Entries.set]
    split
    · intro member
      rcases List.mem_cons.1 member with new | old
      · cases new
        exact holds.elim
      · exact later k w old
    · intro member
      rcases List.mem_cons.1 member with same | inside
      · exact h k w (by rw [same]; exact List.mem_cons_self)
      · exact ih later inside

theorem Fits.remove (h : Fits es) (key : String) : Fits (es.remove key) :=
  fun k v member => h k v ((List.mem_filter.1 member).1)

theorem Fits.addDotted {direct : Bool} {path : List String} {v : Value} (h : Fits es) (fits : v.Fits)
    (added : addDotted direct path key v es = some es') : Fits es' := by
  cases path with
  | nil =>
    rw [Entries.addDotted] at added
    split at added
    · cases added
    · cases added
      exact h.append_leaf fits key
  | cons p path =>
    rw [Entries.addDotted] at added
    split at added
    · obtain ⟨sub, -, rfl⟩ := Option.map_eq_some_iff.1 added
      exact h.append_table p trivial
    · obtain ⟨sub, -, rfl⟩ := Option.map_eq_some_iff.1 added
      exact h.set p trivial
    · obtain ⟨sub, -, rfl⟩ := Option.map_eq_some_iff.1 added
      exact h.set p trivial
    · cases added
    · obtain ⟨items, -, rfl⟩ := Option.map_eq_some_iff.1 added
      exact h.set p trivial
    · cases added

theorem Fits.within? {β : Type} {f : Entries → Option (Entries × β)} {path : List String} {b : β} (h : Fits es)
    (kept : ∀ es es' b, Fits es → f es = some (es', b) → Fits es') (changed : within? f path es = some (es', b)) :
    Fits es' := by
  cases path with
  | nil => exact kept _ _ _ h changed
  | cons p path =>
    rw [Entries.within?.eq_def] at changed
    dsimp only at changed
    split at changed
    · obtain ⟨_, -, pair⟩ := Option.map_eq_some_iff.1 changed
      cases pair
      exact h.append_table p trivial
    · obtain ⟨_, -, pair⟩ := Option.map_eq_some_iff.1 changed
      cases pair
      exact h.set p trivial
    · obtain ⟨_, -, pair⟩ := Option.map_eq_some_iff.1 changed
      cases pair
      exact h.set p trivial
    · cases changed

end Entries

theorem exists_leaf_of_mem {es : Entries} {key : String} {n : Int} (member : (key, .integer n) ∈ entriesValue es) :
    (key, .leaf (.integer n)) ∈ es := by
  induction es with
  | nil => cases member
  | cons e es ih =>
    obtain ⟨first, node⟩ := e
    rw [entriesValue] at member
    rcases List.mem_cons.1 member with here | later
    · cases node with
      | leaf v =>
        rw [Node.value] at here
        cases here
        exact List.mem_cons_self
      | table origin sub =>
        rw [Node.value] at here
        cases here
      | tables items =>
        rw [Node.value] at here
        cases here
    · exact List.mem_cons_of_mem _ (ih later)

theorem keyWithin_ne_nil {fuel : Nat} {s rest : List Char} {keys : List String}
    (read : keyWithin fuel s = some (keys, rest)) : keys ≠ [] := by
  cases fuel with
  | zero => cases read
  | succ fuel =>
    unfold keyWithin at read
    split at read
    · cases read
    · split at read
      · obtain ⟨_, -, pair⟩ := Option.map_eq_some_iff.1 read
        cases pair
        nofun
      · cases read
        nofun

namespace Draft

/-- The values of the document itself stand in the current table until a header opens another. -/
structure Fits (d : Draft) : Prop where
  root : d.root.Fits
  current : d.path = [] → d.current.Fits

variable {d d' : Draft} {path : List String} {root : Entries}

theorem fits_empty : empty.Fits := ⟨Entries.fits_nil, fun _ => Entries.fits_nil⟩

theorem Fits.close? (h : d.Fits) (closed : d.close? = some root) : root.Fits := by
  unfold Draft.close? at closed
  split at closed
  · next top =>
    cases closed
    exact h.current top
  · obtain ⟨⟨es, u⟩, changed, rfl⟩ := Option.map_eq_some_iff.1 closed
    refine h.root.within? (fun es es' _ before placed => ?_) changed
    split at placed
    · split at placed
      · cases placed
        exact before.set _ trivial
      · cases placed
        exact before.append_table _ trivial
      · cases placed
    · split at placed
      · cases placed
      · cases placed
        exact before.append_table _ trivial

theorem openTable?_fits (h : root.Fits) (named : path ≠ []) (opened : openTable? path root = some d) : d.Fits := by
  obtain ⟨⟨es, current⟩, changed, rfl⟩ := Option.map_eq_some_iff.1 opened
  refine ⟨h.within? (fun es es' _ before taken => ?_) changed, fun top => absurd top named⟩
  split at taken
  · cases taken
    exact before
  · cases taken
    exact before.remove _
  · cases taken

theorem openRepeated?_fits (h : root.Fits) (named : path ≠ []) (opened : openRepeated? path root = some d) :
    d.Fits := by
  obtain ⟨⟨es, u⟩, changed, rfl⟩ := Option.map_eq_some_iff.1 opened
  refine ⟨h.within? (fun es es' _ before checked => ?_) changed, fun top => absurd top named⟩
  split at checked
  · cases checked
    exact before.append_table _ trivial
  · cases checked
    exact before
  · cases checked

theorem Fits.line? {s rest : List Char} (h : d.Fits) (read : line? s d = some (d', rest)) : d'.Fits := by
  unfold Draft.line? at read
  simp only [Option.bind_eq_bind, Option.pure_def] at read
  split at read
  · obtain ⟨⟨path, more⟩, named, read⟩ := Option.bind_eq_some_iff.1 read
    split at read
    · next heading =>
      cases heading
      obtain ⟨root, closed, read⟩ := Option.bind_eq_some_iff.1 read
      obtain ⟨after, opened, read⟩ := Option.bind_eq_some_iff.1 read
      obtain ⟨_, -, pair⟩ := Option.bind_eq_some_iff.1 read
      cases pair
      exact openRepeated?_fits (h.close? closed) (keyWithin_ne_nil named) opened
    · cases read
  · obtain ⟨⟨path, more⟩, named, read⟩ := Option.bind_eq_some_iff.1 read
    split at read
    · next heading =>
      cases heading
      obtain ⟨root, closed, read⟩ := Option.bind_eq_some_iff.1 read
      obtain ⟨after, opened, read⟩ := Option.bind_eq_some_iff.1 read
      obtain ⟨_, -, pair⟩ := Option.bind_eq_some_iff.1 read
      cases pair
      exact openTable?_fits (h.close? closed) (keyWithin_ne_nil named) opened
    · cases read
  · obtain ⟨⟨keys, more⟩, named, read⟩ := Option.bind_eq_some_iff.1 read
    split at read
    · next assignment =>
      cases assignment
      obtain ⟨⟨v, after⟩, value, read⟩ := Option.bind_eq_some_iff.1 read
      obtain ⟨current, added, read⟩ := Option.bind_eq_some_iff.1 read
      obtain ⟨_, -, pair⟩ := Option.bind_eq_some_iff.1 read
      cases pair
      exact ⟨h.root, fun top => (h.current top).addDotted (fits_of_valueWithin value) added⟩
    · cases read

theorem Fits.linesWithin {fuel : Nat} {s : List Char} (h : d.Fits) (read : linesWithin fuel s d = some d') :
    d'.Fits := by
  induction fuel generalizing s d with
  | zero => cases read
  | succ fuel ih =>
    unfold Draft.linesWithin at read
    split at read
    · cases read
      exact h
    · split at read
      · exact ih h read
      · cases read
    · split at read
      · exact ih h read
      · split at read
        · next line => exact ih (h.line? line) read
        · cases read

end Draft

theorem fits_of_parse? {text : String} {doc : List (String × Value)} (read : parse? text = some doc) :
    ∀ e ∈ doc, e.2.Fits := by
  obtain ⟨root, closed, rfl⟩ := Option.map_eq_some_iff.1 read
  obtain ⟨d, lines, closed⟩ := Option.bind_eq_some_iff.1 closed
  have fits := (Draft.fits_empty.linesWithin lines).close? closed
  rintro ⟨key, v⟩ member n same
  subst same
  exact fits key _ (exists_leaf_of_mem member) n rfl

end ScriptRunner.Toml
