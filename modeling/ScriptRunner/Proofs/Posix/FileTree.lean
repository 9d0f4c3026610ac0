import ScriptRunner.Posix.FileTree
import ScriptRunner.Proofs.Decoding.Utf8

namespace ScriptRunner.Posix

namespace Octets

theorem toBytes_ofBytes (bytes : List UInt8) : (ofBytes bytes).toBytes = bytes := by
  have back (b : UInt8) : UInt8.ofNat (Char.ofNat b.toNat).toNat = b := by
    have small : b.toNat < 256 := b.toNat_lt
    rw [Utf8.toNat_ofNat_of_valid (.inl (by omega)), UInt8.ofNat_toNat]
  simp [ofBytes, toBytes, Function.comp_def, back]

theorem toBytes_append (a b : Octets) : (a ++ b).toBytes = a.toBytes ++ b.toBytes := by
  simp [toBytes]

end Octets

namespace FileTree

variable {t t' : FileTree} {p q : Place} {i : Nat}

/-- The names lead to nodes, and no two of them to the same one. -/
structure Sound (t : FileTree) : Prop where
  inside {p : Place} {i : Nat} : t.number? p = some i → i < t.nodes.size
  apart {p q : Place} {i : Nat} : t.number? p = some i → t.number? q = some i → p = q

def content (t : FileTree) (p : Place) : Option (List UInt8) :=
  match t.node? p with
  | some (.file content _) => some content.toBytes
  | _ => none

theorem lookup_cons (r : Place) (i : Nat) (names : List (Place × Nat)) (q : Place) :
    ((r, i) :: names).lookup q = if q = r then some i else names.lookup q := by
  by_cases same : q = r
  · simp [same]
  · have apart : (q == r) = false := by simpa using same
    rw [List.lookup_cons, apart, if_neg same]

theorem lookup_filter_ne (names : List (Place × Nat)) (p q : Place) :
    (names.filter (·.1 != p)).lookup q = if q = p then none else names.lookup q := by
  induction names with
  | nil => simp
  | cons e names ih =>
    obtain ⟨r, i⟩ := e
    rw [List.filter_cons, lookup_cons]
    by_cases removed : r = p
    · have gone : (r != p) = false := by simpa using removed
      rw [gone, if_neg Bool.false_ne_true, ih, removed]
      by_cases same : q = p <;> simp [same]
    · have stays : (r != p) = true := by simpa using removed
      rw [if_pos stays, lookup_cons, ih]
      by_cases same : q = r
      · simp [same, removed]
      · simp [same]

theorem number?_put (t : FileTree) (p : Place) (n : Node) (q : Place) :
    (t.put p n).number? q = if q = p then some t.nodes.size else t.number? q := by
  rw [number?, put, List.lookup_append, lookup_filter_ne]
  by_cases same : q = p
  · simp [same]
  · simp [same, lookup_cons, number?]

namespace Sound

theorem put (sound : t.Sound) (p : Place) (n : Node) : (t.put p n).Sound where
  inside {q i} named := by
    rw [FileTree.put, Array.size_push]
    rw [number?_put] at named
    split at named
    · cases named
      omega
    · exact Nat.lt_succ_of_lt (sound.inside named)
  apart {q r i} named named' := by
    rw [number?_put] at named named'
    split at named <;> split at named'
    · next first second => rw [first, second]
    · cases named
      exact absurd (sound.inside named') (Nat.lt_irrefl _)
    · cases named'
      exact absurd (sound.inside named) (Nat.lt_irrefl _)
    · exact sound.apart named named'

theorem update (sound : t.Sound) (i : Nat) (n : Node) : (t.update i n).Sound where
  inside named := by
    rw [FileTree.update, Array.size_setIfInBounds]
    exact sound.inside named
  apart := sound.apart

theorem makePlace (sound : t.Sound) (p : Place) : (t.makePlace p).Sound := by
  refine List.foldlRecOn _ _ sound fun t sound i _ => ?_
  split
  · exact sound
  · exact sound.put _ _

theorem install (sound : t.Sound) (p : Place) (n : Node) : (t.install p n).Sound := (sound.makePlace _).put p n

end Sound

theorem sound_empty : empty.Sound where
  inside {p i} named := by
    rw [number?, empty, lookup_cons] at named
    split at named
    · cases named
      decide
    · cases named
  apart {p q i} named named' := by
    rw [number?, empty, lookup_cons] at named named'
    split at named <;> split at named'
    · next first second => rw [first, second]
    · cases named'
    · cases named
    · cases named

theorem sound_plain (programs : List String) : (plain programs).Sound := by
  refine List.foldlRecOn _ _ ?_ fun t sound name _ => (sound.put _ _).put _ _
  refine List.foldlRecOn _ _ ?_ fun t sound device _ => sound.put _ _
  exact List.foldlRecOn _ _ sound_empty fun t sound dir _ => sound.makePlace dir

theorem node?_put_self (t : FileTree) (p : Place) (n : Node) : (t.put p n).node? p = some n := by
  have named : (t.put p n).number? p = some t.nodes.size := by simp [number?_put]
  rw [node?, named]
  simp [FileTree.put]

theorem Sound.node?_put_of_ne (sound : t.Sound) (n : Node) (other : q ≠ p) : (t.put p n).node? q = t.node? q := by
  have named : (t.put p n).number? q = t.number? q := by simp [number?_put, other]
  rw [node?, node?, named]
  cases found : t.number? q with
  | none => rfl
  | some i =>
    have inside := sound.inside found
    simp [FileTree.put, Array.getElem?_push, Nat.ne_of_lt inside]

theorem create_cases {cwd : Place} {path : Octets} (created : t.create cwd path = .ok (t', i)) :
    ∃ p, t.locateWritable cwd path = .ok p ∧
      (t.number? p = some i ∧ t' = t ∨
        t.number? p = none ∧ i = t.nodes.size ∧ t' = t.put p (.file "" false)) := by
  unfold create at created
  cases located : t.locateWritable cwd path with
  | error e => simp [located, Except.map] at created
  | ok p =>
    refine ⟨p, rfl, ?_⟩
    rw [located] at created
    cases named : t.number? p with
    | some j =>
      simp only [Except.map, named] at created
      cases created
      exact .inl ⟨rfl, rfl⟩
    | none =>
      simp only [Except.map, named] at created
      cases created
      exact .inr ⟨rfl, rfl, rfl⟩

theorem Sound.create (sound : t.Sound) {cwd : Place} {path : Octets} (created : t.create cwd path = .ok (t', i)) :
    t'.Sound := by
  obtain ⟨p, -, ⟨-, rfl⟩ | ⟨-, -, rfl⟩⟩ := create_cases created
  · exact sound
  · exact sound.put p _

def regular? (t : FileTree) (p : Place) : Option Place :=
  if (t.number? p).isSome && (t.content p).isNone then none else some p

/-- A node is created for a file that is missing, and nothing else changes. -/
theorem Sound.content_of_create (sound : t.Sound) {cwd : Place} {path : Octets}
    (created : t.create cwd path = .ok (t', i)) : ∃ p, t.locateWritable cwd path = .ok p ∧
      ∀ q, (t'.number? q = some i ∧ (t'.content q).isSome = true ↔ t.regular? p = some q) ∧
        (t.regular? p = some q → t'.content q = some ((t.content q).getD [])) ∧
        (t.regular? p ≠ some q → t'.content q = t.content q) := by
  obtain ⟨p, located, ⟨named, rfl⟩ | ⟨unnamed, rfl, rfl⟩⟩ := create_cases created
  · refine ⟨p, located, fun q => ?_⟩
    have only (named' : t'.number? q = some i) : q = p := sound.apart named' named
    cases held : t'.content p with
    | none =>
      have special : t'.regular? p = none := by simp [regular?, named, held]
      rw [special]
      refine ⟨⟨?_, nofun⟩, nofun, fun _ => rfl⟩
      rintro ⟨named', regular⟩
      rw [only named', held] at regular
      cases regular
    | some bytes =>
      have regular : t'.regular? p = some p := by simp [regular?, held]
      rw [regular]
      refine ⟨⟨fun here => congrArg some (only here.1).symm, ?_⟩, ?_, fun _ => rfl⟩
      · rintro ⟨⟩
        exact ⟨named, by simp [held]⟩
      · rintro ⟨⟩
        simp [held]
  · refine ⟨p, located, fun q => ?_⟩
    have regular : t.regular? p = some p := by simp [regular?, unnamed]
    have missing : t.content p = none := by simp [FileTree.content, node?, unnamed]
    have fresh : (t.put p (.file "" false)).content p = some [] := by
      simp [FileTree.content, node?_put_self, Octets.toBytes]
    rw [regular, number?_put]
    by_cases same : q = p
    · subst same
      simp [fresh, missing]
    · have other : t.number? q ≠ some t.nodes.size := fun named => absurd (sound.inside named) (Nat.lt_irrefl _)
      have kept : (t.put p (.file "" false)).content q = t.content q := by
        rw [FileTree.content, FileTree.content, sound.node?_put_of_ne _ same]
      simp [same, Ne.symm same, other, kept]

theorem Sound.extend (sound : t.Sound) {bytes : Octets} (extended : t.extend i bytes = .ok t') : t'.Sound := by
  unfold FileTree.extend at extended
  split at extended
  · cases extended
    exact sound.update _ _
  · cases extended
  · cases extended
    exact sound

theorem number?_extend {bytes : Octets} (extended : t.extend i bytes = .ok t') (q : Place) :
    t'.number? q = t.number? q := by
  unfold FileTree.extend at extended
  split at extended
  · cases extended
    rfl
  · cases extended
  · cases extended
    rfl

theorem not_file_of_extend_eq_error {bytes : Octets} {e : Errno} (refused : t.extend i bytes = .error e)
    (content : Octets) (executable : Bool) : t.nodes[i]? ≠ some (.file content executable) := by
  intro file
  simp [FileTree.extend, file] at refused

theorem content_extend {bytes : Octets} (extended : t.extend i bytes = .ok t') (p : Place) :
    t'.content p = if t.number? p = some i then (t.content p).map (· ++ bytes.toBytes) else t.content p := by
  rw [FileTree.content, FileTree.content, node?, node?, number?_extend extended]
  cases named : t.number? p with
  | none => simp
  | some j =>
    unfold FileTree.extend at extended
    split at extended
    · next old executable node =>
      cases extended
      by_cases same : i = j
      · subst same
        obtain ⟨inside, stands⟩ := Array.getElem?_eq_some_iff.1 node
        simp [FileTree.update, inside, stands, Octets.toBytes_append]
      · simp [FileTree.update, Array.getElem?_setIfInBounds, same, Ne.symm same]
    · cases extended
    · next regular _ =>
      cases extended
      by_cases same : j = i
      · subst same
        cases node : t.nodes[j]? with
        | none => simp
        | some n => cases n <;> simp_all
      · simp [same]

end FileTree

end ScriptRunner.Posix
