import ScriptRunner.Cli.Args
import ScriptRunner.Proofs.Text.Span

namespace ScriptRunner.Cli

namespace Found

variable {f : Found} {name value : String}

theorem mem_values_iff : value ∈ f.values name ↔ (name, value) ∈ f.options := by
  simp only [values, List.mem_map, List.mem_filter, beq_iff_eq, Prod.exists]
  constructor
  · rintro ⟨_, _, ⟨member, rfl⟩, rfl⟩
    exact member
  · intro member
    exact ⟨name, value, ⟨member, rfl⟩, rfl⟩

theorem value?_eq_some_iff (single : ∀ v w, (name, v) ∈ f.options → (name, w) ∈ f.options → v = w) :
    f.value? name = some value ↔ (name, value) ∈ f.options := by
  rw [← mem_values_iff, value?]
  cases found : f.values name with
  | nil => simp
  | cons v vs =>
    have first : (name, v) ∈ f.options := mem_values_iff.1 (by rw [found]; exact List.mem_cons_self)
    constructor
    · intro head
      cases head
      exact List.mem_cons_self
    · intro member
      have given : (name, value) ∈ f.options := mem_values_iff.1 (by rw [found]; exact member)
      rw [single value v given first, List.head?_cons]

end Found

namespace Grammar

variable {g : Grammar} {rule : OptionRule} {f after : Found} {ws : List String}

theorem assign_single {accepts : String → Bool} {value : String} (kind : rule.kind = .single accepts)
    (free : f.has rule.name = false) (accepted : accepts value = true) :
    assign rule value f = .ok (f.addOption rule.name value) := by
  simp [assign, kind, free, accepted]

theorem assign_repeated {accepts : String → Bool} {value : String} (kind : rule.kind = .repeated accepts)
    (accepted : accepts value = true) : assign rule value f = .ok (f.addOption rule.name value) := by
  simp [assign, kind, accepted]

theorem shape_long {name : String} (plain : '=' ∉ name.toList) (known : g.byName? name = some rule) (value : String) :
    g.shape ("--" ++ name ++ "=" ++ value) = .long name (some value) := by
  have spelled : ("--" ++ name ++ "=" ++ value).toList = '-' :: '-' :: (name.toList ++ '=' :: value.toList) := by
    simp
  have inside := Text.forall_bne_iff.2 plain
  obtain ⟨taken, dropped⟩ := (Text.span_iff (· != '=') _ name.toList ('=' :: value.toList)).2 ⟨rfl, inside, by simp⟩
  have cut : splitValue (name.toList ++ '=' :: value.toList) = (name, some value) := by
    simp only [splitValue, taken, dropped, String.ofList_toList]
  obtain ⟨c, cs, filled⟩ : ∃ c cs, name.toList ++ '=' :: value.toList = c :: cs :=
    List.exists_cons_of_ne_nil (by simp)
  rw [filled] at spelled cut
  simp only [shape, spelled, cut, known, Option.isNone_some, Bool.false_and, Bool.false_eq_true, if_false]

theorem readFrom_long {name value : String} (plain : '=' ∉ name.toList) (known : g.byName? name = some rule)
    (assigned : assign rule value f = .ok after) :
    g.readFrom (("--" ++ name ++ "=" ++ value) :: ws) none f = g.readFrom ws none after := by
  simp only [readFrom, shape_long plain known, long, known, assigned, Except.map, Except.bind]

theorem shape_letter {c : Char} (letter : c ≠ '-') (known : g.byLetter? c = some rule) :
    g.shape (String.ofList ['-', c]) = .letters [c] := by
  unfold shape
  rw [String.toList_ofList]
  split
  · next both => simp_all
  · next both => simp_all
  · next d ds same =>
    cases same
    simp [known]
  · next other => exact absurd rfl (other c [])

theorem readFrom_letter {c : Char} (letter : c ≠ '-') (known : g.byLetter? c = some rule) (kind : rule.kind = .flag)
    (free : f.has rule.name = false) :
    g.readFrom (String.ofList ['-', c] :: ws) none f = g.readFrom ws none (f.addOption rule.name "") := by
  have read : g.cluster [c] f = .ok (f.addOption rule.name "", none) := by
    simp [cluster, known, mention, kind, free]
  simp only [readFrom, shape_letter letter known, read, Except.bind]

theorem readFrom_escape (command : g.operands = .command) (filled : ws ≠ []) :
    g.readFrom ("--" :: ws) none f = .ok { f with words := ws } := by
  obtain ⟨w, ws, rfl⟩ := List.exists_cons_of_ne_nil filled
  have escape : g.shape "--" = .escape := rfl
  simp only [readFrom, escape, afterEscape, command]

theorem shape_plain {w : String} (plain : w.toList.head? ≠ some '-') : g.shape w = .plain := by
  unfold shape
  split
  · next spelled => simp [spelled] at plain
  · next spelled => simp [spelled] at plain
  · next spelled => simp [spelled] at plain
  · rfl

theorem readFrom_plain {w : String} (command : g.operands = .command) (plain : w.toList.head? ≠ some '-') :
    g.readFrom (w :: ws) none f = .ok { f with words := w :: ws } := by
  simp only [readFrom, shape_plain plain, command]

end Grammar

end ScriptRunner.Cli
