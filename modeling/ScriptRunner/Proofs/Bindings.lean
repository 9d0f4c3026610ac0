import Mathlib.Data.List.Induction
import Mathlib.Data.List.Nodup
import ScriptRunner.Bindings

namespace ScriptRunner.Bindings

deriving instance DecidableEq for Bindings

theorem lookup_pair {α : Type} (n name : String) (a : α) (l : List (String × α)) :
    ((name, a) :: l).lookup n = if n = name then some a else l.lookup n := by
  by_cases same : n = name
  · simp [same]
  · have differs : (n == name) = false := by simpa using same
    simp [List.lookup_cons, differs, same]

theorem lookup_put (name text : String) (l : List (String × String)) (n : String) :
    (put name text l).lookup n = if n = name then some text else l.lookup n := by
  induction l with
  | nil => exact lookup_pair n name text []
  | cons p l ih =>
    obtain ⟨first, t⟩ := p
    by_cases here : first = name
    · subst here
      simp only [put, if_true, lookup_pair]
      split <;> rfl
    · simp only [put, here, if_false, lookup_pair, ih]
      by_cases same : n = first
      · simp only [same, here, if_true, if_false]
      · simp only [same, if_false]

theorem get?_insert (b : Bindings) (name text n : String) :
    (b.insert name text).get? n = if n = name then some text else b.get? n :=
  lookup_put name text b.entries n

theorem ofPairs_concat (l : List (String × String)) (p : String × String) :
    ofPairs (l ++ [p]) = (ofPairs l).insert p.1 p.2 := by
  rw [ofPairs, insertAll_append]
  rfl

theorem keys_ofPairs (l : List (String × String)) :
    (ofPairs l).entries.map Prod.fst = (l.map Prod.fst).eraseDups := by
  induction l using List.reverseRecOn with
  | nil => rfl
  | append_singleton l p ih =>
    have keys := keys_put p.1 p.2 (ofPairs l).entries
    rw [ofPairs_concat, List.map_append, List.eraseDups_append]
    simp only [insert, keys, ih, List.mem_eraseDups]
    split
    · next known => simp [List.removeAll, known]
    · next fresh => simp [List.removeAll, fresh, List.eraseDups_cons]

theorem get?_ofPairs (l : List (String × String)) (name : String) :
    (ofPairs l).get? name = l.reverse.lookup name := by
  induction l using List.reverseRecOn with
  | nil => rfl
  | append_singleton l p ih =>
    rw [ofPairs_concat, get?_insert, ih, List.reverse_concat, lookup_pair]

theorem mem_put {name text : String} {l : List (String × String)} {p : String × String} (h : p ∈ put name text l) :
    p = (name, text) ∨ p ∈ l := by
  induction l with
  | nil => exact .inl (List.mem_singleton.1 h)
  | cons q l ih =>
    obtain ⟨first, t⟩ := q
    by_cases here : first = name
    · simp only [put, here, if_true, List.mem_cons] at h
      exact h.imp_right (List.mem_cons_of_mem _)
    · simp only [put, here, if_false, List.mem_cons] at h
      rcases h with same | later
      · exact .inr (by simp [same])
      · exact (ih later).imp_right (List.mem_cons_of_mem _)

theorem mem_of_mem_entries_ofPairs {l : List (String × String)} {p : String × String}
    (h : p ∈ (ofPairs l).entries) : p ∈ l := by
  induction l using List.reverseRecOn with
  | nil => cases h
  | append_singleton l q ih =>
    rw [ofPairs_concat] at h
    rcases mem_put h with rfl | old
    · exact List.mem_append_right l List.mem_cons_self
    · exact List.mem_append_left _ (ih old)

theorem put_put (name old new : String) (l : List (String × String)) :
    put name new (put name old l) = put name new l := by
  induction l with
  | nil => simp [put]
  | cons p l ih =>
    obtain ⟨first, t⟩ := p
    by_cases here : first = name
    · simp [put, here]
    · simp [put, here, ih]

theorem put_comm {name other text more : String} {l : List (String × String)} (known : name ∈ l.map Prod.fst)
    (differs : other ≠ name) : put name text (put other more l) = put other more (put name text l) := by
  induction l with
  | nil => cases known
  | cons p l ih =>
    obtain ⟨first, t⟩ := p
    by_cases here : first = name
    · subst here
      simp [put, Ne.symm differs]
    · have later : name ∈ l.map Prod.fst := by simpa [Ne.symm here] using known
      by_cases there : first = other
      · subst there
        simp [put, here]
      · simp [put, here, there, ih later]

theorem mem_keys_insert {b : Bindings} {name : String} (known : name ∈ b.entries.map Prod.fst) (other text : String) :
    name ∈ (b.insert other text).entries.map Prod.fst := by
  simp only [insert, keys_put]
  split
  · exact known
  · exact List.mem_append_left _ known

theorem insertAll_insert {b : Bindings} {name text : String} {l : List (String × String)}
    (known : name ∈ b.entries.map Prod.fst) (fresh : name ∉ l.map Prod.fst) :
    (b.insertAll l).insert name text = (b.insert name text).insertAll l := by
  induction l generalizing b with
  | nil => rfl
  | cons p l ih =>
    obtain ⟨differs, fresh⟩ := not_or.1 (mt List.mem_cons.2 fresh)
    have moved : (b.insert p.1 p.2).insert name text = (b.insert name text).insert p.1 p.2 :=
      ext_entries (put_comm known (Ne.symm differs))
    have later := ih (mem_keys_insert known p.1 p.2) fresh
    rw [moved] at later
    exact later

theorem insertAll_put (b : Bindings) (name text : String) {l : List (String × String)} (once : (l.map Prod.fst).Nodup) :
    b.insertAll (put name text l) = (b.insertAll l).insert name text := by
  induction l generalizing b with
  | nil => rfl
  | cons p l ih =>
    obtain ⟨first, t⟩ := p
    obtain ⟨fresh, once⟩ := List.nodup_cons.1 once
    by_cases here : first = name
    · subst here
      have known : first ∈ (b.insert first t).entries.map Prod.fst := by
        simp only [insert, keys_put]
        split
        · assumption
        · simp
      have twice : (b.insert first t).insert first text = b.insert first text := ext_entries (put_put ..)
      have moved : ((b.insert first t).insertAll l).insert first text = _ := insertAll_insert known fresh
      rw [twice] at moved
      simpa [put, insertAll] using moved.symm
    · simpa [put, here, insertAll] using ih (b.insert first t) once

theorem insertAll_ofPairs (b : Bindings) (l : List (String × String)) :
    b.insertAll (ofPairs l).entries = b.insertAll l := by
  induction l using List.reverseRecOn with
  | nil => rfl
  | append_singleton l p ih =>
    have last : (ofPairs (l ++ [p])).entries = put p.1 p.2 (ofPairs l).entries := by
      rw [ofPairs_concat]
      rfl
    rw [last, insertAll_put b p.1 p.2 (ofPairs l).nodup, ih, insertAll_append]
    rfl

theorem lookup_eq_none_of_not_mem {name : String} {l : List (String × String)} (fresh : name ∉ l.map Prod.fst) :
    l.lookup name = none := by
  rw [List.lookup_eq_none_iff]
  intro p member
  have differs : name ≠ p.1 := fun same => fresh (same ▸ List.mem_map_of_mem member)
  simpa using differs

theorem keys_insertAll (b : Bindings) {l : List (String × String)} (once : (l.map Prod.fst).Nodup) :
    (b.insertAll l).entries.map Prod.fst =
      b.entries.map Prod.fst ++ (l.map Prod.fst).filter (· ∉ b.entries.map Prod.fst) := by
  induction l generalizing b with
  | nil => simp [insertAll]
  | cons p l ih =>
    obtain ⟨fresh, once⟩ := List.nodup_cons.1 once
    show ((b.insert p.1 p.2).insertAll l).entries.map Prod.fst = _
    rw [ih (b.insert p.1 p.2) once]
    simp only [insert, keys_put, List.map_cons, List.filter_cons]
    split
    · next known => simp [known]
    · next new =>
      have same : ∀ name ∈ l.map Prod.fst, decide (name ∉ b.entries.map Prod.fst ++ [p.1]) =
          decide (name ∉ b.entries.map Prod.fst) := by
        intro name member
        have differs : name ≠ p.1 := fun same => fresh (same ▸ member)
        simp [differs]
      rw [List.filter_congr same]
      simp [new]

theorem get?_insertAll (b : Bindings) {l : List (String × String)} (once : (l.map Prod.fst).Nodup) (name : String) :
    (b.insertAll l).get? name = (l.lookup name).or (b.get? name) := by
  induction l generalizing b with
  | nil => rfl
  | cons p l ih =>
    obtain ⟨fresh, once⟩ := List.nodup_cons.1 once
    show ((b.insert p.1 p.2).insertAll l).get? name = _
    rw [ih (b.insert p.1 p.2) once, get?_insert, lookup_pair]
    by_cases same : name = p.1
    · subst same
      simp [lookup_eq_none_of_not_mem fresh]
    · simp [same]

theorem find?_eraseDups (q : String → Bool) (l : List String) : l.eraseDups.find? q = l.find? q := by
  induction l using List.reverseRecOn with
  | nil => rfl
  | append_singleton l a ih =>
    rw [List.eraseDups_append, List.find?_append, List.find?_append, ih]
    by_cases known : a ∈ l
    · cases found : l.find? q with
      | some b => rfl
      | none =>
        have passed := List.find?_eq_none.1 found a known
        simp [List.removeAll, known, passed]
    · simp [List.removeAll, known, List.eraseDups_cons]

theorem find?_entry (q : String → Bool) (l : List (String × String)) :
    (l.find? fun p => q p.1).map Prod.snd = ((l.map Prod.fst).find? q).bind fun name => l.lookup name := by
  induction l with
  | nil => rfl
  | cons p l ih =>
    obtain ⟨name, text⟩ := p
    cases here : q name with
    | true => simp [here]
    | false =>
      simp only [List.map_cons, List.find?_cons, here, ih]
      cases found : (l.map Prod.fst).find? q with
      | none => rfl
      | some n =>
        have differs : n ≠ name := by
          rintro rfl
          rw [List.find?_some found] at here
          cases here
        rw [Option.bind_some, Option.bind_some, lookup_pair, if_neg differs]

theorem put_of_not_mem {name : String} (text : String) {l : List (String × String)} (fresh : name ∉ l.map Prod.fst) :
    put name text l = l ++ [(name, text)] := by
  induction l with
  | nil => rfl
  | cons p l ih =>
    obtain ⟨first, t⟩ := p
    obtain ⟨differs, fresh⟩ := not_or.1 (mt List.mem_cons.2 fresh)
    rw [put, if_neg (Ne.symm differs), ih fresh, List.cons_append]

theorem entries_ofPairs {l : List (String × String)} (once : (l.map Prod.fst).Nodup) : (ofPairs l).entries = l := by
  induction l using List.reverseRecOn with
  | nil => rfl
  | append_singleton l p ih =>
    rw [List.map_append, List.nodup_append] at once
    obtain ⟨front, -, apart⟩ := once
    have fresh : p.1 ∉ l.map Prod.fst := fun known => apart _ known p.1 List.mem_cons_self rfl
    rw [ofPairs_concat]
    show put p.1 p.2 (ofPairs l).entries = _
    rw [ih front]
    exact put_of_not_mem p.2 fresh

/-- Bindings are what all insertions have made of nothing. -/
theorem insertAll_eq_ofPairs (b : Bindings) (inserts : List (String × String)) :
    b.insertAll inserts = ofPairs (b.entries ++ inserts) := by
  have same : ofPairs b.entries = b := ext_entries (entries_ofPairs b.nodup)
  rw [ofPairs, insertAll_append, ← ofPairs, same]

theorem mem_entries_iff {b : Bindings} {name text : String} : (name, text) ∈ b.entries ↔ b.get? name = some text := by
  obtain ⟨entries, once⟩ := b
  show (name, text) ∈ entries ↔ entries.lookup name = some text
  induction entries with
  | nil => simp
  | cons p entries ih =>
    obtain ⟨first, t⟩ := p
    obtain ⟨fresh, once⟩ := List.nodup_cons.1 once
    rw [lookup_pair, List.mem_cons, ih once]
    by_cases here : name = first
    · subst here
      simp [lookup_eq_none_of_not_mem fresh, eq_comm]
    · simp [here]

/-- Bindings differ in their order at most if they have the same texts under all names. -/
theorem perm_entries_iff {a b : Bindings} : a.entries.Perm b.entries ↔ ∀ name, a.get? name = b.get? name := by
  rw [List.perm_ext_iff_of_nodup (List.Nodup.of_map Prod.fst a.nodup) (List.Nodup.of_map Prod.fst b.nodup)]
  constructor
  · intro same name
    ext text
    rw [← mem_entries_iff, ← mem_entries_iff, same]
  · rintro same ⟨name, text⟩
    rw [mem_entries_iff, mem_entries_iff, same]

end ScriptRunner.Bindings
