import ScriptRunner.Posix.Machine

namespace ScriptRunner.Posix

open Execution (ChildStatus terminate)

namespace Kernel

variable {k k' k'' : Kernel} {p q : Process} {number : Nat} {status : ChildStatus}

/-- The processes of the second kernel are some of those of the first, and those that had ended have ended. -/
def Sheds (k k' : Kernel) : Prop :=
  ∀ q ∈ k'.processes, ∃ p ∈ k.processes, p.number = q.number ∧ p.group = q.group ∧
    (p.ended.isSome = true → q.ended.isSome = true)

/-- The process goes on in the second kernel, whatever becomes of its parent. -/
def Outlives (p : Process) (k' : Kernel) : Prop :=
  ∃ q ∈ k'.processes, q.number = p.number ∧ q.group = p.group ∧ q.ended = none

theorem Sheds.refl (k : Kernel) : k.Sheds k := fun q member => ⟨q, member, rfl, rfl, id⟩

theorem Sheds.trans (h : k.Sheds k') (h' : k'.Sheds k'') : k.Sheds k'' := by
  intro r member
  obtain ⟨q, member, number, group, ended⟩ := h' r member
  obtain ⟨p, member, number', group', ended'⟩ := h q member
  exact ⟨p, member, number'.trans number, group'.trans group, ended ∘ ended'⟩

theorem of_mem_bury (member : q ∈ k.bury.processes) : q ∈ k.processes := (List.mem_filter.1 member).1

theorem mem_bury (member : p ∈ k.processes) (alive : p.ended = none) : p ∈ k.bury.processes :=
  List.mem_filter.2 ⟨member, by simp [alive]⟩

def afterEnd (number : Nat) (status : ChildStatus) (p : Process) : Process :=
  let p := if p.number == number then { p with ended := some status, handles := [], arrived := [] } else p
  if p.parent == number then { p with parent := initial } else p

theorem finish_eq (k : Kernel) (number : Nat) (status : ChildStatus) :
    k.finish number status = bury { k with processes := k.processes.map (afterEnd number status) } := by
  simp only [finish, modify, List.map_map]
  rfl

theorem afterEnd_number (number : Nat) (status : ChildStatus) (p : Process) :
    (afterEnd number status p).number = p.number := by
  unfold afterEnd
  dsimp only
  repeat' split
  all_goals rfl

theorem afterEnd_group (number : Nat) (status : ChildStatus) (p : Process) :
    (afterEnd number status p).group = p.group := by
  unfold afterEnd
  dsimp only
  repeat' split
  all_goals rfl

theorem afterEnd_ended (number : Nat) (status : ChildStatus) (p : Process) :
    (afterEnd number status p).ended = if p.number = number then some status else p.ended := by
  unfold afterEnd
  by_cases same : p.number = number
  · simp only [same, beq_self_eq_true, if_true]
    split <;> rfl
  · simp only [beq_iff_eq, same, if_false]
    split <;> rfl

theorem of_mem_finish (member : q ∈ (k.finish number status).processes) : ∃ p ∈ k.processes, p.number = q.number ∧
    p.group = q.group ∧ q.ended = if p.number = number then some status else p.ended := by
  rw [finish_eq] at member
  obtain ⟨p, inside, rfl⟩ := List.mem_map.1 (of_mem_bury member)
  exact ⟨p, inside, (afterEnd_number _ _ _).symm, (afterEnd_group _ _ _).symm, afterEnd_ended _ _ _⟩

theorem sheds_finish (k : Kernel) (number : Nat) (status : ChildStatus) : k.Sheds (k.finish number status) := by
  intro q member
  obtain ⟨p, inside, same, group, ended⟩ := of_mem_finish member
  refine ⟨p, inside, same, group, fun before => ?_⟩
  rw [ended]
  split
  · rfl
  · exact before

theorem ended_of_mem_finish (member : q ∈ (k.finish q.number status).processes) : q.ended.isSome = true := by
  obtain ⟨p, -, same, -, ended⟩ := of_mem_finish member
  rw [ended, if_pos same]
  rfl

theorem Outlives.finish (h : Outlives p k) (other : p.number ≠ number) (status : ChildStatus) :
    Outlives p (k.finish number status) := by
  obtain ⟨q, member, same, group, alive⟩ := h
  have kept : (afterEnd number status q).ended = none := by rw [afterEnd_ended, if_neg (same ▸ other), alive]
  refine ⟨afterEnd number status q, ?_, (afterEnd_number _ _ _).trans same, (afterEnd_group _ _ _).trans group, kept⟩
  rw [finish_eq]
  exact mem_bury (List.mem_map_of_mem member) kept

theorem deliver_kill (k : Kernel) (p : Process) : deliver Signal.kill k p =
    if p.ended.isSome then k else k.finish p.number (.signalled (Int32.ofNat Signal.kill)) := by
  simp [deliver, Signal.kill]

theorem sheds_deliver_kill (k : Kernel) (p : Process) : k.Sheds (deliver Signal.kill k p) := by
  rw [deliver_kill]
  split
  · exact .refl k
  · exact sheds_finish k _ _

theorem sheds_kill (k : Kernel) (ps : List Process) : k.Sheds (ps.foldl (deliver Signal.kill) k) := by
  induction ps generalizing k with
  | nil => exact .refl k
  | cons p ps ih => exact (sheds_deliver_kill k p).trans (ih _)

theorem ended_of_kill {ps : List Process} (sent : p ∈ ps) (alive : p.ended = none)
    (member : q ∈ (ps.foldl (deliver Signal.kill) k).processes) (same : q.number = p.number) :
    q.ended.isSome = true := by
  induction ps generalizing k with
  | nil => cases sent
  | cons first ps ih =>
    rcases List.mem_cons.1 sent with rfl | later
    · obtain ⟨r, inside, number, -, ended⟩ := sheds_kill _ ps q member
      rw [deliver_kill, alive] at inside
      rw [← number.trans same] at inside
      exact ended (ended_of_mem_finish inside)
    · exact ih later member

theorem Outlives.kill (h : Outlives p k) {ps : List Process} (apart : ∀ r ∈ ps, p.number ≠ r.number) :
    Outlives p (ps.foldl (deliver Signal.kill) k) := by
  refine List.foldlRecOn ps _ h fun k h r sent => ?_
  rw [deliver_kill]
  split
  · exact h
  · exact h.finish (apart r sent) _

end Kernel

namespace Machine

open Kernel (Sheds Outlives)

variable {m : Machine} {p q : Process}

/-- Numbers and groups are kept by a kill, so that those who are chosen by them have ended behind it. -/
theorem ended_of_killWhere (chosen : Process → Bool)
    (stable : ∀ {p q : Process}, p.number = q.number → p.group = q.group → chosen p = chosen q)
    (member : q ∈ (m.killWhere chosen).kernel.processes) (chose : chosen q = true) : q.ended.isSome = true := by
  obtain ⟨p, inside, number, group, ended⟩ := Kernel.sheds_kill _ _ q member
  cases alive : p.ended with
  | some status => exact ended (by simp [alive])
  | none =>
    have sent : p ∈ m.kernel.processes.filter chosen := List.mem_filter.2 ⟨inside, (stable number group).trans chose⟩
    exact Kernel.ended_of_kill sent alive member number.symm

theorem of_mem_release {child : Nat} (member : q ∈ (m.release child).kernel.processes) :
    q ∈ m.kernel.processes ∧ (q.number = child → q.ended = none) := by
  obtain ⟨inside, left⟩ := List.mem_filter.1 (Kernel.of_mem_bury member)
  refine ⟨inside, fun same => ?_⟩
  simpa [same] using left

theorem outlives_release {p : Process} (h : Outlives p m.kernel) {child : Nat} (other : p.number ≠ child) :
    Outlives p (m.release child).kernel := by
  obtain ⟨q, member, same, group, alive⟩ := h
  exact ⟨q, Kernel.mem_bury (List.mem_filter.2 ⟨member, by simp [same, other]⟩) alive, same, group, alive⟩

/-- The orders to terminate a child leave no process running that is in its group, and the child itself is gone. Other
processes go on. -/
theorem terminated (δ : Type) [BufferedDecoder δ] (number : Nat) (m : Machine) :
    let after := (system δ).carryOut terminate number m
    (∀ q ∈ after.kernel.processes, q.number ≠ number ∧ (q.group = number → q.ended.isSome = true)) ∧
    ∀ p ∈ m.kernel.processes, p.ended = none → p.number ≠ number →
      (∀ r ∈ m.kernel.processes, r.group = number → p.number ≠ r.number) → Outlives p after.kernel := by
  let byGroup : Process → Bool := (·.group == number)
  let byNumber : Process → Bool := (·.number == number)
  let first := m.killWhere byGroup
  let second := first.killWhere byNumber
  show (∀ q ∈ (second.release number).kernel.processes, _) ∧
    ∀ p ∈ _, _ → _ → _ → Outlives p (second.release number).kernel
  refine ⟨fun q member => ?_, fun p member alive other apart => ?_⟩
  · obtain ⟨inside, left⟩ := of_mem_release member
    refine ⟨fun same => ?_, fun same => ?_⟩
    · have ended : q.ended.isSome = true :=
        ended_of_killWhere byNumber (fun number _ => by simp only [byNumber, number]) inside
          (beq_iff_eq.2 same)
      rw [left same] at ended
      cases ended
    · obtain ⟨p, member, -, group, ended⟩ := Kernel.sheds_kill _ _ q inside
      exact ended (ended_of_killWhere byGroup (fun _ group => by simp only [byGroup, group]) member
        (beq_iff_eq.2 (group.trans same)))
  · have start : Outlives p m.kernel := ⟨p, member, rfl, rfl, alive⟩
    have first : Outlives p first.kernel := start.kill fun r sent =>
      apart r (List.mem_filter.1 sent).1 (beq_iff_eq.1 (List.mem_filter.1 sent).2)
    have second : Outlives p second.kernel := first.kill fun r sent same =>
      other (same.trans (beq_iff_eq.1 (List.mem_filter.1 sent).2))
    exact outlives_release second other

end Machine

end ScriptRunner.Posix
