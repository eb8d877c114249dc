import Foldmark.Proofs.Pattern.Search

/-! Where matches lie. A match from a place on ends between that place and the end of the line, its groups
lie in it one by one, and there are as many of them as the pattern has. -/
namespace Foldmark.Pattern

variable {size place groups : Nat} {o next : Outcome}

namespace Outcome

/-- An outcome that stays between the place it begins at and the end of a line, with `groups` groups
that lie in it. -/
structure Within (size place groups : Nat) (o : Outcome) : Prop where
  forward : place ≤ o.stop
  bounded : o.stop ≤ size
  counted : o.groups.length = groups
  spans : ∀ span, some span ∈ o.groups →
    place ≤ span.start ∧ span.start ≤ span.stop ∧ span.stop ≤ o.stop

def AllWithin (size place groups : Nat) (outcomes : List Outcome) : Prop :=
  ∀ o ∈ outcomes, o.Within size place groups

theorem within_bare {stop : Nat} (forward : place ≤ stop) (bounded : stop ≤ size) (groups : Nat) :
    Within size place groups ⟨stop, List.replicate groups none⟩ := by
  refine ⟨forward, bounded, List.length_replicate, fun span member => ?_⟩
  cases List.eq_of_mem_replicate member

namespace Within

theorem group (valid : o.Within size place groups) :
    Within size place (groups + 1) ⟨o.stop, some ⟨place, o.stop⟩ :: o.groups⟩ := by
  refine ⟨valid.forward, valid.bounded, by simp [valid.counted], fun span member => ?_⟩
  rcases List.mem_cons.mp member with own | inner
  · cases own
    exact ⟨Nat.le_refl _, valid.forward, Nat.le_refl _⟩
  · exact valid.spans span inner

theorem pad (valid : o.Within size place groups) (before after : Nat) :
    (o.pad before after).Within size place (before + groups + after) := by
  refine ⟨valid.forward, valid.bounded, by simp [Outcome.pad, valid.counted, Nat.add_assoc], fun span member => ?_⟩
  refine valid.spans span ?_
  simpa [Outcome.pad, List.mem_replicate] using member

theorem append {more : Nat} (first : o.Within size place groups)
    (second : next.Within size o.stop more) : (o.append next).Within size place (groups + more) := by
  have reached := second.forward
  refine ⟨Nat.le_trans first.forward reached, second.bounded,
    by simp [Outcome.append, first.counted, second.counted], fun span member => ?_⟩
  rcases List.mem_append.mp member with old | new
  · obtain ⟨above, ordered, below⟩ := first.spans span old
    exact ⟨above, ordered, Nat.le_trans below reached⟩
  · obtain ⟨above, ordered, below⟩ := second.spans span new
    exact ⟨Nat.le_trans first.forward above, ordered, below⟩

theorem extend (first : o.Within size place groups) (second : next.Within size o.stop groups) :
    (o.extend next).Within size place groups := by
  have reached := second.forward
  refine ⟨Nat.le_trans first.forward reached, second.bounded,
    by simp [Outcome.extend, first.counted, second.counted], fun span member => ?_⟩
  simp only [Outcome.extend, List.mem_iff_getElem, List.length_zipWith, List.getElem_zipWith,
    Option.or_eq_some_iff] at member
  obtain ⟨index, bound, new | ⟨-, old⟩⟩ := member
  · obtain ⟨above, ordered, below⟩ := second.spans span (new ▸ List.getElem_mem _)
    exact ⟨Nat.le_trans first.forward above, ordered, below⟩
  · obtain ⟨above, ordered, below⟩ := first.spans span (old ▸ List.getElem_mem _)
    exact ⟨above, ordered, Nat.le_trans below reached⟩

end Within

theorem AllWithin.distinct {outcomes : List Outcome} (valid : AllWithin size place groups outcomes)
    (width : Nat) : AllWithin size place groups (distinct width outcomes) :=
  fun o member => valid o (mem_of_mem_distinct member)

end Outcome

open Outcome (AllWithin)

namespace Loop

def Task.outcome : Task → Outcome
  | .pass _ o => o
  | .leave o => o

variable {l : Loop} {body : Nat → List Outcome}

theorem choices_within (bodies : ∀ p ≤ size, AllWithin size p groups (body p))
    (valid : o.Within size place groups) (v : Visited) (done : Nat) :
    ∀ task ∈ l.choices body v done o, task.outcome.Within size place groups := by
  have entering : ∀ task ∈ (if l.mayEnter v done o.stop then
      (body o.stop).map fun next => Task.pass (Nat.min (done + 1) l.copies) (o.extend next) else []),
      task.outcome.Within size place groups := by
    intro task member
    split at member
    · obtain ⟨next, inside, rfl⟩ := List.mem_map.mp member
      exact valid.extend (bodies o.stop valid.bounded next inside)
    · cases member
  have leaving : ∀ task ∈ (if l.min ≤ done then [Task.leave o] else []),
      task.outcome.Within size place groups := by
    intro task member
    split at member
    · cases List.mem_singleton.mp member
      exact valid
    · cases member
  unfold choices
  dsimp only
  split
  · exact List.forall_mem_append.mpr ⟨entering, leaving⟩
  · exact List.forall_mem_append.mpr ⟨leaving, entering⟩

theorem explore_within (bodies : ∀ p ≤ size, AllWithin size p groups (body p)) (fuel : Nat)
    (v : Visited) (found : List Outcome) (tasks : List Task)
    (valid : AllWithin size place groups found)
    (pending : ∀ task ∈ tasks, task.outcome.Within size place groups) :
    AllWithin size place groups (explore l body fuel v found tasks) := by
  fun_induction explore l body fuel v found tasks with
  | case1 => exact fun o member => valid o (List.mem_reverse.mp member)
  | case2 => exact fun o member => valid o (List.mem_reverse.mp member)
  | case3 fuel v found o tasks ih =>
    obtain ⟨own, others⟩ := List.forall_mem_cons.mp pending
    exact ih (List.forall_mem_cons.mpr ⟨own, valid⟩) others
  | case4 fuel v found done o tasks visited ih =>
    exact ih valid (List.forall_mem_cons.mp pending).2
  | case5 fuel v found done o tasks fresh ih =>
    obtain ⟨own, others⟩ := List.forall_mem_cons.mp pending
    exact ih valid (List.forall_mem_append.mpr ⟨choices_within bodies own v done, others⟩)

theorem outcomes_within (bodies : ∀ p ≤ size, AllWithin size p groups (body p))
    (inside : place ≤ size) : AllWithin size place groups (l.outcomes size groups body place) := by
  refine AllWithin.distinct (explore_within bodies _ _ _ _ (by simp [AllWithin]) ?_) size
  intro task member
  cases List.mem_singleton.mp member
  exact Outcome.within_bare (Nat.le_refl _) inside groups

end Loop

/-- A match that lies in a line, with `groups` groups that lie in it. -/
structure Found.Within (size groups : Nat) (f : Found) : Prop where
  ordered : f.start ≤ f.stop
  bounded : f.stop ≤ size
  counted : f.groups.length = groups
  spans : ∀ number span, f.group? number = some span →
    f.start ≤ span.start ∧ span.start ≤ span.stop ∧ span.stop ≤ f.stop

namespace Node

variable {text : Array Char} {node : Node} {found : Found}

theorem outcomes_within (node : Node) (inside : place ≤ text.size) :
    AllWithin text.size place node.groupCount (node.outcomes text place) := by
  induction node generalizing place with
  | empty =>
    intro o member
    cases List.mem_singleton.mp member
    exact Outcome.within_bare (Nat.le_refl _) inside 0
  | void groups =>
    intro o member
    cases List.mem_singleton.mp member
    exact Outcome.within_bare (Nat.le_refl _) inside groups
  | char c =>
    intro o member
    simp only [outcomes] at member
    split at member
    · rename_i here
      cases List.mem_singleton.mp member
      have := (Array.getElem?_eq_some_iff.mp here).1
      exact Outcome.within_bare (Nat.le_succ _) this 0
    · cases member
  | set s =>
    intro o member
    simp only [outcomes] at member
    split at member
    · rename_i c here
      split at member
      · cases List.mem_singleton.mp member
        have := (Array.getElem?_eq_some_iff.mp here).1
        exact Outcome.within_bare (Nat.le_succ _) this 0
      · cases member
    · cases member
  | look kind =>
    intro o member
    simp only [outcomes] at member
    split at member
    · cases List.mem_singleton.mp member
      exact Outcome.within_bare (Nat.le_refl _) inside 0
    · cases member
  | group name body ih =>
    intro o member
    obtain ⟨inner, isInner, rfl⟩ := List.mem_map.mp member
    exact (ih inside inner isInner).group
  | cat a b iha ihb =>
    refine AllWithin.distinct (fun o member => ?_) _
    obtain ⟨first, isFirst, member⟩ := List.mem_flatMap.mp member
    obtain ⟨second, isSecond, rfl⟩ := List.mem_map.mp member
    have valid := iha inside first isFirst
    exact valid.append (ihb valid.bounded second isSecond)
  | alt a b iha ihb =>
    refine AllWithin.distinct (List.forall_mem_append.mpr ⟨fun o member => ?_, fun o member => ?_⟩) _
    · obtain ⟨first, isFirst, rfl⟩ := List.mem_map.mp member
      simpa [groupCount] using (iha inside first isFirst).pad 0 b.groupCount
    · obtain ⟨second, isSecond, rfl⟩ := List.mem_map.mp member
      simpa [groupCount] using (ihb inside second isSecond).pad a.groupCount 0
  | loop body min max greedy ih => exact Loop.outcomes_within (fun p bound => ih bound) inside

theorem matchAt_within (inside : place ≤ text.size) (h : node.matchAt text place = some found) :
    found.Within text.size node.groupCount := by
  obtain ⟨o, first, rfl⟩ := Option.map_eq_some_iff.mp h
  have valid := node.outcomes_within inside o (List.mem_of_mem_head? (Option.mem_def.mpr first))
  refine ⟨valid.forward, valid.bounded, valid.counted, fun number span covered => ?_⟩
  cases number with
  | zero =>
    cases covered
    exact ⟨Nat.le_refl _, valid.forward, Nat.le_refl _⟩
  | succ number =>
    refine valid.spans span ?_
    exact List.mem_of_getElem? (Option.join_eq_some_iff.mp covered)

theorem search_within {start : Nat} (h : node.search text start = some found) :
    start ≤ found.start ∧ found.Within text.size node.groupCount := by
  obtain ⟨above, inside, matched, -⟩ := search_eq_some.mp h
  exact ⟨above, matchAt_within inside matched⟩

end Node

end Foldmark.Pattern
