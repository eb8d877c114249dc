import Foldmark.Proofs.Fold.State
import Foldmark.Proofs.Rule.Declaring

/-! What compiling gives as a whole: every declared rule is either rejected, once and by its position, or
compiled into the set, in the order of declaration; and the pattern is that of exactly the rules of the
set, so that what it reports can be looked up among them. -/
namespace Foldmark.RuleSet

/-- The declared rules at the positions that are not rejected. -/
def remaining (rules : List Rule) (rejected : List Rejection) : List Rule :=
  (rules.zipIdx.filter fun entry => rejected.all (·.position ≠ entry.2)).map (·.1)

structure Coherent (rules : List Rule) (set : RuleSet) : Prop where
  ordered : set.rejected.Pairwise (·.position < ·.position)
  within : ∀ x ∈ set.rejected, x.position < rules.length
  accepted : (remaining rules set.rejected).map Rule.compile = set.rules.map .ok
  built : Built set.rules set.master
  reported : ∀ text place found, set.findAt text place = some found → found.rule < set.rules.length

theorem separate_later (position : Nat) (rules : List Rule) :
    ∀ x ∈ (separate (position + 1) rules).2, x.position ≠ position := by
  intro x member
  have := (separate_ordered (position + 1) rules).subset (List.mem_map_of_mem member)
  rw [List.mem_range'_1] at this
  omega

/-- Of the rules that are neither rejected on their own nor at some other positions, each is usable, and
what it compiles to is what is kept. -/
theorem separate_remaining (position : Nat) (rules : List Rule) (clashing : List Rejection) :
    ((rules.zipIdx position).filter fun entry =>
        ((separate position rules).2 ++ clashing).all (·.position ≠ entry.2)).map (·.1.compile) =
      ((separate position rules).1.filter fun entry => clashing.all (·.position ≠ entry.1)).map
        fun entry => .ok entry.2 := by
  induction rules generalizing position with
  | nil => rfl
  | cons r rest ih =>
    have others := ih (position + 1)
    simp only [List.zipIdx_cons, separate]
    cases compiled : r.compile with
    | ok c =>
      have usable : (separate (position + 1) rest).2.all (·.position ≠ position) = true := by
        simpa using separate_later position rest
      by_cases clashes : clashing.all (·.position ≠ position) = true
      · simp only [List.filter_cons, List.all_append, usable, clashes, Bool.and_self, if_true,
          List.map_cons, compiled, List.cons.injEq, true_and]
        simpa only [List.all_append] using others
      · simp only [List.filter_cons, List.all_append, usable, clashes, Bool.and_false, if_false,
          Bool.false_eq_true]
        simpa only [List.all_append] using others
    | error reason =>
      rw [List.filter_cons_of_neg (by simp), ← others]
      congr 1
      apply List.filter_congr
      rintro ⟨other, index⟩ member
      have behind : position ≠ index := by
        have := (List.mem_zipIdx member).1
        omega
      simp [behind]

theorem combine_remaining (accepted : List CompiledRule) (master : Option Master)
    (usable : List (Nat × CompiledRule)) (distinct : (usable.map (·.1)).Nodup) :
    (combine accepted master usable).rules = accepted ++
      (usable.filter fun entry =>
        (combine accepted master usable).rejected.all (·.position ≠ entry.1)).map (·.2) := by
  induction usable generalizing accepted master with
  | nil => simp [combine]
  | cons first rest ih =>
    obtain ⟨position, r⟩ := first
    rw [List.map_cons, List.nodup_cons] at distinct
    simp only [combine]
    cases Master.build (accepted ++ [r]) with
    | ok m =>
      have kept : (combine (accepted ++ [r]) (some m) rest).rejected.all (·.position ≠ position) := by
        rw [List.all_eq_true]
        intro x member
        have inside := (combine_ordered _ _ rest).subset (List.mem_map_of_mem member)
        rw [decide_eq_true_eq]
        rintro rfl
        exact distinct.1 inside
      simp only
      rw [List.filter_cons, if_pos kept, List.map_cons, ih (accepted ++ [r]) (some m) distinct.2,
        List.append_assoc, List.singleton_append]
    | error reason =>
      simp only
      rw [List.filter_cons_of_neg (by simp), ih accepted master distinct.2]
      congr 2
      apply List.filter_congr
      rintro ⟨index, c⟩ member
      have other : position ≠ index := by
        rintro rfl
        exact distinct.1 (List.mem_map_of_mem (f := (·.1)) member)
      simp [other]

theorem compile_remaining (rules : List Rule) :
    (remaining rules (compile rules).rejected).map Rule.compile = (compile rules).rules.map .ok := by
  have distinct : ((separate 0 rules).1.map (·.1)).Nodup :=
    ((separate_positions 0 rules).nodup_iff.mpr (List.nodup_range' 1)).of_append_left
  simp only [remaining, compile, List.map_map]
  cases together : Master.build ((separate 0 rules).1.map (·.2)) with
  | ok m =>
    have usable := separate_remaining 0 rules []
    simp only [List.append_nil, List.all_nil, List.filter_true] at usable
    simp only [List.map_map]
    exact usable
  | error reason =>
    have clashing := combine_remaining [] none (separate 0 rules).1 distinct
    have usable := separate_remaining 0 rules (combine [] none (separate 0 rules).1).rejected
    have same (test : Rejection → Bool) :
        (mergeRejected (separate 0 rules).2 (combine [] none (separate 0 rules).1).rejected).all test =
          ((separate 0 rules).2 ++ (combine [] none (separate 0 rules).1).rejected).all test :=
      (List.mergeSort_perm _ _).all_eq
    simp only [same]
    rw [clashing, List.nil_append, List.map_map]
    exact usable

theorem compile_rejected (rules : List Rule) :
    (compile rules).rejected.Pairwise (·.position < ·.position) ∧
      ∀ x ∈ (compile rules).rejected, x.position < rules.length := by
  simp only [compile]
  split
  · have within := (rejected_once rules [] none).2
    refine ⟨?_, fun x member => within x (List.mem_append_left _ member)⟩
    exact List.pairwise_map.mp ((List.pairwise_lt_range' 1).sublist (separate_ordered 0 rules))
  · obtain ⟨distinct, within⟩ := rejected_once rules [] none
    refine ⟨mergeRejected_ordered distinct, fun x member => within x ?_⟩
    exact (List.mergeSort_perm _ _).mem_iff.mp member

/-- A rule set accounts for every declared rule, whatever rules are invalid or clash. Every marker that it
reports belongs to one of its rules, and has a role of that rule unless a pattern switches the verbose
flag on. -/
theorem compile_coherent (rules : List Rule) :
    Coherent rules (compile rules) ∧
    ((∀ a ∈ (compile rules).candidates, a.pattern.verboseFree = true) →
      ∀ text place found, (compile rules).findAt text place = some found →
        ∃ r, (compile rules).rules[found.rule]? = some r ∧ found.role ∈ r.roles) := by
  obtain ⟨ordered, within⟩ := compile_rejected rules
  refine ⟨⟨ordered, within, compile_remaining rules, (compile_built rules).1, ?_⟩, ?_⟩
  · intro text place found searched
    obtain ⟨m, combined, searched⟩ := Option.bind_eq_some_iff.mp searched
    exact (compile_closed combined).rule_lt searched
  · intro free text place found searched
    obtain ⟨m, combined, searched⟩ := Option.bind_eq_some_iff.mp searched
    exact compile_fitting combined free text place found searched

/-- Four rules: one that is no pattern, two that name a group alike, and one beside them. -/
def mixedRules : List Rule :=
  [.ofPatterns "(" ")", .ofPatterns "(?P<n>a)" "b", .ofPatterns "(?P<n>c)" "d", .ofTexts "[" "]"]

set_option maxRecDepth 100000 in
/-- Two of four rules are rejected, one on its own and one for a clash, and the others keep their order. -/
theorem compile_coherent_mixed :
    Coherent mixedRules (compile mixedRules) ∧
    (compile mixedRules).rules.length = 2 ∧
    ∃ found r, (compile mixedRules).findAt (.ofString "c]") 0 = some found ∧
      (compile mixedRules).rules[found.rule]? = some r ∧ found.role ∈ r.roles := by
  have evaluated : (∀ a ∈ (compile mixedRules).candidates, a.pattern.verboseFree = true) ∧
      (compile mixedRules).rules.length = 2 ∧
      ((compile mixedRules).findAt (.ofString "c]") 0).isSome = true := by decide +kernel
  obtain ⟨free, accepted, reports⟩ := evaluated
  obtain ⟨coherent, roles⟩ := compile_coherent mixedRules
  obtain ⟨found, searched⟩ := Option.isSome_iff_exists.mp reports
  obtain ⟨r, known, role⟩ := roles free _ _ _ searched
  exact ⟨coherent, accepted, found, r, searched, known, role⟩

set_option maxRecDepth 100000 in
/-- A marker in a role that its rule does not have: a group that a comment hides from a delimiter alone
reports a separator of the rule of that delimiter. -/
theorem compile_misreports :
    ∃ found r, (compile verboseRules).findAt (.ofString "c") 0 = some found ∧
      (compile verboseRules).rules[found.rule]? = some r ∧ found.role = .separator ∧
      r.roles = [.docstring] := by
  have reported : ((compile verboseRules).findAt (.ofString "c") 0).any (fun found =>
      ((compile verboseRules).rules[found.rule]?).any fun r =>
        found.role = .separator && r.roles = [.docstring]) = true := by decide +kernel
  obtain ⟨found, searched, reported⟩ := (Option.any_eq_true _ _).mp reported
  obtain ⟨r, known, roles⟩ := (Option.any_eq_true _ _).mp reported
  rw [Bool.and_eq_true, decide_eq_true_eq, decide_eq_true_eq] at roles
  exact ⟨found, r, searched, known, roles⟩

end Foldmark.RuleSet
