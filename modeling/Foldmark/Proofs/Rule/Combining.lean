import Foldmark.Proofs.Rule.Declaring

/-! Rules that are usable on their own. Of such rules none is rejected just when all of them combine, and where
some are rejected, they are rejected for clashes only. -/
namespace Foldmark

namespace RuleSet

variable {rules : List Rule}

theorem separate_reasons {position : Nat} {x : Rejection} (member : x ∈ (separate position rules).2) :
    ∃ r ∈ rules, r.compile = .error x.reason := by
  induction rules generalizing position with
  | nil => cases member
  | cons r rest ih =>
    simp only [separate] at member
    cases compiled : r.compile with
    | ok c =>
      rw [compiled] at member
      obtain ⟨other, inside, refused⟩ := ih member
      exact ⟨other, List.mem_cons_of_mem _ inside, refused⟩
    | error reason =>
      rw [compiled] at member
      rcases List.mem_cons.mp member with rfl | later
      · exact ⟨r, List.mem_cons_self, compiled⟩
      · obtain ⟨other, inside, refused⟩ := ih later
        exact ⟨other, List.mem_cons_of_mem _ inside, refused⟩

theorem combine_reasons {accepted : List CompiledRule} {master : Option Master}
    {usable : List (Nat × CompiledRule)} {x : Rejection}
    (member : x ∈ (combine accepted master usable).rejected) : ∃ reason, x.reason = .masterConflict reason := by
  induction usable generalizing accepted master with
  | nil => cases member
  | cons first rest ih =>
    obtain ⟨position, c⟩ := first
    simp only [combine] at member
    split at member
    · exact ih member
    · rcases List.mem_cons.mp member with rfl | later
      · exact ⟨_, rfl⟩
      · exact ih later

theorem compile_reasons {x : Rejection} (member : x ∈ (compile rules).rejected) :
    (∃ r ∈ rules, r.compile = .error x.reason) ∨ ∃ reason, x.reason = .masterConflict reason := by
  simp only [compile] at member
  split at member
  · exact .inl (separate_reasons member)
  · rcases List.mem_append.mp ((List.mergeSort_perm _ _).mem_iff.mp member) with own | clash
    · exact .inl (separate_reasons own)
    · exact .inr (combine_reasons clash)

theorem compile_usable (accepted : (compile rules).rejected = []) :
    (compile rules).rules = Rule.usable rules := by
  have listed : Rule.usable rules = (rules.map Rule.compile).filterMap Except.toOption := by
    rw [List.filterMap_map]
    rfl
  rw [listed, ← compile_accepts accepted, List.filterMap_map]
  exact List.filterMap_some.symm

section Usable

variable (all : ∀ r ∈ rules, r.compile.isOk = true)

include all

theorem separate_all (position : Nat) : (separate position rules).2 = [] := by
  rw [List.eq_nil_iff_forall_not_mem]
  intro x member
  obtain ⟨r, inside, refused⟩ := separate_reasons member
  have usable := all r inside
  rw [refused] at usable
  cases usable

theorem compile_clashes {x : Rejection} (member : x ∈ (compile rules).rejected) :
    ∃ reason, x.reason = .masterConflict reason := by
  rcases compile_reasons member with ⟨r, inside, refused⟩ | clash
  · have usable := all r inside
    rw [refused] at usable
    cases usable
  · exact clash

theorem rejects_nothing_iff_combine :
    (compile rules).rejected = [] ↔ Master.Combine (Rule.usable rules) := by
  constructor
  · intro accepted
    rw [← compile_usable accepted]
    cases combined : (compile rules).master with
    | some m => exact ⟨m, (compile_master combined).2⟩
    | none =>
      rw [compile_no_master combined, Master.combine_iff]
      exact ⟨_, Pattern.compile_empty⟩
  · rintro ⟨m, built⟩
    rw [← separate_usable 0] at built
    simp only [compile, built]
    exact separate_all all 0

/-- Without the verbose flag, rules that are usable on their own are all accepted just when their markers
join. -/
theorem rejects_nothing_iff_joins (free : ∀ r ∈ rules, r.VerboseFree) :
    (compile rules).rejected = [] ↔
      Pattern.Joins ((Candidate.ofRules (Rule.usable rules)).map Candidate.entry) := by
  have markers := Rule.usable_markers free
  rw [rejects_nothing_iff_combine all, Master.combine_iff_joins (fun a member => (markers a member).1)
    fun a member => (markers a member).2]

end Usable

end RuleSet

end Foldmark
