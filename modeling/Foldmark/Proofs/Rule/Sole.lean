import Foldmark.Proofs.Rule.Master

/-! The only marker of a rule set. It is found as its own pattern finds it, whatever flags that pattern switches
on: no other marker stands in front of it, and its group is closed only if no comment takes the closing
parenthesis in. -/
namespace Foldmark

namespace Master

variable {c : CompiledRule} {role : Role} {p : Pattern} {m : Master}

theorem build_sole (built : build [c] = .ok m) (marker : c.alternatives = [(role, p)])
    (compiles : p.Compiles) :
    m.pattern.node = Pattern.groupNode (MasterGroup.name role 0, p) ∧
      m.groups = groupsOf 1 (some (MasterGroup.name role 0) :: p.groupNames) := by
  obtain ⟨pattern, compiled, rfl⟩ := build_groups built
  have source : "|".intercalate (sources [c]) = nameGroup (MasterGroup.name role 0) p.source := by
    simp [sources, marker]
  rw [source] at compiled
  have node := Pattern.compile_named (MasterGroup.validName role 0) compiles compiled
  refine ⟨node, ?_⟩
  simp [Pattern.groupNames, node, Pattern.groupNode, Pattern.Node.groups]

theorem findAt_sole (built : build [c] = .ok m) (marker : c.alternatives = [(role, p)])
    (compiles : p.Compiles) (line : Line) (start : Nat) :
    m.findAt line start = (p.find? line start).map fun own =>
      ⟨role, 0, own.start, own.stop, some ⟨own.start, own.stop⟩ :: own.groups⟩ := by
  obtain ⟨node, groups⟩ := build_sole built marker compiles
  rw [findAt, Pattern.find?, node, Pattern.groupNode, Pattern.Node.search_group, ← Pattern.find?]
  cases p.find? line start with
  | none => rfl
  | some own =>
    have told : MasterGroup.ofName? (MasterGroup.name role 0) = some (role, 0) :=
      MasterGroup.ofName?_name role (by decide)
    have first := @find?_groupsOf 1 [] p.groupNames _ _ _ told Nat.one_pos
      ⟨own.start, own.stop, some ⟨own.start, own.stop⟩ :: own.groups⟩ _ _ rfl
    rw [List.nil_append, ← groups] at first
    simp [first]

end Master

namespace RuleSet

theorem compile_sole {r : Rule} {c : CompiledRule} {m : Master} {role : Role} {p : Pattern}
    (rules : (compile [r]).rules = [c]) (combined : (compile [r]).master = some m)
    (marker : c.alternatives = [(role, p)]) (line : Line) (start : Nat) :
    m.findAt line start = (p.find? line start).map fun own =>
      ⟨role, 0, own.start, own.stop, some ⟨own.start, own.stop⟩ :: own.groups⟩ := by
  obtain ⟨-, built⟩ := compile_master combined
  have only : (⟨0, role, p⟩ : Candidate) ∈ (compile [r]).candidates := by
    simp [candidates, rules, Candidate.ofRules, marker]
  have compiles := compile_candidates only
  exact Master.findAt_sole (rules ▸ built) marker compiles line start

end RuleSet

end Foldmark
