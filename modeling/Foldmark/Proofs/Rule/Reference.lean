import Foldmark.Proofs.Rule.Division
import Foldmark.Proofs.Rule.OpeningGroup

/-! Closing markers that refer to the groups of the opening one. They refer to groups that it has, so what
they stand for is told by the opening marker's own match, whatever other markers there are. -/
namespace Foldmark

namespace Mirror

theorem le_maxGroup {m : Mirror} {number : Nat} (referred : .group number ∈ m.parts) :
    number ≤ m.maxGroup := by
  have counted : .group number ∈ m.parts ∨ number ≤ 0 := .inl referred
  unfold maxGroup
  generalize m.parts = parts, 0 = most at counted ⊢
  induction parts generalizing most with
  | nil => simpa using counted
  | cons part rest ih =>
    refine ih _ ?_
    rcases counted with member | above
    · rcases List.mem_cons.mp member with rfl | later
      · exact .inr (Nat.le_max_right _ _)
      · exact .inl later
    · cases part with
      | source => exact .inr above
      | group => exact .inr (Nat.le_trans above (Nat.le_max_left _ _))

theorem expect_congr {m : Mirror} {first second : Nat → Option (List Char)}
    (same : ∀ number, .group number ∈ m.parts → first number = second number) :
    m.expect first = m.expect second := by
  have filled : (m.fill fun number => ExpectedEnd.enclose (Pattern.quote ((first number).getD []))) =
      m.fill fun number => ExpectedEnd.enclose (Pattern.quote ((second number).getD [])) := by
    refine List.flatMap_congr fun part member => ?_
    cases part with
    | source => rfl
    | group number => simp only [same number member]
  rw [expect, filled, expect]

end Mirror

namespace Rule

theorem compileClosing_references {opening closing : Pattern} {source : String} {mirror : Mirror}
    (h : compileClosing opening source = .ok (closing, some mirror)) {number : Nat}
    (referred : .group number ∈ mirror.parts) : 1 ≤ number ∧ number ≤ opening.groupCount := by
  unfold compileClosing at h
  split at h
  · obtain ⟨p, -, same⟩ := ok_of_bind h
    cases same
  · rename_i own isMirror
    split at h
    · cases h
    · rename_i enough
      obtain ⟨p, -, same⟩ := ok_of_bind h
      cases same
      have most := Mirror.le_maxGroup referred
      rw [Mirror.ofSource?_parts isMirror] at referred
      exact ⟨((Mirror.divide_divided _).bounds referred).1, by omega⟩

theorem compilePaired_references {r : Rule} {opening closing : String} {first last : Pattern}
    {middle unnested : Option Pattern} {mirror : Mirror}
    (h : r.compilePaired opening closing = .ok (.paired first middle last unnested (some mirror)))
    {number : Nat} (referred : .group number ∈ mirror.parts) : 1 ≤ number ∧ number ≤ first.groupCount := by
  unfold compilePaired at h
  obtain ⟨first', -, h⟩ := ok_of_bind h
  obtain ⟨⟨last', mirror'⟩, compiled, h⟩ := ok_of_bind h
  obtain ⟨middle', -, h⟩ := ok_of_bind h
  have same : first' = first ∧ mirror' = some mirror := by
    split at h
    · cases h
      exact ⟨rfl, rfl⟩
    · split at h
      · cases h
        exact ⟨rfl, rfl⟩
      · cases h
  obtain ⟨rfl, rfl⟩ := same
  exact compileClosing_references compiled referred

theorem compile_references {r : Rule} {c : CompiledRule} (h : r.compile = .ok c) {mirror : Mirror}
    (mirrored : c.mirror? = some mirror) {number : Nat} (referred : .group number ∈ mirror.parts) :
    ∃ opening, (.opening, opening) ∈ c.alternatives ∧ 1 ≤ number ∧ number ≤ opening.groupCount := by
  obtain ⟨compiled, -⟩ := compile_cases h
  cases matchers : c.matchers with
  | paired first middle last unnested own =>
    simp only [CompiledRule.mirror?, matchers] at mirrored
    subst mirrored
    rw [matchers] at compiled
    refine ⟨first, by simp [CompiledRule.alternatives, matchers], ?_⟩
    unfold compileMatchers at compiled
    split at compiled
    · obtain ⟨p, -, same⟩ := ok_of_bind compiled
      cases same
    · exact compilePaired_references compiled referred
    · split at compiled
      · obtain ⟨p, q, same, -⟩ := compileContinuation_cases compiled
        cases same
      · cases compiled
    · split at compiled
      · obtain ⟨p, -, same⟩ := ok_of_bind compiled
        cases same
      · cases compiled
    · cases compiled
  | docstring => simp [CompiledRule.mirror?, matchers] at mirrored
  | continuation => simp [CompiledRule.mirror?, matchers] at mirrored
  | separator => simp [CompiledRule.mirror?, matchers] at mirrored

end Rule

/-- A pattern that means among others what it means alone: it does not switch the verbose flag on, and no group in
it has a name of the kind that the groups around markers have. -/
def Pattern.ordinary (p : Pattern) : Bool :=
  p.verboseFree && p.groupNames.all fun name? =>
    !name?.any fun name => MasterGroup.namePrefix.toList.isPrefixOf name.toList

theorem Pattern.verboseFree_of_ordinary {p : Pattern} (h : p.ordinary = true) : p.verboseFree = true :=
  (Bool.and_eq_true_iff.mp h).1

/-- No group in such a pattern is taken for that of a marker. -/
theorem Pattern.untold_of_ordinary {p : Pattern} (h : p.ordinary = true) {name? : Option String}
    (member : name? ∈ p.groupNames) : name?.bind MasterGroup.ofName? = none := by
  have other := List.all_eq_true.mp (Bool.and_eq_true_iff.mp h).2 name? member
  cases name? with
  | none => rfl
  | some name =>
    simp only [Option.any_some, Bool.not_eq_true'] at other
    simp [MasterGroup.ofName?, other]

namespace RuleSet

variable {rules : List Rule} {m : Master}

/-- The groups of an opening marker that the search for all markers reports cover what they cover in the
marker's own match. -/
theorem openingGroup?_own (combined : (compile rules).master = some m)
    (ordinary : ∀ a ∈ (compile rules).candidates, a.pattern.ordinary = true)
    {before after : List Candidate} {a : Candidate}
    (split : (compile rules).candidates = before ++ a :: after) {line : Line} {start : Nat}
    {found : MarkerMatch} (searched : m.findAt line start = some found) (rule : found.rule = a.rule)
    (role : a.role = .opening) {own : Pattern.Found}
    (matched : a.pattern.node.matchAt line found.start = some own)
    (others : ∀ b ∈ before, b.pattern.node.matchAt line found.start = none)
    {number : Nat} (positive : 1 ≤ number) (few : number ≤ a.pattern.groupCount) :
    m.openingGroup? found number = own.group? number := by
  obtain ⟨occupied, built⟩ := compile_master combined
  obtain ⟨node, groups, words⟩ := Master.build_choice built occupied (fun a => compile_candidates)
    fun a member => Pattern.verboseFree_of_ordinary (ordinary a member)
  have ownMember : a ∈ (compile rules).candidates := by simp [split]
  obtain ⟨r, known, -⟩ := Candidate.mem_ofRules.mp ownMember
  have bound := (List.getElem?_eq_some_iff.mp known).1
  have unclaimed : Unclaimed (compile rules) a.rule := by
    intro b member _ name? named
    simp [Pattern.untold_of_ordinary (ordinary b member) named]
  have base : m.openingNumber? a.rule = some ((Master.namesOf before).length + 1) := by
    refine Master.openingNumber?_eq ?_ role bound words fun name inner =>
      unclaimed_after split role words unclaimed inner
    rw [groups, ← split, candidates, ← Master.groups_choiceOf, ← node]
    rfl
  rw [candidates] at split
  exact Master.openingGroup?_eq (split ▸ node) searched others matched (rule ▸ base) positive few

end RuleSet

end Foldmark
