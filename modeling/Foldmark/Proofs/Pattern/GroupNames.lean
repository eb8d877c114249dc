import Foldmark.Proofs.Pattern.Beginning

/-! The names of groups. Every name that a group of a pattern has stands in the source, so patterns that compile
together have no name in common. -/
namespace Foldmark.Pattern

theorem groups_literalNode {f : Flags} {lit : Literal} {node : Node}
    (means : literalNode f lit = .ok node) : node.groups = [] := by
  unfold literalNode at means
  split at means
  · cases means
  · cases means
    split <;> rfl

theorem groups_dotNode {f : Flags} {node : Node} (means : dotNode f = .ok node) :
    node.groups = [] := by
  unfold dotNode at means
  split at means
  · cases means
  · split at means
    · cases means
      rfl
    · split at means <;> cases means <;> rfl

theorem groups_wholeSet {f : Flags} {s : CharSet} {node : Node} (means : wholeSet f s = .ok node) :
    node.groups = [] := by
  unfold wholeSet at means
  split at means
  · cases means
    rfl
  · cases means

theorem groups_repeated {body : Node} {min : Nat} {max : Option Nat} {greedy : Bool}
    {name? : Option String} (member : some name? ∈ (body.repeated min max greedy).groups) :
    some name? ∈ body.groups := by
  have shapes (low : Nat) (high : Option Nat) : some name? ∈ Node.groups
      (if low = 0 ∧ high = some 0 then .void body.groupCount
        else if low = 1 ∧ high = some 1 then body else .loop body low high greedy) →
      some name? ∈ body.groups := by
    intro member
    split at member
    · cases List.eq_of_mem_replicate member
    · split at member <;> exact member
  exact shapes _ _ member

mutual

theorem nodeOf_names {f after : Flags} {node : Node} {name : String} : ∀ {ast : Ast},
    nodeOf f ast = .ok (node, after) → some (some name) ∈ node.groups → name ∈ ast.groupNames
  | .empty, means, member => by
    cases means
    cases member
  | .flags _, means, member => by
    cases means
    cases member
  | .literal _, means, member => by
    obtain ⟨_, own, means⟩ := ok_of_bind means
    cases means
    rw [groups_literalNode own] at member
    cases member
  | .dot, means, member => by
    obtain ⟨_, own, means⟩ := ok_of_bind means
    cases means
    rw [groups_dotNode own] at member
    cases member
  | .anchor _, means, member => by
    cases means
    cases member
  | .named _ _, means, member => by
    obtain ⟨_, -, means⟩ := ok_of_bind means
    cases means
    cases member
  | .property _ _, means, member => by
    obtain ⟨_, -, means⟩ := ok_of_bind means
    cases means
    cases member
  | .bracket _ _, means, member => by
    obtain ⟨_, -, means⟩ := ok_of_bind means
    obtain ⟨_, own, means⟩ := ok_of_bind means
    cases means
    rw [groups_wholeSet own] at member
    cases member
  | .repetition body _ _ _, means, member => by
    obtain ⟨_, own, means⟩ := ok_of_bind means
    cases means
    rw [Ast.groupNames]
    exact nodeOf_names own (groups_repeated member)
  | .group (.capture name?) body, means, member => by
    obtain ⟨_, own, means⟩ := ok_of_bind means
    cases means
    rcases List.mem_cons.mp member with here | inner
    · cases here
      exact List.mem_cons_self
    · cases name? with
      | none =>
        rw [Ast.groupNames]
        · exact nodeOf_names own inner
        · simp
      | some _ =>
        rw [Ast.groupNames]
        exact List.mem_cons_of_mem _ (nodeOf_names own inner)
  | .group (.plain _) body, means, member => by
    obtain ⟨_, own, means⟩ := ok_of_bind means
    cases means
    rw [Ast.groupNames]
    · exact nodeOf_names own member
    · simp
  | .concat items, means, member => by
    rw [Ast.groupNames]
    exact sequence_names means member
  | .alternation branches, means, member => by
    rw [Ast.groupNames]
    exact alternatives_names means member

theorem sequence_names {f after : Flags} {node : Node} {name : String} : ∀ {items : List Ast},
    nodeOf.sequence f items = .ok (node, after) → some (some name) ∈ node.groups →
      name ∈ Ast.groupNames.namesAll items
  | [], means, member => by
    cases means
    cases member
  | [item], means, member => by
    rw [Ast.groupNames.namesAll]
    exact List.mem_append_left _ (nodeOf_names means member)
  | item :: next :: rest, means, member => by
    obtain ⟨_, own, means⟩ := ok_of_bind means
    obtain ⟨_, others, means⟩ := ok_of_bind means
    cases means
    rw [Ast.groupNames.namesAll]
    rcases List.mem_append.mp member with here | later
    · exact List.mem_append_left _ (nodeOf_names own here)
    · exact List.mem_append_right _ (sequence_names others later)

theorem alternatives_names {f after : Flags} {node : Node} {name : String} : ∀ {branches : List Ast},
    nodeOf.alternatives f branches = .ok (node, after) → some (some name) ∈ node.groups →
      name ∈ Ast.groupNames.namesAll branches
  | [], means, member => by
    cases means
    cases member
  | [branch], means, member => by
    rw [Ast.groupNames.namesAll]
    exact List.mem_append_left _ (nodeOf_names means member)
  | branch :: next :: rest, means, member => by
    obtain ⟨_, own, means⟩ := ok_of_bind means
    obtain ⟨_, others, means⟩ := ok_of_bind means
    cases means
    rw [Ast.groupNames.namesAll]
    rcases List.mem_append.mp member with here | later
    · exact List.mem_append_left _ (nodeOf_names own here)
    · exact List.mem_append_right _ (alternatives_names others later)

end

theorem mem_tree_groupNames {p : Pattern} (compiles : p.Compiles) {name : String}
    (member : some name ∈ p.groupNames) : name ∈ p.tree.groupNames := by
  obtain ⟨-, _, -, means, -⟩ := compile_cases compiles
  obtain ⟨name?, isGroup, named⟩ := List.mem_map.mp member
  cases name? with
  | none => cases named
  | some own =>
    cases named
    exact nodeOf_names means isGroup

end Foldmark.Pattern
