import Foldmark.Pattern.Basic

/-! What is found in a line. A search gives the best match at the first place that has one, and a choice
between nodes matches as the first of them that matches there. -/
namespace Foldmark.Pattern

/-- Places the groups of a match among groups that took no part. -/
def Found.pad (before after : Nat) (f : Found) : Found :=
  ⟨f.start, f.stop, List.replicate before none ++ f.groups ++ List.replicate after none⟩

namespace Node

variable {node a b : Node} {text : Array Char} {place start : Nat} {found : Found}

theorem matchAt_start (h : node.matchAt text place = some found) : found.start = place := by
  obtain ⟨outcome, -, rfl⟩ := Option.map_eq_some_iff.mp h
  rfl

theorem searchFrom_eq_none (count place : Nat) :
    node.searchFrom text count place = none ↔
      ∀ further, place ≤ further → further < place + count → node.matchAt text further = none := by
  induction count generalizing place with
  | zero =>
    simp only [searchFrom, true_iff]
    intro further above below
    omega
  | succ count ih =>
    simp only [searchFrom]
    cases here : node.matchAt text place with
    | some found =>
      simp only [reduceCtorEq, false_iff]
      intro nowhere
      have := nowhere place (Nat.le_refl _) (by omega)
      rw [here] at this
      cases this
    | none =>
      rw [ih]
      constructor
      · intro nowhere further above below
        by_cases same : further = place
        · exact same ▸ here
        · exact nowhere further (by omega) (by omega)
      · intro nowhere further above below
        exact nowhere further (by omega) (by omega)

theorem searchFrom_eq_some (count place : Nat) :
    node.searchFrom text count place = some found ↔
      place ≤ found.start ∧ found.start < place + count ∧
        node.matchAt text found.start = some found ∧
        ∀ further, place ≤ further → further < found.start → node.matchAt text further = none := by
  induction count generalizing place with
  | zero =>
    simp only [searchFrom, reduceCtorEq, false_iff]
    rintro ⟨above, below, -⟩
    omega
  | succ count ih =>
    simp only [searchFrom]
    cases here : node.matchAt text place with
    | some other =>
      have start := matchAt_start here
      constructor
      · rintro ⟨⟩
        refine ⟨by omega, by omega, start.symm ▸ here, fun further above below => ?_⟩
        omega
      · rintro ⟨above, below, matched, nowhere⟩
        by_cases same : found.start = place
        · rw [same, here] at matched
          exact matched
        · have := nowhere place (Nat.le_refl _) (by omega)
          rw [here] at this
          cases this
    | none =>
      simp only [ih]
      constructor
      · rintro ⟨above, below, matched, nowhere⟩
        refine ⟨by omega, by omega, matched, fun further above below => ?_⟩
        by_cases same : further = place
        · exact same ▸ here
        · exact nowhere further (by omega) below
      · rintro ⟨above, below, matched, nowhere⟩
        have later : found.start ≠ place := by
          intro same
          rw [same, here] at matched
          cases matched
        exact ⟨by omega, by omega, matched, fun further above => nowhere further (by omega)⟩

theorem search_eq_none :
    node.search text start = none ↔
      ∀ place, start ≤ place → place ≤ text.size → node.matchAt text place = none := by
  rw [search, searchFrom_eq_none]
  constructor
  · intro nowhere place above below
    exact nowhere place above (by omega)
  · intro nowhere place above below
    exact nowhere place above (by omega)

theorem search_eq_some :
    node.search text start = some found ↔
      start ≤ found.start ∧ found.start ≤ text.size ∧
        node.matchAt text found.start = some found ∧
        ∀ place, start ≤ place → place < found.start → node.matchAt text place = none := by
  rw [search, searchFrom_eq_some]
  constructor
  · rintro ⟨above, below, rest⟩
    exact ⟨above, by omega, rest⟩
  · rintro ⟨above, below, rest⟩
    exact ⟨above, by omega, rest⟩

theorem le_start_of_search (searched : node.search text start = some found) {bound : Nat}
    (nowhere : ∀ place, start ≤ place → place < bound → node.matchAt text place = none) :
    bound ≤ found.start := by
  obtain ⟨above, -, matched, -⟩ := search_eq_some.mp searched
  refine Nat.le_of_not_lt fun lower => ?_
  rw [nowhere found.start above lower] at matched
  cases matched

theorem start_ne_of_search (searched : node.search text start = some found)
    (refused : node.matchAt text place = none) : found.start ≠ place := by
  rintro rfl
  obtain ⟨-, -, matched, -⟩ := search_eq_some.mp searched
  rw [refused] at matched
  cases matched

theorem matchAt_alt :
    (alt a b).matchAt text place =
      ((a.matchAt text place).map (Found.pad 0 b.groupCount)).or
        ((b.matchAt text place).map (Found.pad a.groupCount 0)) := by
  simp only [matchAt, outcomes, Outcome.head?_distinct, List.head?_append, List.head?_map]
  cases (a.outcomes text place).head? <;> cases (b.outcomes text place).head? <;> rfl

theorem matchAt_group (name : Option String) :
    (group name node).matchAt text place = (node.matchAt text place).map fun f =>
      ⟨f.start, f.stop, some ⟨f.start, f.stop⟩ :: f.groups⟩ := by
  simp only [matchAt, outcomes, List.head?_map]
  cases (node.outcomes text place).head? <;> rfl

theorem search_group (name : Option String) :
    (group name node).search text start = (node.search text start).map fun f =>
      ⟨f.start, f.stop, some ⟨f.start, f.stop⟩ :: f.groups⟩ := by
  have from_ (count place : Nat) : (group name node).searchFrom text count place =
      (node.searchFrom text count place).map fun f =>
        ⟨f.start, f.stop, some ⟨f.start, f.stop⟩ :: f.groups⟩ := by
    induction count generalizing place with
    | zero => rfl
    | succ count ih =>
      simp only [searchFrom, matchAt_group]
      cases node.matchAt text place with
      | none => exact ih (place + 1)
      | some found => rfl
  exact from_ _ _

theorem choice_cons {nodes : List Node} (h : nodes ≠ []) :
    choice (node :: nodes) = .alt node (choice nodes) := by
  cases nodes with
  | nil => exact absurd rfl h
  | cons first rest => rfl

theorem groups_choice (nodes : List Node) : (choice nodes).groups = nodes.flatMap groups := by
  induction nodes with
  | nil => rfl
  | cons node rest ih =>
    by_cases last : rest = []
    · simp [last, choice]
    · rw [choice_cons last, groups, ih, List.flatMap_cons]

theorem groupCount_choice (nodes : List Node) :
    (choice nodes).groupCount = (nodes.flatMap groups).length := by
  rw [← groups_choice, length_groups]

theorem choice_eq_none {nodes : List Node} (h : nodes ≠ []) :
    (choice nodes).matchAt text place = none ↔ ∀ node ∈ nodes, node.matchAt text place = none := by
  induction nodes with
  | nil => exact absurd rfl h
  | cons node rest ih =>
    by_cases last : rest = []
    · simp [last, choice]
    · rw [choice_cons last, matchAt_alt, List.forall_mem_cons, ← ih last]
      simp

theorem choice_eq_some {before : List Node}
    (others : ∀ other ∈ before, other.matchAt text place = none)
    (h : node.matchAt text place = some found) (after : List Node) :
    (choice (before ++ node :: after)).matchAt text place =
      some (found.pad (before.flatMap groups).length (after.flatMap groups).length) := by
  induction before with
  | nil =>
    by_cases last : after = []
    · simp [last, choice, h, Found.pad]
    · simp [choice_cons last, matchAt_alt, h, groupCount_choice]
  | cons first rest ih =>
    obtain ⟨refused, others⟩ := List.forall_mem_cons.mp others
    rw [List.cons_append, choice_cons (by simp), matchAt_alt, refused, ih others]
    simp [Found.pad, ← List.replicate_append_replicate, length_groups]

end Node

theorem matches?_of_matchAt {p : Pattern} {text : Array Char} {place : Nat} {found : Found}
    (inside : place ≤ text.size) (matched : p.node.matchAt text place = some found) : p.matches? text = true := by
  rw [matches?, Option.isSome_iff_ne_none]
  intro nowhere
  cases (Node.search_eq_none.mp nowhere place (Nat.zero_le _) inside).symm.trans matched

end Foldmark.Pattern
