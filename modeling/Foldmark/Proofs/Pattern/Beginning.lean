import Foldmark.Pattern.Weight
import Foldmark.Proofs.Pattern.Alternation

/-! When patterns join. What counts is that no two groups have one name, and the limits of depth and weight.
Leaving out the last of some joined patterns leaves no name, no depth and no weight that was not there before,
so fewer patterns join as more do. -/
namespace Foldmark.Pattern

theorem namesAll_eq (items : List Ast) :
    Ast.groupNames.namesAll items = items.flatMap Ast.groupNames := by
  induction items with
  | nil => rfl
  | cons item rest ih => rw [Ast.groupNames.namesAll, ih, List.flatMap_cons]

theorem groupNames_ofBranches (branches : List Ast) :
    (Ast.ofBranches branches).groupNames = branches.flatMap Ast.groupNames := by
  match branches with
  | [] => simp [Ast.ofBranches, Ast.groupNames]
  | [branch] => simp [Ast.ofBranches]
  | first :: second :: rest => exact namesAll_eq (first :: second :: rest)

theorem depthAll_le {items : List Ast} {limit : Nat} :
    Ast.depth.depthAll items ≤ limit ↔ ∀ item ∈ items, item.depth ≤ limit := by
  induction items with
  | nil => simp [Ast.depth.depthAll]
  | cons item rest ih => rw [Ast.depth.depthAll, Nat.max_le, ih, List.forall_mem_cons]

theorem depth_ofBranches (branches : List Ast) :
    (Ast.ofBranches branches).depth =
      Ast.depth.depthAll branches + if branches.length ≤ 1 then 0 else 1 := by
  match branches with
  | [] => simp [Ast.ofBranches, Ast.depth, Ast.depth.depthAll]
  | [branch] => simp [Ast.ofBranches, Ast.depth.depthAll]
  | first :: second :: rest => simp [Ast.ofBranches, Ast.depth]

def mergedGroup (entry : String × Pattern) : Node := .group (some entry.1) entry.2.node.merged

theorem mergedBranches_choice {entries : List (String × Pattern)} (occupied : entries ≠ []) :
    (Node.choice (entries.map groupNode)).mergedBranches = entries.map mergedGroup := by
  induction entries with
  | nil => exact absurd rfl occupied
  | cons first rest ih =>
    by_cases last : rest = []
    · subst last
      rfl
    · rw [List.map_cons, Node.choice_cons (by simpa using last), Node.mergedBranches, ih last]
      rfl

theorem merged_choice {entries : List (String × Pattern)} (occupied : entries ≠ []) :
    (Node.choice (entries.map groupNode)).merged = .choice (entries.map mergedGroup) := by
  rw [Node.merged, mergedBranches_choice occupied]
  match entries with
  | [] => exact absurd rfl occupied
  | [_] => rfl
  | first :: second :: rest =>
    have apart : Node.sharedLength (((first :: second :: rest).map mergedGroup).map Node.runs) = 0 := rfl
    have noSet : Node.oneSet? ((first :: second :: rest).map mergedGroup) = none := rfl
    simp only [Node.merge, List.map_cons] at apart noSet ⊢
    rw [if_pos apart, noSet]
    rfl

theorem branches_choice {entries : List (String × Pattern)} (occupied : entries ≠ []) :
    (Node.choice (entries.map mergedGroup)).branches = entries.map mergedGroup := by
  induction entries with
  | nil => exact absurd rfl occupied
  | cons first rest ih =>
    by_cases last : rest = []
    · subst last
      rfl
    · rw [List.map_cons, Node.choice_cons (by simpa using last), Node.branches, ih last]
      rfl

theorem weights_choice (forward : Bool) {entries : List (String × Pattern)} (occupied : entries ≠ []) :
    (Node.choice (entries.map mergedGroup)).weights forward =
      entries.map fun entry => (mergedGroup entry).weight forward := by
  induction entries with
  | nil => exact absurd rfl occupied
  | cons first rest ih =>
    have own : (mergedGroup first).weights forward = [(mergedGroup first).weight forward] := rfl
    by_cases last : rest = []
    · subst last
      exact own
    · rw [List.map_cons, Node.choice_cons (by simpa using last), Node.weights, ih last, own]
      rfl

theorem weightSum_append (front back : List Nat) :
    weightSum (front ++ back) = weightSum front + weightSum back := by
  induction front with
  | nil => rw [List.nil_append, weightSum, Nat.zero_add]
  | cons weight rest ih => rw [List.cons_append, weightSum, weightSum, ih, Nat.add_assoc]

theorem weight_merged_choice (forward : Bool) (first second : String × Pattern)
    (rest : List (String × Pattern)) :
    (Node.choice ((first :: second :: rest).map groupNode)).merged.weight forward =
      weightSum ((first :: second :: rest).map fun entry =>
        (mergedGroup entry).weight forward + targetWeight) + 2 * stateWeight := by
  have occupied := List.cons_ne_nil first (second :: rest)
  rw [merged_choice occupied, Node.weight, branches_choice occupied, weights_choice forward occupied]
  have noTexts : ((first :: second :: rest).map mergedGroup).mapM Node.text? = none := by
    rw [List.map_cons, List.mapM_cons]
    rfl
  simp only [List.map_cons] at noTexts ⊢
  simp only [choiceWeight, noTexts, List.map_cons, List.map_map]
  rfl

theorem weight_choice (entries : List (String × Pattern)) :
    2 * stateWeight * entries.length ≤ (Node.choice (entries.map groupNode)).merged.weight true := by
  have own (entry : String × Pattern) : 2 * stateWeight ≤ (mergedGroup entry).weight true := by
    simp [mergedGroup, Node.weight, Node.weights, choiceWeight]
  have all (entries : List (String × Pattern)) : 2 * stateWeight * entries.length ≤
      weightSum (entries.map fun entry => (mergedGroup entry).weight true + targetWeight) := by
    induction entries with
    | nil => exact Nat.le_refl _
    | cons entry rest ih =>
      have := own entry
      rw [List.length_cons, List.map_cons, weightSum, Nat.mul_succ]
      omega
  match entries with
  | [] => exact Nat.zero_le _
  | [entry] => exact own entry
  | first :: second :: rest =>
    rw [weight_merged_choice]
    exact Nat.le_trans (all _) (Nat.le_add_right _ _)

theorem weight_choice_le (forward : Bool) {front : List (String × Pattern)} (occupied : front ≠ [])
    (back : List (String × Pattern)) :
    (Node.choice (front.map groupNode)).merged.weight forward ≤
      (Node.choice ((front ++ back).map groupNode)).merged.weight forward := by
  match front, back with
  | [entry], [] => exact Nat.le_refl _
  | [entry], next :: back =>
    have alone : (Node.choice ([entry].map groupNode)).merged.weight forward =
        (mergedGroup entry).weight forward := rfl
    rw [alone, List.singleton_append, weight_merged_choice, List.map_cons, weightSum]
    omega
  | first :: second :: front, back =>
    rw [List.cons_append, List.cons_append, weight_merged_choice, weight_merged_choice,
      ← List.cons_append, ← List.cons_append, List.map_append, weightSum_append]
    omega

theorem fits_choice {front back : List (String × Pattern)} (occupied : front ≠ [])
    (fits : (Node.choice ((front ++ back).map groupNode)).fits = true) :
    (Node.choice (front.map groupNode)).fits = true := by
  have ahead := weight_choice_le true occupied back
  have backwards := weight_choice_le false occupied back
  simp only [Node.fits, Bool.and_eq_true, decide_eq_true_eq] at fits ⊢
  omega

theorem compile_empty : compile "" = .ok ⟨"", .empty⟩ := by
  have read : parse [] = .ok .empty := by
    rw [parse, bind_of_ok (run_nil (b := .start) rfl)]
    rfl
  have compiled : compileChars [] = .ok .empty :=
    compileChars_eq_ok.mpr ⟨.empty, {}, read, List.nodup_nil, Nat.zero_le _, rfl, by decide⟩
  rw [compile, String.toList_empty, compiled]

/-- What it takes to join patterns: all groups have names of their own, and the whole keeps the limits of depth
and weight. Each pattern stands in a group, and several groups in a choice. -/
structure Joins (entries : List (String × Pattern)) : Prop where
  unique : (entries.flatMap fun entry => entry.1 :: entry.2.tree.groupNames).Nodup
  shallow : ∀ entry ∈ entries, entry.2.tree.depth + (if entries.length ≤ 1 then 1 else 2) ≤ nestLimit
  fits : (Node.choice (entries.map groupNode)).fits = true

instance (entries : List (String × Pattern)) : Decidable (Joins entries) :=
  decidable_of_iff ((entries.flatMap fun entry => entry.1 :: entry.2.tree.groupNames).Nodup ∧
      (∀ entry ∈ entries, entry.2.tree.depth + (if entries.length ≤ 1 then 1 else 2) ≤ nestLimit) ∧
      (Node.choice (entries.map groupNode)).fits = true)
    ⟨fun ⟨unique, shallow, fits⟩ => ⟨unique, shallow, fits⟩,
      fun joins => ⟨joins.unique, joins.shallow, joins.fits⟩⟩

theorem depth_joined_le {entries : List (String × Pattern)} (occupied : entries ≠ []) {limit : Nat} :
    (Ast.ofBranches (entries.map groupTree)).depth ≤ limit ↔
      ∀ entry ∈ entries, entry.2.tree.depth + (if entries.length ≤ 1 then 1 else 2) ≤ limit := by
  have each (outer : Nat) (above : outer ≤ 1) :
      Ast.depth.depthAll (entries.map groupTree) + outer ≤ limit ↔
        ∀ entry ∈ entries, entry.2.tree.depth + (1 + outer) ≤ limit := by
    obtain ⟨first, rest, rfl⟩ := List.exists_cons_of_ne_nil occupied
    by_cases room : outer ≤ limit
    · rw [← Nat.le_sub_iff_add_le room, depthAll_le, List.forall_mem_map]
      refine forall₂_congr fun entry _ => ?_
      rw [groupTree, Ast.depth, Nat.le_sub_iff_add_le room, Nat.add_assoc]
    · simp only [List.forall_mem_cons]
      omega
  rw [depth_ofBranches, List.length_map]
  split
  · exact each 0 (by omega)
  · exact each 1 (by omega)

theorem compile_joined_iff {entries : List (String × Pattern)}
    (joinable : ∀ entry ∈ entries, Joinable entry) :
    (∃ p, compile (joined entries) = .ok p) ↔ Joins entries := by
  by_cases occupied : entries = []
  · subst occupied
    exact ⟨fun _ => by decide, fun _ => ⟨_, compile_empty⟩⟩
  · have names : (Ast.ofBranches (entries.map groupTree)).groupNames =
        entries.flatMap fun entry => entry.1 :: entry.2.tree.groupNames := by
      rw [groupNames_ofBranches, List.flatMap_map]
      rfl
    have compiles : (∃ p, compile (joined entries) = .ok p) ↔
        ∃ node, compileChars (joined entries).toList = .ok node := by
      unfold compile
      cases compileChars (joined entries).toList <;> simp
    rw [compiles]
    simp only [compileChars_eq_ok, parse_joined occupied joinable]
    constructor
    · rintro ⟨node, ast, flags, read, unique, shallow, means, fits⟩
      obtain rfl := Except.ok.inj read
      rw [nodeOf_ofBranches, alternatives_groupTree joinable] at means
      obtain ⟨rfl, -⟩ := Prod.mk.inj (Except.ok.inj means)
      exact ⟨names ▸ unique, (depth_joined_le occupied).mp shallow, fits⟩
    · intro joins
      refine ⟨_, _, {}, rfl, names ▸ joins.unique, (depth_joined_le occupied).mpr joins.shallow, ?_, joins.fits⟩
      rw [nodeOf_ofBranches, alternatives_groupTree joinable]

theorem Joins.front {front back : List (String × Pattern)} (joins : Joins (front ++ back)) :
    Joins front := by
  by_cases empty : front = []
  · subst empty
    decide
  · refine ⟨?_, fun entry member => ?_, fits_choice empty joins.fits⟩
    · have unique := joins.unique
      rw [List.flatMap_append] at unique
      exact (List.nodup_append.mp unique).1
    · have shallow := joins.shallow entry (List.mem_append_left _ member)
      rw [List.length_append] at shallow
      split <;> split at shallow <;> omega

end Foldmark.Pattern
