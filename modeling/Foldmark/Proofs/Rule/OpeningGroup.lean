import Mathlib.Data.List.Nodup
import Foldmark.Proofs.Pattern.Extent
import Foldmark.Proofs.Rule.Master

/-! The groups of an opening marker among the groups of all markers. They are counted from the group around
the marker, which is known by its name, so a group that a pattern names itself can stand in its way:
more names tell an opening marker than are given to them. -/
namespace Foldmark

namespace CompiledRule

theorem roles_nodup (r : CompiledRule) : r.roles.Nodup := by
  unfold roles alternatives
  split
  · simp
  · rename_i middle closing _ _ _
    cases middle <;> by_cases nested : r.nested = true <;> simp [nested]
  · simp
  · simp

end CompiledRule

namespace Candidate

theorem ofRules_pairwise (rules : List CompiledRule) :
    (ofRules rules).Pairwise fun a b => a.rule < b.rule ∨ a.rule = b.rule ∧ a.role ≠ b.role := by
  refine List.pairwise_flatten.mpr ⟨fun part member => ?_, ?_⟩
  · obtain ⟨rule, bound, rfl⟩ := List.mem_mapIdx.mp member
    refine List.pairwise_map.mpr ((List.pairwise_map.mp rules[rule].roles_nodup).imp ?_)
    intro first second different
    exact .inr ⟨rfl, different⟩
  · refine List.pairwise_iff_getElem.mpr fun i j hi hj earlier a inFirst b inSecond => ?_
    simp only [List.getElem_mapIdx] at inFirst inSecond
    obtain ⟨first, -, rfl⟩ := List.mem_map.mp inFirst
    obtain ⟨second, -, rfl⟩ := List.mem_map.mp inSecond
    exact .inl earlier

theorem opening_unique {r : CompiledRule} {p q : Pattern} (first : (.opening, p) ∈ r.alternatives)
    (second : (.opening, q) ∈ r.alternatives) : p = q := by
  have same := List.inj_on_of_nodup_map r.roles_nodup first second rfl
  exact congrArg Prod.snd same

end Candidate

namespace Pattern

theorem groupCount_le (p : Pattern) : p.groupCount ≤ p.node.groupCount := by
  have shorter := (List.dropWhile_suffix (fun group => Option.isNone group)
    (l := p.node.groups.reverse)).length_le
  rwa [List.length_reverse, Node.length_groups] at shorter

theorem Found.group?_inside {found own : Found} {before after : List (Option Span)} {span : Span}
    (groups : found.groups = before ++ some span :: (own.groups ++ after)) {number : Nat}
    (positive : 1 ≤ number) (bound : number ≤ own.groups.length) :
    found.group? (before.length + 1 + number) = own.group? number := by
  obtain ⟨index, rfl⟩ := Nat.exists_eq_add_of_le' positive
  have inner : found.groups[before.length + 1 + index]? = own.groups[index]? := by
    rw [groups, List.getElem?_append_right (by omega),
      show before.length + 1 + index - before.length = index + 1 by omega, List.getElem?_cons_succ,
      List.getElem?_append_left (by omega)]
  show (found.groups[before.length + 1 + index]?).join = (own.groups[index]?).join
  rw [inner]

end Pattern

namespace Master

open Candidate

variable {m : Master} {before after : List Candidate} {a : Candidate} {count : Nat}

/-- The last group whose name tells the opening marker of a rule is the one around the marker, if no
name in it or behind it tells that marker. -/
theorem openingNumber?_eq (groups : m.groups = groupsOf count (namesOf (before ++ a :: after)))
    (role : a.role = .opening) (bound : a.rule < count) (words : count < Range.wordSize)
    (unclaimed : ∀ name, some name ∈ a.pattern.groupNames ++ namesOf after →
      MasterGroup.ofName? name ≠ some (.opening, a.rule)) :
    m.openingNumber? a.rule = some ((namesOf before).length + 1) := by
  have told := MasterGroup.ofName?_name a.role (Nat.lt_trans bound words)
  obtain ⟨others, split, origin⟩ :=
    groupsOf_append count (namesOf before) (a.pattern.groupNames ++ namesOf after) told bound
  have refused : others.reverse.find?
      (fun group => decide (group.role = .opening) && decide (group.rule = a.rule)) = none := by
    refine List.find?_eq_none.mpr fun group member => ?_
    obtain ⟨name, inside, tells⟩ := origin group (List.mem_reverse.mp member)
    have other := unclaimed name inside
    rw [tells] at other
    simpa using other
  rw [namesOf_append] at groups
  rw [openingNumber?, List.findRev?_eq_find?_reverse, groups, split, List.reverse_append,
    List.reverse_cons, List.append_assoc, List.find?_append, refused, Option.none_or,
    List.singleton_append, List.find?_cons]
  simp [role]

/-- The groups inside the marker that decides a match cover what they cover in its own match. -/
theorem openingGroup?_eq {line : Line} {start : Nat} {found : MarkerMatch} {own : Pattern.Found}
    (node : m.pattern.node = choiceOf (before ++ a :: after))
    (searched : m.findAt line start = some found)
    (others : ∀ b ∈ before, b.pattern.node.matchAt line found.start = none)
    (matched : a.pattern.node.matchAt line found.start = some own)
    (base : m.openingNumber? found.rule = some ((namesOf before).length + 1))
    {number : Nat} (positive : 1 ≤ number) (few : number ≤ a.pattern.groupCount) :
    m.openingGroup? found number = own.group? number := by
  obtain ⟨-, below, whole, -⟩ := Pattern.Node.search_eq_some.mp (findAt_origin searched).1
  have counted := (Pattern.Node.matchAt_within below matched).counted
  have whole : m.pattern.node.matchAt line found.start = some found.found := whole
  rw [node, choiceOf_match others matched after] at whole
  have same := Pattern.Found.group?_inside
    (congrArg Pattern.Found.groups (Option.some.inj whole)).symm positive
    (counted ▸ Nat.le_trans few a.pattern.groupCount_le)
  rw [List.length_replicate] at same
  rw [openingGroup?, base]
  exact same

end Master

namespace RuleSet

variable {rules : List Rule} {m : Master}

/-- Whether no group in a pattern of a rule, or of those declared after it, has a name that tells the
opening marker of the rule. -/
def Unclaimed (set : RuleSet) (rule : Nat) : Prop :=
  ∀ a ∈ set.candidates, rule ≤ a.rule → ∀ name? ∈ a.pattern.groupNames,
    name?.bind MasterGroup.ofName? ≠ some (.opening, rule)

instance (set : RuleSet) (rule : Nat) : Decidable (Unclaimed set rule) :=
  inferInstanceAs (Decidable (∀ a ∈ set.candidates, rule ≤ a.rule → ∀ name? ∈ a.pattern.groupNames,
    name?.bind MasterGroup.ofName? ≠ some (.opening, rule)))

theorem unclaimed_after {before after : List Candidate} {a : Candidate}
    (split : (compile rules).candidates = before ++ a :: after) (role : a.role = .opening)
    (words : (compile rules).rules.length < Range.wordSize)
    (unclaimed : Unclaimed (compile rules) a.rule) {name : String}
    (h : some name ∈ a.pattern.groupNames ++ Master.namesOf after) :
    MasterGroup.ofName? name ≠ some (.opening, a.rule) := by
  have member : ∀ b ∈ a :: after, b ∈ (compile rules).candidates :=
    fun b inside => split ▸ List.mem_append_right _ inside
  rcases List.mem_append.mp h with own | later
  · exact unclaimed a (member a List.mem_cons_self) (Nat.le_refl _) _ own
  · obtain ⟨b, inside, named⟩ := List.mem_flatMap.mp later
    have ordered := Candidate.ofRules_pairwise (compile rules).rules
    rw [← candidates, split, List.pairwise_append] at ordered
    have behind := List.rel_of_pairwise_cons ordered.2.1 inside
    rcases List.mem_cons.mp named with around | within
    · obtain ⟨r, known, -⟩ := Candidate.mem_ofRules.mp (member b (List.mem_cons_of_mem _ inside))
      have bound := (List.getElem?_eq_some_iff.mp known).1
      cases around
      rw [MasterGroup.ofName?_name b.role (Nat.lt_trans bound words)]
      intro same
      simp only [Option.some.injEq, Prod.mk.injEq] at same
      rcases behind with later | ⟨-, different⟩
      · omega
      · exact different (role.trans same.1.symm)
    · exact unclaimed b (member b (List.mem_cons_of_mem _ inside)) (by omega) _ within

/-- The groups of an opening marker cover what they cover when the marker is looked for alone where it
was found, whatever groups and names the patterns have, as long as none switches the verbose flag on
and no name behind the marker tells the marker itself. -/
theorem openingGroup?_agrees (combined : (compile rules).master = some m)
    (free : ∀ a ∈ (compile rules).candidates, a.pattern.verboseFree = true)
    {line : Line} {start : Nat} {found : MarkerMatch} (searched : m.findAt line start = some found)
    (role : found.role = .opening) (unclaimed : Unclaimed (compile rules) found.rule)
    {r : CompiledRule} (known : (compile rules).rules[found.rule]? = some r) {opening : Pattern}
    (marker : (.opening, opening) ∈ r.alternatives) :
    ∃ own, opening.find? line found.start = some own ∧ own.start = found.start ∧
      own.stop = found.stop ∧ ∀ number, 1 ≤ number → number ≤ opening.groupCount →
        m.openingGroup? found number = own.group? number := by
  obtain ⟨occupied, built⟩ := compile_master combined
  obtain ⟨node, groups, words⟩ := Master.build_choice built occupied (fun a => compile_candidates) free
  rcases Master.findAt_cases built occupied (fun a => compile_candidates) free line start with
    ⟨nothing, -⟩ | ⟨before, a, after, other, own, reported, rule, sameRole, stop, split, matched,
      others, above, below, -⟩
  · cases nothing.symm.trans searched
  · cases reported.symm.trans searched
    have member : a ∈ Candidate.ofRules (compile rules).rules := by simp [split]
    obtain ⟨r', known', inside⟩ := Candidate.mem_ofRules.mp member
    have bound := (List.getElem?_eq_some_iff.mp known').1
    rw [← rule, known] at known'
    cases known'
    rw [← sameRole, role] at inside
    obtain rfl := Candidate.opening_unique inside marker
    have ownRole : a.role = .opening := sameRole.symm.trans role
    have ownStart := Pattern.Node.matchAt_start matched
    have ownSearch : a.pattern.find? line found.start = some own := by
      rw [Pattern.find?, Pattern.Node.search_eq_some, ownStart]
      exact ⟨Nat.le_refl _, below, matched, fun place above below => by omega⟩
    have base : m.openingNumber? a.rule = some ((Master.namesOf before).length + 1) := by
      refine Master.openingNumber?_eq ?_ ownRole bound words fun name inner =>
        unclaimed_after split ownRole words (rule ▸ unclaimed) inner
      rw [groups, ← split, ← Master.groups_choiceOf, ← node]
      rfl
    exact ⟨own, ownSearch, ownStart, stop.symm, fun number positive few =>
      Master.openingGroup?_eq (split ▸ node) searched others matched (rule ▸ base) positive few⟩

/-- Two rules, where the name of a group in the first is read as that of the second's opening marker. -/
def lookalikeRules : List Rule :=
  [.ofPatterns "(?P<__fold_begin_01>a)(b)" "c", .ofPatterns "<(div|ul)>" "(?s)</\\1>"]

set_option maxRecDepth 100000 in
/-- A lookalike of the name in an earlier rule does no harm. -/
theorem openingGroup?_agrees_behind_lookalike :
    ∃ m found r opening own, (compile lookalikeRules).master = some m ∧
      m.findAt (.ofString "<div>") 0 = some found ∧ found.role = .opening ∧
      Unclaimed (compile lookalikeRules) found.rule ∧
      (compile lookalikeRules).rules[found.rule]? = some r ∧ (.opening, opening) ∈ r.alternatives ∧
      opening.find? (Line.ofString "<div>") found.start = some own ∧
      m.openingGroup? found 1 = own.group? 1 ∧ m.openingGroup? found 1 = some ⟨1, 4⟩ := by
  have evaluated : (∀ a ∈ (compile lookalikeRules).candidates, a.pattern.verboseFree = true) ∧
      ∃ m ∈ (compile lookalikeRules).master, ∃ found ∈ m.findAt (.ofString "<div>") 0,
        found.role = .opening ∧ m.openingGroup? found 1 = some ⟨1, 4⟩ ∧
        Unclaimed (compile lookalikeRules) found.rule ∧
        ∃ r ∈ (compile lookalikeRules).rules[found.rule]?, ∃ a ∈ r.alternatives,
          a.1 = .opening ∧ 1 ≤ a.2.groupCount := by decide +kernel
  obtain ⟨free, m, combined, found, searched, role, covered, unclaimed, r, known, ⟨_, opening⟩, marker,
    rfl, counted⟩ := evaluated
  obtain ⟨own, alone, -, -, agrees⟩ :=
    openingGroup?_agrees combined free searched role unclaimed known marker
  exact ⟨m, found, r, opening, own, combined, searched, role, unclaimed, known, marker, alone,
    agrees 1 (Nat.le_refl _) counted, covered⟩

/-- A rule in whose opening marker a group has a name that is read as that of the marker. -/
def claimingRules : List Rule := [.ofPatterns "(?P<__fold_begin_00>a)(b)" "c"]

set_option maxRecDepth 100000 in
/-- The groups of that marker are counted from the wrong one. -/
theorem openingGroup?_claimed :
    ∃ m ∈ (compile claimingRules).master, ∃ found ∈ m.findAt (.ofString "ab") 0,
      found.role = .opening ∧ ∃ r ∈ (compile claimingRules).rules[found.rule]?, r.shape = .paired ∧
      ∃ a ∈ r.alternatives, a.1 = .opening ∧ 1 ≤ a.2.groupCount ∧
      ∃ own ∈ a.2.find? (Line.ofString "ab") found.start, own.start = found.start ∧
        m.openingGroup? found 1 ≠ own.group? 1 := by
  decide +kernel

end RuleSet

end Foldmark
