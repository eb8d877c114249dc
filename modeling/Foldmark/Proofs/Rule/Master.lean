import Mathlib.Algebra.BigOperators.Group.List.Basic
import Foldmark.Proofs.Pattern.Beginning
import Foldmark.Proofs.Rule.Compiled
import Foldmark.Proofs.Rule.GroupName

/-! One search for the markers of all rules. As long as no marker switches the verbose flag on, the
search finds what the markers find one by one: the first place where any of them matches, the first
of those that match there, and its own match. -/
namespace Foldmark

/-- A marker of a rule in a list, which is known by its position. -/
structure Candidate where
  rule : Nat
  role : Role
  pattern : Pattern

namespace Candidate

/-- The markers that are looked for, in the order in which they are declared. -/
def ofRules (rules : List CompiledRule) : List Candidate :=
  (rules.mapIdx fun rule r => r.alternatives.map fun (role, p) => ⟨rule, role, p⟩).flatten

def entry (a : Candidate) : String × Pattern := (MasterGroup.name a.role a.rule, a.pattern)

theorem mem_ofRules {rules : List CompiledRule} {a : Candidate} :
    a ∈ ofRules rules ↔ ∃ r, rules[a.rule]? = some r ∧ (a.role, a.pattern) ∈ r.alternatives := by
  simp only [ofRules, List.mem_flatten, List.mem_mapIdx]
  constructor
  · rintro ⟨_, ⟨rule, bound, rfl⟩, member⟩
    obtain ⟨⟨role, p⟩, inside, rfl⟩ := List.mem_map.mp member
    exact ⟨rules[rule], List.getElem?_eq_getElem bound, inside⟩
  · rintro ⟨r, known, inside⟩
    obtain ⟨bound, rfl⟩ := List.getElem?_eq_some_iff.mp known
    exact ⟨_, ⟨a.rule, bound, rfl⟩, List.mem_map.mpr ⟨_, inside, rfl⟩⟩

theorem sources_eq (rules : List CompiledRule) :
    "|".intercalate (Master.sources rules) = Pattern.joined ((ofRules rules).map entry) := by
  have same : rules.mapIdx (fun index r => r.alternatives.map fun (role, p) =>
      nameGroup (MasterGroup.name role index) p.source) =
      (rules.mapIdx fun rule r => r.alternatives.map fun (role, p) => (⟨rule, role, p⟩ : Candidate)).map
        fun part => part.map fun a => nameGroup a.entry.1 a.entry.2.source := by
    apply List.ext_getElem?
    intro index
    simp [entry, Function.comp_def]
  rw [Master.sources, Pattern.joined, ofRules, same, List.map_map, List.map_flatten]
  rfl

theorem length_ofRules (rules : List CompiledRule) : rules.length ≤ (ofRules rules).length := by
  have counted := List.length_le_sum_of_one_le
    ((rules.mapIdx fun rule r => r.alternatives.map fun (role, p) =>
      (⟨rule, role, p⟩ : Candidate)).map List.length) ?_
  · rwa [List.length_map, List.length_mapIdx, ← List.length_flatten] at counted
  · intro count member
    obtain ⟨part, isPart, rfl⟩ := List.mem_map.mp member
    obtain ⟨rule, bound, rfl⟩ := List.mem_mapIdx.mp isPart
    rw [List.length_map]
    exact List.length_pos_iff.mpr rules[rule].alternatives_ne_nil

theorem ofRules_ne_nil {rules : List CompiledRule} (occupied : rules ≠ []) : ofRules rules ≠ [] := by
  have := length_ofRules rules
  have := List.length_pos_iff.mpr occupied
  rw [← List.length_pos_iff]
  omega

end Candidate

namespace Master

variable {rules : List CompiledRule} {m : Master}

open Candidate

def choiceOf (candidates : List Candidate) : Pattern.Node :=
  .choice (candidates.map fun a => Pattern.groupNode a.entry)

/-- The pattern of some rules is a choice between their markers, and a word holds the number of every
rule. -/
theorem build_choice (built : build rules = .ok m) (occupied : rules ≠ [])
    (compiles : ∀ a ∈ ofRules rules, a.pattern.Compiles)
    (free : ∀ a ∈ ofRules rules, a.pattern.verboseFree = true) :
    m.pattern.node = choiceOf (ofRules rules) ∧
      m.groups = groupsOf rules.length m.pattern.groupNames ∧ rules.length < Range.wordSize := by
  obtain ⟨pattern, compiled, rfl⟩ := build_groups built
  rw [sources_eq] at compiled
  have length := length_ofRules rules
  have entries : (ofRules rules).map entry ≠ [] := by simpa using ofRules_ne_nil occupied
  have joinable : ∀ e ∈ (ofRules rules).map entry, Pattern.Joinable e := by
    intro e member
    obtain ⟨a, inside, rfl⟩ := List.mem_map.mp member
    exact ⟨MasterGroup.validName a.role a.rule, compiles a inside, free a inside⟩
  obtain ⟨node, fits⟩ := Pattern.compile_joined entries joinable compiled
  refine ⟨by rw [node, List.map_map]; rfl, rfl, ?_⟩
  have weight := Pattern.weight_choice ((ofRules rules).map entry)
  rw [← node, List.length_map] at weight
  simp only [Pattern.Node.fits, Bool.and_eq_true, decide_eq_true_eq] at fits
  have : Pattern.sizeLimit < Range.wordSize := by decide
  have : 1 ≤ 2 * Pattern.stateWeight := by decide
  have : (ofRules rules).length ≤ 2 * Pattern.stateWeight * (ofRules rules).length :=
    Nat.le_mul_of_pos_left _ (by decide)
  omega

/-- A name that tells a marker makes a group, and every group after it is made from a later name. -/
theorem groupsOf_append (count : Nat) (before after : List (Option String)) {name : String}
    {role : Role} {rule : Nat} (told : MasterGroup.ofName? name = some (role, rule))
    (bound : rule < count) :
    ∃ others, groupsOf count (before ++ some name :: after) =
        groupsOf count before ++ ⟨before.length + 1, role, rule⟩ :: others ∧
      ∀ group ∈ others, ∃ other, some other ∈ after ∧
        MasterGroup.ofName? other = some (group.role, group.rule) := by
  unfold groupsOf
  rw [List.mapIdx_append, List.filterMap_append, List.mapIdx_cons, List.filterMap_cons]
  simp only [Option.bind_eq_bind, Option.bind_some, told, if_pos bound, id, Nat.zero_add]
  refine ⟨_, rfl, fun group member => ?_⟩
  obtain ⟨named, isNamed, rfl⟩ := List.mem_filterMap.mp member
  obtain ⟨index, inside, equal⟩ := List.mem_mapIdx.mp isNamed
  simp only [Option.bind_eq_some_iff] at equal
  obtain ⟨other, own, ⟨role, rule⟩, told, equal⟩ := equal
  split at equal
  · cases equal
    exact ⟨other, own ▸ List.getElem_mem inside, told⟩
  · cases equal

theorem find?_groupsOf (count : Nat) (before after : List (Option String)) {name : String}
    {role : Role} {rule : Nat} (told : MasterGroup.ofName? name = some (role, rule))
    (bound : rule < count) {found : Pattern.Found} {span : Pattern.Span}
    {more : List (Option Pattern.Span)}
    (groups : found.groups = List.replicate before.length none ++ some span :: more) :
    (groupsOf count (before ++ some name :: after)).find?
      (fun group => (found.group? group.number).isSome) = some ⟨before.length + 1, role, rule⟩ := by
  obtain ⟨later, split, -⟩ := groupsOf_append count before after told bound
  have own : (found.group? (before.length + 1)).isSome = true := by
    simp [Pattern.Found.group?, groups]
  have others : (groupsOf count before).find?
      (fun group => (found.group? group.number).isSome) = none := by
    refine List.find?_eq_none.mpr fun group member => ?_
    obtain ⟨-, positive, bound⟩ := mem_groupsOf member
    obtain ⟨index, number⟩ := Nat.exists_eq_succ_of_ne_zero (Nat.ne_of_gt positive)
    have inside : index < before.length := by omega
    have absent : (List.replicate before.length none ++ some span :: more)[index]? = some none := by
      rw [List.getElem?_append_left (by simpa using inside), List.getElem?_replicate, if_pos inside]
    simp [Pattern.Found.group?, number, groups, absent]
  simp only [split, List.find?_append, others, Option.none_or, List.find?_cons, own]

theorem first_match (candidates : List Candidate) (line : Line) (place : Nat) :
    (∀ a ∈ candidates, a.pattern.node.matchAt line place = none) ∨
    ∃ before a after own, candidates = before ++ a :: after ∧
      (∀ b ∈ before, b.pattern.node.matchAt line place = none) ∧
      a.pattern.node.matchAt line place = some own := by
  induction candidates with
  | nil => exact .inl (by simp)
  | cons a rest ih =>
    cases here : a.pattern.node.matchAt line place with
    | some own => exact .inr ⟨[], a, rest, own, rfl, by simp, here⟩
    | none =>
      rcases ih with nowhere | ⟨before, b, after, own, rfl, others, matched⟩
      · exact .inl (List.forall_mem_cons.mpr ⟨here, nowhere⟩)
      · exact .inr ⟨a :: before, b, after, own, rfl, List.forall_mem_cons.mpr ⟨here, others⟩, matched⟩

/-- The names of the groups of some markers: of the group around each marker, and of those in it. -/
def namesOf (candidates : List Candidate) : List (Option String) :=
  candidates.flatMap fun a => some (MasterGroup.name a.role a.rule) :: a.pattern.groupNames

theorem namesOf_append (before : List Candidate) (a : Candidate) (after : List Candidate) :
    namesOf (before ++ a :: after) = namesOf before ++
      some (MasterGroup.name a.role a.rule) :: (a.pattern.groupNames ++ namesOf after) := by
  simp [namesOf]

theorem groups_choiceOf (candidates : List Candidate) :
    (choiceOf candidates).groups.map Option.join = namesOf candidates := by
  simp [choiceOf, Pattern.Node.groups_choice, namesOf, Pattern.groupNode, entry,
    Pattern.Node.groups, Pattern.groupNames, List.map_flatMap, List.flatMap_map]

theorem length_groups_flatMap (candidates : List Candidate) :
    ((candidates.map fun a => Pattern.groupNode a.entry).flatMap Pattern.Node.groups).length =
      (namesOf candidates).length := by
  rw [← groups_choiceOf, List.length_map, choiceOf, Pattern.Node.groups_choice]

/-- The first marker that matches decides the match: its group is the first to take part, and the groups
in it cover what they cover when the marker is looked for alone. -/
theorem choiceOf_match {before : List Candidate} {a : Candidate} {line : Line} {place : Nat}
    {own : Pattern.Found} (others : ∀ b ∈ before, b.pattern.node.matchAt line place = none)
    (matched : a.pattern.node.matchAt line place = some own) (after : List Candidate) :
    (choiceOf (before ++ a :: after)).matchAt line place = some ⟨own.start, own.stop,
      List.replicate (namesOf before).length none ++ some ⟨own.start, own.stop⟩ ::
        (own.groups ++ List.replicate (namesOf after).length none)⟩ := by
  have refused : ∀ node ∈ before.map (fun b => Pattern.groupNode b.entry),
      node.matchAt line place = none := by
    intro node member
    obtain ⟨b, inside, rfl⟩ := List.mem_map.mp member
    simp [Pattern.groupNode, Pattern.Node.matchAt_group, entry, others b inside]
  have group : (Pattern.groupNode a.entry).matchAt line place =
      some ⟨own.start, own.stop, some ⟨own.start, own.stop⟩ :: own.groups⟩ := by
    simp [Pattern.groupNode, Pattern.Node.matchAt_group, entry, matched]
  have chosen := Pattern.Node.choice_eq_some refused group
    (after.map fun b => Pattern.groupNode b.entry)
  rw [length_groups_flatMap, length_groups_flatMap] at chosen
  rw [choiceOf, List.map_append, List.map_cons, chosen]
  simp [Pattern.Found.pad]

/-- A match is reported for the first marker that matches where it begins, and ends as that marker's
own match there. -/
theorem findAt_first {before after : List Candidate} {a : Candidate} {count : Nat}
    {line : Line} {start : Nat} {found own : Pattern.Found}
    (node : m.pattern.node = choiceOf (before ++ a :: after))
    (groups : m.groups = groupsOf count m.pattern.groupNames) (bound : a.rule < count)
    (words : count < Range.wordSize) (searched : m.pattern.find? line start = some found)
    (others : ∀ b ∈ before, b.pattern.node.matchAt line found.start = none)
    (matched : a.pattern.node.matchAt line found.start = some own) :
    m.findAt line start = some ⟨a.role, a.rule, found⟩ ∧ found.stop = own.stop := by
  obtain ⟨-, -, here, -⟩ := Pattern.Node.search_eq_some.mp searched
  rw [node, choiceOf_match others matched after] at here
  have group := find?_groupsOf count (namesOf before) (a.pattern.groupNames ++ namesOf after)
    (MasterGroup.ofName?_name a.role (Nat.lt_trans bound words)) bound
    (congrArg Pattern.Found.groups (Option.some.inj here)).symm
  rw [← namesOf_append, ← groups_choiceOf, ← node] at group
  refine ⟨by simp [findAt, searched, groups, Pattern.groupNames, group], ?_⟩
  exact (congrArg Pattern.Found.stop (Option.some.inj here)).symm

theorem findAt_cases (built : build rules = .ok m) (occupied : rules ≠ [])
    (compiles : ∀ a ∈ ofRules rules, a.pattern.Compiles)
    (free : ∀ a ∈ ofRules rules, a.pattern.verboseFree = true) (line : Line) (start : Nat) :
    (m.findAt line start = none ∧ ∀ a ∈ ofRules rules, a.pattern.find? line start = none) ∨
    ∃ before a after found own, m.findAt line start = some found ∧
      found.rule = a.rule ∧ found.role = a.role ∧ found.stop = own.stop ∧
      ofRules rules = before ++ a :: after ∧
      a.pattern.node.matchAt line found.start = some own ∧
      (∀ b ∈ before, b.pattern.node.matchAt line found.start = none) ∧
      start ≤ found.start ∧ found.start ≤ line.size ∧
      ∀ b ∈ ofRules rules, ∀ place, start ≤ place → place < found.start →
        b.pattern.node.matchAt line place = none := by
  obtain ⟨node, groups, words⟩ := build_choice built occupied compiles free
  have parts : (ofRules rules).map (fun a => Pattern.groupNode a.entry) ≠ [] := by
    simpa using ofRules_ne_nil occupied
  have nowhere (place : Nat) : m.pattern.node.matchAt line place = none ↔
      ∀ a ∈ ofRules rules, a.pattern.node.matchAt line place = none := by
    rw [node, choiceOf, Pattern.Node.choice_eq_none parts]
    simp [Pattern.groupNode, Pattern.Node.matchAt_group, entry]
  cases searched : m.pattern.find? line start with
  | none =>
    refine .inl ⟨by simp [findAt, searched], fun a member => ?_⟩
    rw [Pattern.find?, Pattern.Node.search_eq_none] at searched ⊢
    exact fun place above below => (nowhere place).mp (searched place above below) a member
  | some found =>
    obtain ⟨above, below, matched, earlier⟩ := Pattern.Node.search_eq_some.mp searched
    rcases first_match (ofRules rules) line found.start with refused |
      ⟨before, a, after, own, split, others, ownMatch⟩
    · rw [(nowhere found.start).mpr refused] at matched
      cases matched
    · have member : a ∈ ofRules rules := by simp [split]
      obtain ⟨r, known, -⟩ := mem_ofRules.mp member
      have bound := (List.getElem?_eq_some_iff.mp known).1
      obtain ⟨reported, stop⟩ :=
        findAt_first (split ▸ node) groups bound words searched others ownMatch
      exact .inr ⟨before, a, after, _, own, reported, rfl, rfl, stop, split, ownMatch, others, above,
        below, fun b inside place above below => (nowhere place).mp (earlier place above below) b inside⟩

end Master

namespace RuleSet

/-- The markers of the rules of a set, in the order in which they are declared. -/
def candidates (set : RuleSet) : List Candidate := Candidate.ofRules set.rules

theorem compile_candidates {rules : List Rule} {a : Candidate} (member : a ∈ (compile rules).candidates) :
    a.pattern.Compiles := by
  obtain ⟨c, known, inside⟩ := Candidate.mem_ofRules.mp member
  obtain ⟨r, -, compiled⟩ := compile_origin (List.mem_of_getElem? known)
  exact Rule.compile_alternatives compiled inside

/-- What the search for the markers of all rules reports: the first place where any of them matches, and the
first of those that match there. -/
structure Reports (set : RuleSet) (text : Line) (place : Nat) (found : MarkerMatch) (a : Candidate)
    (own : Pattern.Found) : Prop where
  rule : found.rule = a.rule
  role : found.role = a.role
  stop : found.stop = own.stop
  matched : a.pattern.node.matchAt text found.start = some own
  first : ∃ before after, set.candidates = before ++ a :: after ∧
    ∀ b ∈ before, b.pattern.node.matchAt text found.start = none
  above : place ≤ found.start
  below : found.start ≤ text.size
  earlier : ∀ b ∈ set.candidates, ∀ further, place ≤ further → further < found.start →
    b.pattern.node.matchAt text further = none

namespace Reports

variable {set : RuleSet} {text : Line} {place : Nat} {found : MarkerMatch} {a : Candidate}
  {own : Pattern.Found}

theorem mem (reports : Reports set text place found a own) : a ∈ set.candidates := by
  obtain ⟨before, after, split, -⟩ := reports.first
  simp [split]

theorem start (reports : Reports set text place found a own) : own.start = found.start :=
  Pattern.Node.matchAt_start reports.matched

theorem searched (reports : Reports set text place found a own) :
    a.pattern.find? text place = some own := by
  rw [Pattern.find?, Pattern.Node.search_eq_some, reports.start]
  exact ⟨reports.above, reports.below, reports.matched, reports.earlier a reports.mem⟩

theorem least (reports : Reports set text place found a own) {b : Candidate}
    (member : b ∈ set.candidates) {other : Pattern.Found}
    (searched : b.pattern.find? text place = some other) : found.start ≤ other.start :=
  Pattern.Node.le_start_of_search searched (reports.earlier b member)

end Reports

/-- The search for the markers of all rules fails where no marker matches, or reports one of them. -/
theorem compile_reports {rules : List Rule} {m : Master} (combined : (compile rules).master = some m)
    (free : ∀ a ∈ (compile rules).candidates, a.pattern.verboseFree = true) (text : Line) (place : Nat) :
    (m.findAt text place = none ∧ ∀ a ∈ (compile rules).candidates, a.pattern.find? text place = none) ∨
    ∃ found a own, m.findAt text place = some found ∧
      Reports (compile rules) text place found a own := by
  obtain ⟨occupied, built⟩ := compile_master combined
  rcases Master.findAt_cases built occupied (fun a => compile_candidates) free text place with
    nothing | ⟨before, a, after, found, own, reported, rule, role, stop, split, matched, others, above,
      below, earlier⟩
  · exact .inl nothing
  · exact .inr ⟨found, a, own, reported, rule, role, stop, matched, ⟨before, after, split, others⟩, above,
      below, earlier⟩

/-- The next marker of any rule of a set at or after a place. -/
def findAt (set : RuleSet) (line : Line) (start : Nat) : Option MarkerMatch :=
  set.master.bind fun m => m.findAt line start

/-- The search for the markers of all rules gives what looking for each of them alone gives. -/
structure Agrees (set : RuleSet) (line : Line) (start : Nat) : Prop where
  /-- The markers mean what they mean alone. -/
  alone : ∀ a ∈ set.candidates, Pattern.compile a.pattern.source = .ok a.pattern
  /-- Nothing is found just where no marker is found. -/
  fails : set.findAt line start = none ↔ ∀ a ∈ set.candidates, a.pattern.find? line start = none
  /-- What is found begins where the first match of any marker begins. -/
  least : ∀ found, set.findAt line start = some found → ∀ a ∈ set.candidates, ∀ own,
    a.pattern.find? line start = some own → found.start ≤ own.start
  /-- It is the match of the first marker, in the order of declaration, that matches there. -/
  first : ∀ found, set.findAt line start = some found → ∃ before a after own,
    set.candidates = before ++ a :: after ∧ a.rule = found.rule ∧ a.role = found.role ∧
    a.pattern.find? line start = some own ∧ own.start = found.start ∧ own.stop = found.stop ∧
    ∀ b ∈ before, ∀ other, b.pattern.find? line start = some other → found.start < other.start

/-- The search for the markers of all rules agrees with looking for them one by one, whatever groups,
names and flags they have, as long as none switches the verbose flag on. -/
theorem findAt_agrees (rules : List Rule)
    (free : ∀ a ∈ (compile rules).candidates, a.pattern.verboseFree = true)
    (line : Line) (start : Nat) : Agrees (compile rules) line start := by
  have alone : ∀ a ∈ (compile rules).candidates, a.pattern.Compiles :=
    fun a member => compile_candidates member
  cases combined : (compile rules).master with
  | none =>
    have nothing : (compile rules).findAt line start = none := by simp [findAt, combined]
    have empty : (compile rules).candidates = [] := by
      simp [candidates, compile_no_master combined, Candidate.ofRules]
    exact ⟨alone, by simp [nothing, empty], by simp [nothing], by simp [nothing]⟩
  | some m =>
    obtain ⟨occupied, built⟩ := compile_master combined
    have same : (compile rules).findAt line start = m.findAt line start := by simp [findAt, combined]
    rcases Master.findAt_cases built occupied (fun a => compile_candidates) free line start with
      ⟨nothing, nowhere⟩ | ⟨before, a, after, found, own, reported, rule, role, stop, split, matched,
        others, above, below, earlier⟩
    · rw [← same] at nothing
      exact ⟨alone, ⟨fun _ => nowhere, fun _ => nothing⟩, by simp [nothing], by simp [nothing]⟩
    · rw [← same] at reported
      have ownStart := Pattern.Node.matchAt_start matched
      have ownSearch : a.pattern.find? line start = some own := by
        rw [Pattern.find?, Pattern.Node.search_eq_some, ownStart]
        exact ⟨above, below, matched, earlier a (split ▸ by simp)⟩
      have least : ∀ b ∈ (compile rules).candidates, ∀ other,
          b.pattern.find? line start = some other → found.start ≤ other.start :=
        fun b member other searched =>
          Pattern.Node.le_start_of_search searched (earlier b member)
      refine ⟨alone, ?_, ?_, ?_⟩
      · simp only [reported, reduceCtorEq, false_iff]
        intro nowhere
        rw [nowhere a (by simp [candidates, split])] at ownSearch
        cases ownSearch
      · intro other equal
        rw [reported] at equal
        cases equal
        exact least
      · intro other equal
        rw [reported] at equal
        cases equal
        refine ⟨before, a, after, own, split, rule.symm, role.symm, ownSearch, ownStart, stop.symm,
          fun b member other searched => ?_⟩
        have inside : b ∈ (compile rules).candidates := by simp [candidates, split, member]
        exact Nat.lt_of_le_of_ne (least b inside other searched)
          (Pattern.Node.start_ne_of_search searched (others b member)).symm

set_option maxRecDepth 100000 in
/-- Alternatives and flags inside a marker do not disturb the search, nor does a group in it that has
the name of another rule's marker. -/
theorem findAt_agrees_beside_groups :
    (∀ a ∈ (compile [.ofPatterns "(?m)b|ab" "(?P<__fold_separator_1>c)", .ofTexts "a" "d"]).candidates,
      a.pattern.verboseFree = true) ∧
    Agrees (compile [.ofPatterns "(?m)b|ab" "(?P<__fold_separator_1>c)", .ofTexts "a" "d"])
      (.ofString "xcab") 0 ∧
    ((compile [.ofPatterns "(?m)b|ab" "(?P<__fold_separator_1>c)", .ofTexts "a" "d"]).findAt
      (.ofString "xcab") 0).map (fun found => (found.role, found.rule, found.start, found.stop)) =
        some (.closing, 0, 1, 2) := by
  have free : ∀ a ∈ (compile [.ofPatterns "(?m)b|ab" "(?P<__fold_separator_1>c)",
      .ofTexts "a" "d"]).candidates, a.pattern.verboseFree = true := by decide +kernel
  exact ⟨free, findAt_agrees _ free _ _, by decide +kernel⟩

end RuleSet

end Foldmark
