import Foldmark.Proofs.Pattern.GroupNames
import Foldmark.Proofs.Rule.Compiled
import Foldmark.Proofs.Rule.GroupName

/-! Rules that do not nest. Inside a block of such a rule only its own markers are looked for. Without a
middle marker this is a search for the closing one, which finds what that marker finds alone, whatever
flags it switches on. With one, the first of the two that matches is found, the middle marker before
the closing one, as long as neither switches the verbose flag on. What names the groups in them have
matters only where there is no middle marker: then a group with its name stands for one, and a rule
that has nothing to divide a block divides it. -/
namespace Foldmark

theorem unnestedMiddle_valid : Pattern.ValidName unnestedMiddle :=
  MasterGroup.validName_of_letters rfl (by decide)

theorem unnestedClosing_valid : Pattern.ValidName unnestedClosing :=
  MasterGroup.validName_of_letters rfl (by decide)

section Together

variable {middle closing p : Pattern} (compiles : middle.Compiles ∧ closing.Compiles)
  (free : middle.verboseFree = true ∧ closing.verboseFree = true)

include compiles free

theorem unnested_joinable :
    ∀ e ∈ [(unnestedMiddle, middle), (unnestedClosing, closing)], Pattern.Joinable e := by
  simp only [List.forall_mem_cons, List.not_mem_nil, false_implies, implies_true, and_true]
  exact ⟨⟨unnestedMiddle_valid, compiles.1, free.1⟩, ⟨unnestedClosing_valid, compiles.2, free.2⟩⟩

theorem unnested_alternatives (h : Pattern.compile (Rule.unnestedSource (some middle) closing) = .ok p) :
    p.node = .alt (Pattern.groupNode (unnestedMiddle, middle))
      (Pattern.groupNode (unnestedClosing, closing)) :=
  (Pattern.compile_joined (List.cons_ne_nil _ _) (unnested_joinable compiles free) h).1

/-- No group in the middle marker has the name of the group of the closing one, as the two would not compile
together. -/
theorem unnested_unnamed (h : Pattern.compile (Rule.unnestedSource (some middle) closing) = .ok p) :
    some unnestedClosing ∉ middle.groupNames := by
  intro member
  have joins := (Pattern.compile_joined_iff (unnested_joinable compiles free)).mp ⟨p, h⟩
  have inside := Pattern.mem_tree_groupNames compiles.1 member
  have unique := (List.nodup_append.mp joins.unique).2.2
  exact unique _ (List.mem_cons_of_mem _ inside) _ List.mem_cons_self rfl

end Together

namespace Pattern

theorem idxOf?_behind {name : Option String} {before after : List (Option String)}
    (new : name ∉ before) : (before ++ name :: after).idxOf? name = some before.length := by
  have nowhere : before.findIdx? (· == name) = none := List.idxOf?_eq_none_iff.mpr new
  simp [List.idxOf?, List.findIdx?_append, List.findIdx?_cons, nowhere]

/-- Two groups with names as alternatives: the one that takes part in a match is known by its name, and the
other one covers nothing. -/
theorem namedGroup?_alternatives {p first second : Pattern} {one two : String}
    (node : p.node = .alt (groupNode (one, first)) (groupNode (two, second)))
    (differ : one ≠ two) (unnamed : some two ∉ first.groupNames) {text : Array Char} {found : Found}
    (matched : p.node.matchAt text found.start = some found) :
    (∃ own, first.node.matchAt text found.start = some own ∧ found.stop = own.stop ∧
      p.namedGroup? found one = some ⟨found.start, found.stop⟩) ∨
    (first.node.matchAt text found.start = none ∧ p.namedGroup? found one = none ∧
      ∃ own, second.node.matchAt text found.start = some own ∧ found.stop = own.stop ∧
      p.namedGroup? found two = some ⟨found.start, found.stop⟩) := by
  have names : p.groupNames =
      (some one :: first.groupNames) ++ some two :: second.groupNames := by
    rw [groupNames, node]
    simp [Node.groups, groupNode, groupNames]
  have atFirst : p.groupNames.idxOf? (some one) = some 0 := by simp [names, List.idxOf?_cons]
  have atSecond : p.groupNames.idxOf? (some two) = some (first.groupNames.length + 1) := by
    rw [names, idxOf?_behind]
    · simp
    · simpa [differ.symm] using unnamed
  have count : first.groupNames.length = first.node.groupCount := by
    rw [groupNames, List.length_map, Node.length_groups]
  rw [node, Node.matchAt_alt] at matched
  simp only [groupNode, Node.matchAt_group, Node.groupCount] at matched
  cases here : first.node.matchAt text found.start with
  | some own =>
    simp only [here, Option.map_some, Option.some_or, Option.some.injEq] at matched
    refine .inl ⟨own, rfl, by rw [← matched]; rfl, ?_⟩
    rw [namedGroup?, atFirst, ← matched]
    rfl
  | none =>
    simp only [here, Option.map_none, Option.none_or, Option.map_map, Option.map_eq_some_iff,
      Function.comp_apply] at matched
    obtain ⟨own, matched, whole⟩ := matched
    refine .inr ⟨rfl, ?_, own, matched, by rw [← whole]; rfl, ?_⟩
    · rw [namedGroup?, atFirst, ← whole]
      simp [Found.group?, Found.pad, List.replicate_succ]
    · rw [namedGroup?, atSecond, count, ← whole]
      simp [Found.group?, Found.pad]

end Pattern

namespace Rule

theorem compileMatchers_whole {r : Rule} {m : Matchers} (compiled : r.compileMatchers = .ok m)
    (middle : r.middle.source? = none) (separator : r.separator.source? = none) :
    (∃ delimiter, m = .docstring delimiter) ∨ (∃ opening suffix, m = .continuation opening suffix) ∨
    ∃ opening closing unnested mirror, m = .paired opening none closing unnested mirror ∧
      (r.nested = true → unnested = none) := by
  unfold compileMatchers at compiled
  split at compiled
  · obtain ⟨delimiter, -, h⟩ := ok_of_bind compiled
    cases h
    exact .inl ⟨delimiter, rfl⟩
  · unfold compilePaired at compiled
    rw [middle] at compiled
    obtain ⟨opening, -, h⟩ := ok_of_bind compiled
    obtain ⟨⟨closing, mirror⟩, -, h⟩ := ok_of_bind h
    obtain ⟨_, absent, h⟩ := ok_of_bind h
    cases absent
    split at h
    · cases h
      exact .inr (.inr ⟨opening, closing, none, mirror, rfl, fun _ => rfl⟩)
    · rename_i single
      split at h
      · rename_i unnested together
        cases h
        exact .inr (.inr ⟨opening, closing, _, mirror, rfl, fun nests => absurd nests single⟩)
      · cases h
  · split at compiled
    · unfold compileContinuation at compiled
      obtain ⟨_, -, h⟩ := ok_of_bind compiled
      obtain ⟨opening, -, h⟩ := ok_of_bind h
      obtain ⟨suffix, -, h⟩ := ok_of_bind h
      cases h
      exact .inr (.inl ⟨opening, suffix, rfl⟩)
    · cases compiled
  · rw [separator] at compiled
    cases compiled
  · cases compiled

end Rule

namespace CompiledRule

/-- A rule that neither nests nor has a middle marker looks for its closing marker. Where a group in that has
the name that tells middle markers and takes part, it is reported in its place. -/
theorem findUnnested_single {r : Rule} {c : CompiledRule} (compiled : r.compile = .ok c)
    (alone : c.nested = false) {opening closing : Pattern} {unnested : Option Pattern}
    {mirror : Option Mirror} (matchers : c.matchers = .paired opening none closing unnested mirror)
    (text : Line) (place : Nat) :
    c.findUnnested text place = (closing.find? text place).map fun f =>
      match closing.namedGroup? f unnestedMiddle with
      | some span => ⟨.middle, span.start, span.stop⟩
      | none => ⟨.closing, f.start, f.stop⟩ := by
  obtain ⟨compiledMatchers, nested⟩ := Rule.compile_cases compiled
  rw [matchers] at compiledMatchers
  rcases Rule.compileMatchers_cases compiledMatchers with ⟨_, same, -⟩ | ⟨_, same, -⟩ |
    ⟨_, _, same, -⟩ | ⟨_, _, _, _, _, same, -, -, compiles, looks, together⟩
  · cases same
  · cases same
  · cases same
  · cases same
    obtain ⟨p, rfl⟩ := Option.isSome_iff_exists.mp (looks (nested ▸ alone))
    have node : p.node = .group (some unnestedClosing) closing.node :=
      Pattern.compile_named unnestedClosing_valid compiles (together p rfl)
    have names : p.groupNames = some unnestedClosing :: closing.groupNames := by
      rw [Pattern.groupNames, node]
      rfl
    have differ : unnestedClosing ≠ unnestedMiddle := by decide
    have searched : p.find? text place = (closing.find? text place).map fun f =>
        ⟨f.start, f.stop, some ⟨f.start, f.stop⟩ :: f.groups⟩ := by
      rw [Pattern.find?, node, Pattern.Node.search_group]
      rfl
    simp only [findUnnested, matchers, searched]
    cases closing.find? text place with
    | none => rfl
    | some f =>
      have whole : p.namedGroup? ⟨f.start, f.stop, some ⟨f.start, f.stop⟩ :: f.groups⟩ unnestedClosing =
          some ⟨f.start, f.stop⟩ := by
        simp [Pattern.namedGroup?, names, List.idxOf?_cons, Pattern.Found.group?]
      have inner : p.namedGroup? ⟨f.start, f.stop, some ⟨f.start, f.stop⟩ :: f.groups⟩ unnestedMiddle =
          closing.namedGroup? f unnestedMiddle := by
        simp only [Pattern.namedGroup?, names, List.idxOf?_cons]
        cases closing.groupNames.idxOf? (some unnestedMiddle) <;> simp [differ, Pattern.Found.group?]
      simp only [Option.map_some, Option.bind_eq_bind, Option.bind_some, inner, whole]
      cases closing.namedGroup? f unnestedMiddle <;> rfl

theorem findUnnested_closing {r : Rule} {c : CompiledRule} (compiled : r.compile = .ok c)
    (alone : c.nested = false) {opening closing : Pattern} {unnested : Option Pattern}
    {mirror : Option Mirror} (matchers : c.matchers = .paired opening none closing unnested mirror)
    (unnamed : some unnestedMiddle ∉ closing.groupNames) (text : Line) (place : Nat) :
    c.findUnnested text place =
      (closing.find? text place).map fun f => ⟨.closing, f.start, f.stop⟩ := by
  have untold (f : Pattern.Found) : closing.namedGroup? f unnestedMiddle = none := by
    rw [Pattern.namedGroup?, List.idxOf?_eq_none_iff.mpr unnamed]
    rfl
  simp only [findUnnested_single compiled alone matchers, untold]

/-- The markers that are looked for inside a block of a rule that does not nest, in the order in which they
are tried. -/
def inner (c : CompiledRule) : List (Role × Pattern) :=
  match c.matchers with
  | .paired _ middle closing _ _ => (middle.map fun p => (.middle, p)).toList ++ [(.closing, closing)]
  | _ => []

/-- What a search inside a block that does not nest reports: nothing where none of the markers matches, and
otherwise the first of the markers that match at the first place where any does. -/
def Finds (c : CompiledRule) (text : Line) (place : Nat) : Option UnnestedMatch → Prop
  | none => ∀ a ∈ c.inner, ∀ further, place ≤ further → further ≤ text.size →
      a.2.node.matchAt text further = none
  | some found => place ≤ found.start ∧ found.start ≤ text.size ∧
      (∃ before a after own, c.inner = before ++ a :: after ∧ found.role = a.1 ∧
        a.2.node.matchAt text found.start = some own ∧ found.stop = own.stop ∧
        ∀ b ∈ before, b.2.node.matchAt text found.start = none) ∧
      ∀ a ∈ c.inner, ∀ further, place ≤ further → further < found.start →
        a.2.node.matchAt text further = none

theorem finds_closing {c : CompiledRule} {closing : Pattern} (inner : c.inner = [(.closing, closing)])
    (text : Line) (place : Nat) :
    c.Finds text place ((closing.find? text place).map fun f => ⟨.closing, f.start, f.stop⟩) := by
  cases searched : closing.find? text place with
  | none =>
    intro a member further above below
    cases List.mem_singleton.mp (inner ▸ member)
    exact Pattern.Node.search_eq_none.mp searched further above below
  | some f =>
    obtain ⟨above, below, matched, earlier⟩ := Pattern.Node.search_eq_some.mp searched
    refine ⟨above, below, ⟨[], _, [], f, inner, rfl, matched, rfl, by simp⟩, fun a member => ?_⟩
    cases List.mem_singleton.mp (inner ▸ member)
    exact earlier

theorem findUnnested_pair {r : Rule} {c : CompiledRule} (compiled : r.compile = .ok c)
    (alone : c.nested = false) {opening middle closing : Pattern} {unnested : Option Pattern}
    {mirror : Option Mirror} (matchers : c.matchers = .paired opening (some middle) closing unnested mirror)
    (free : ∀ a ∈ c.inner, a.2.verboseFree = true) (text : Line) (place : Nat) :
    c.Finds text place (c.findUnnested text place) := by
  obtain ⟨compiledMatchers, nested⟩ := Rule.compile_cases compiled
  rw [matchers] at compiledMatchers
  rcases Rule.compileMatchers_cases compiledMatchers with ⟨_, same, -⟩ | ⟨_, same, -⟩ |
    ⟨_, _, same, -⟩ | ⟨_, _, _, _, _, same, -, compilesMiddle, compiles, looks, together⟩
  · cases same
  · cases same
  · cases same
  cases same
  have inner : c.inner = [(.middle, middle), (.closing, closing)] := by
    simp [CompiledRule.inner, matchers]
  have bothCompile : middle.Compiles ∧ closing.Compiles := ⟨compilesMiddle middle rfl, compiles⟩
  have bothFree : middle.verboseFree = true ∧ closing.verboseFree = true :=
    ⟨free (.middle, middle) (by simp [inner]), free (.closing, closing) (by simp [inner])⟩
  obtain ⟨p, rfl⟩ := Option.isSome_iff_exists.mp (looks (nested ▸ alone))
  have node := unnested_alternatives bothCompile bothFree (together p rfl)
  have unnamed := unnested_unnamed bothCompile bothFree (together p rfl)
  have nowhere (further : Nat) : p.node.matchAt text further = none →
      ∀ a ∈ c.inner, a.2.node.matchAt text further = none := by
    simp [node, inner, Pattern.Node.matchAt_alt, Pattern.groupNode, Pattern.Node.matchAt_group]
  simp only [findUnnested, matchers]
  cases searched : p.find? text place with
  | none =>
    intro a member further above below
    exact nowhere further (Pattern.Node.search_eq_none.mp searched further above below) a member
  | some f =>
    obtain ⟨above, below, matched, earlier⟩ := Pattern.Node.search_eq_some.mp searched
    have earlier : ∀ a ∈ c.inner, ∀ further, place ≤ further → further < f.start →
        a.2.node.matchAt text further = none :=
      fun a member further first last => nowhere further (earlier further first last) a member
    rcases Pattern.namedGroup?_alternatives node (by decide) unnamed matched with
      ⟨own, own', stop, named⟩ | ⟨other, unnamed, own, own', stop, named⟩
    · simp only [Option.bind_eq_bind, Option.bind_some, named]
      exact ⟨above, below, ⟨[], _, _, own, inner, rfl, own', stop, by simp⟩, earlier⟩
    · simp only [Option.bind_eq_bind, Option.bind_some, unnamed, named]
      exact ⟨above, below, ⟨[_], _, [], own, inner, rfl, own', stop, by simpa using other⟩, earlier⟩

theorem matchers_of_paired {c : CompiledRule} (paired : c.shape = .paired) :
    ∃ opening middle closing unnested mirror,
      c.matchers = .paired opening middle closing unnested mirror := by
  unfold shape at paired
  split at paired
  · cases paired
  · exact ⟨_, _, _, _, _, ‹_›⟩
  · cases paired
  · cases paired

/-- A rule that does not nest finds its markers as they are found one by one, unless a group in one of them
has a name that tells these markers. -/
theorem findUnnested_finds {r : Rule} {c : CompiledRule} (compiled : r.compile = .ok c)
    (alone : c.nested = false) (paired : c.shape = .paired)
    (free : ∀ a ∈ c.inner, a.2.verboseFree = true)
    (unnamed : ∀ a ∈ c.inner, ∀ name ∈ [unnestedMiddle, unnestedClosing],
      some name ∉ a.2.groupNames) (text : Line) (place : Nat) :
    c.Finds text place (c.findUnnested text place) := by
  obtain ⟨opening, middle, closing, unnested, mirror, matchers⟩ := matchers_of_paired paired
  cases middle with
  | none =>
    have inner : c.inner = [(.closing, closing)] := by simp [CompiledRule.inner, matchers]
    have unnamed : some unnestedMiddle ∉ closing.groupNames :=
      unnamed (.closing, closing) (by simp [inner]) _ (by simp)
    rw [findUnnested_closing compiled alone matchers unnamed]
    exact finds_closing inner text place
  | some middle => exact findUnnested_pair compiled alone matchers free text place

/-- Whether the closing marker that is found passes for a middle one: the rule has none, and a group with the
name of its group takes part. -/
def Misnames (c : CompiledRule) (text : Line) (place : Nat) : Prop :=
  ∃ closing, c.inner = [(.closing, closing)] ∧
    ∃ f ∈ closing.find? text place, (closing.namedGroup? f unnestedMiddle).isSome = true

/-- A rule that does not nest finds its markers as they are found one by one, whatever groups and names they
have, except where a group passes for a middle marker that the rule does not have. -/
theorem findUnnested_finds_iff {r : Rule} {c : CompiledRule} (compiled : r.compile = .ok c)
    (alone : c.nested = false) (paired : c.shape = .paired)
    (free : ∀ a ∈ c.inner, a.2.verboseFree = true) (text : Line) (place : Nat) :
    c.Finds text place (c.findUnnested text place) ↔ ¬ c.Misnames text place := by
  obtain ⟨opening, middle, closing, unnested, mirror, matchers⟩ := matchers_of_paired paired
  cases middle with
  | none =>
    have inner : c.inner = [(.closing, closing)] := by simp [CompiledRule.inner, matchers]
    rw [findUnnested_single compiled alone matchers]
    constructor
    · rintro finds ⟨own, only, f, searched, told⟩
      obtain rfl : closing = own := by simpa [inner] using only
      obtain ⟨span, named⟩ := Option.isSome_iff_exists.mp told
      rw [Option.mem_def.mp searched, Option.map_some, named] at finds
      obtain ⟨-, -, ⟨before, a, after, _, split, role, -⟩, -⟩ := finds
      have member : a ∈ c.inner := split ▸ List.mem_append_right _ List.mem_cons_self
      rw [inner, List.mem_singleton] at member
      rw [member] at role
      cases role
    · intro named
      have untold : ∀ f ∈ closing.find? text place, closing.namedGroup? f unnestedMiddle = none := by
        intro f searched
        rw [← Option.not_isSome_iff_eq_none]
        exact fun told => named ⟨closing, inner, f, searched, told⟩
      have same := finds_closing inner text place
      cases searched : closing.find? text place with
      | none => simpa [searched] using same
      | some f =>
        rw [searched] at same
        rw [Option.map_some, untold f searched]
        exact same
  | some middle =>
    have inner : c.inner = [(.middle, middle), (.closing, closing)] := by
      simp [CompiledRule.inner, matchers]
    refine ⟨?_, fun _ => findUnnested_pair compiled alone matchers free text place⟩
    rintro - ⟨own, only, -⟩
    simp [inner] at only

/-- Branches, where one text is both a middle and a closing marker, and the names of groups look like those that
tell them apart. -/
def branchRule : Rule :=
  { opening := { text := some "if" }
    middle := { regex := some "(?P<__fold_end_>el)(?:se|if)" }
    closing := { regex := some "(?P<__fold_middle_1>e)nd|els(e)" }
    nested := false }

set_option maxRecDepth 100000 in
/-- The text is found as a middle marker. -/
theorem findUnnested_finds_iff_of_branches :
    ∃ c, branchRule.compile = .ok c ∧ c.nested = false ∧ c.shape = .paired ∧
      (∀ a ∈ c.inner, a.2.verboseFree = true) ∧ ¬ c.Misnames (.ofString "x else end") 0 ∧
      c.Finds (.ofString "x else end") 0 (some ⟨.middle, 2, 6⟩) := by
  have evaluated : ∃ c ∈ branchRule.compile.toOption, c.nested = false ∧ c.shape = .paired ∧
      (∀ a ∈ c.inner, a.2.verboseFree = true) ∧ c.inner.length = 2 ∧
      c.findUnnested (.ofString "x else end") 0 = some ⟨.middle, 2, 6⟩ := by decide +kernel
  obtain ⟨c, compiled, alone, paired, free, two, searched⟩ := evaluated
  have compiled : branchRule.compile = .ok c := by
    cases same : branchRule.compile with
    | error reason => simp [same, Except.toOption] at compiled
    | ok other =>
      rw [same] at compiled
      exact congrArg Except.ok (Option.some.inj compiled)
  have named : ¬ c.Misnames (.ofString "x else end") 0 := by
    rintro ⟨own, only, -⟩
    simp [only] at two
  have finds := (findUnnested_finds_iff compiled alone paired free (.ofString "x else end") 0).mpr named
  rw [searched] at finds
  exact ⟨c, compiled, alone, paired, free, named, finds⟩

/-- A rule without a middle marker, in whose closing marker a group has the name of one. -/
def misnamedRule : Rule :=
  { opening := { text := some "a" }, closing := { regex := some "(?P<__fold_middle>b)" }, nested := false }

set_option maxRecDepth 100000 in
/-- The closing marker is found as a middle marker. -/
theorem findUnnested_misnamed :
    ∃ c ∈ misnamedRule.compile.toOption, c.nested = false ∧ c.shape = .paired ∧
      (∀ a ∈ c.inner, a.2.verboseFree = true) ∧
      ¬ c.Finds (.ofString "b") 0 (c.findUnnested (.ofString "b") 0) := by
  have evaluated : ∃ c ∈ misnamedRule.compile.toOption, c.nested = false ∧ c.shape = .paired ∧
      (∀ a ∈ c.inner, a.2.verboseFree = true ∧ a.1 = .closing) ∧
      c.findUnnested (.ofString "b") 0 = some ⟨.middle, 0, 1⟩ := by decide +kernel
  obtain ⟨c, compiled, alone, paired, markers, searched⟩ := evaluated
  refine ⟨c, compiled, alone, paired, fun a member => (markers a member).1, fun finds => ?_⟩
  rw [searched] at finds
  obtain ⟨-, -, ⟨before, a, after, _, split, role, -⟩, -⟩ := finds
  have closing := (markers a (split ▸ List.mem_append_right _ List.mem_cons_self)).2
  cases role.trans closing

theorem whole_of_compile {r : Rule} {c : CompiledRule} (compiled : r.compile = .ok c)
    (middle : r.middle.source? = none) (separator : r.separator.source? = none)
    (named : c.nested = false → ∀ text place, ¬c.Misnames text place) :
    (∀ role ∈ c.roles, role ≠ .middle ∧ role ≠ .separator) ∧
      ∀ text place, ∀ found ∈ c.findUnnested text place, found.role ≠ .middle := by
  obtain ⟨compiledMatchers, nested⟩ := Rule.compile_cases compiled
  rcases Rule.compileMatchers_whole compiledMatchers middle separator with ⟨_, matchers⟩ |
    ⟨_, _, matchers⟩ | ⟨opening, closing, unnested, mirror, matchers, nests⟩
  · exact ⟨by simp [roles, alternatives, matchers], by simp [findUnnested, matchers]⟩
  · exact ⟨by simp [roles, alternatives, matchers], by simp [findUnnested, matchers]⟩
  refine ⟨?_, fun text place found searched role => ?_⟩
  · cases c.nested <;> simp [roles, alternatives, matchers]
  cases single : c.nested with
  | true =>
    have nothing := nests (nested.symm.trans single)
    simp [findUnnested, matchers, nothing] at searched
  | false =>
    rw [findUnnested_single compiled single matchers] at searched
    obtain ⟨f, search, same⟩ := Option.map_eq_some_iff.mp searched
    refine named single text place ⟨closing, by simp [inner, matchers], f, search, ?_⟩
    subst same
    split at role
    · rename_i group
      rw [group, Option.isSome_some]
    · cases role

theorem Misnames.named {c : CompiledRule} {text : Line} {place : Nat} (h : c.Misnames text place) :
    ∃ a ∈ c.inner, some unnestedMiddle ∈ a.2.groupNames := by
  obtain ⟨closing, inner, f, -, group⟩ := h
  refine ⟨(.closing, closing), inner ▸ List.mem_singleton_self _, ?_⟩
  refine Classical.byContradiction fun unnamed => ?_
  rw [Pattern.namedGroup?, List.idxOf?_eq_none_iff.mpr unnamed] at group
  cases group

/-- The closing marker of a rule without a middle marker, if it repeats the opening marker. -/
def mirrored? (r : CompiledRule) : Option Pattern :=
  match r.matchers with
  | .paired _ none closing _ (some _) => some closing
  | _ => none

/-- A closing marker that repeats the opening one is what is found inside a block that does not nest, unless
a group in it has the name that tells middle markers. -/
theorem findUnnested_mirrored {r : Rule} {c : CompiledRule} (compiled : r.compile = .ok c)
    (alone : c.nested = false) {closing : Pattern} (mirrored : c.mirrored? = some closing)
    (unnamed : some unnestedMiddle ∉ closing.groupNames) (text : Line) (place : Nat) :
    c.findUnnested text place =
      (closing.find? text place).map fun f => ⟨.closing, f.start, f.stop⟩ := by
  unfold mirrored? at mirrored
  split at mirrored
  · rename_i matchers
    cases mirrored
    exact findUnnested_closing compiled alone matchers unnamed text place
  · cases mirrored

end CompiledRule

end Foldmark
