import Mathlib.Data.List.TakeWhile
import Foldmark.Proofs.Fold.Isolated
import Foldmark.Proofs.Rule.Looks
import Foldmark.Proofs.Rule.Unnested

/-! Scans with rules that differ in their looks. What opens and closes does not depend on the kind of the ranges
of a rule, nor on whether they hold the last line. So two scans with rules that differ in nothing else
stand at the same place with the same blocks open after every move, and where one of them leaves a
range, or none, the other one has ended the same part of the document. -/
namespace Foldmark

def Range.extent (r : Range) : Nat × Nat := (r.start, r.stop)

/-- The range without its last line, if it still has two lines then. -/
def Range.shortened (r : Range) : List Range :=
  if r.start + 1 < r.stop then [{ r with stop := r.stop - 1 }] else []

theorem CompiledRule.eq_relook {r r' : CompiledRule} (same : r'.plain = r.plain) :
    r' = r.relook (fun _ => r'.foldLastLine) fun _ => r'.kind := by
  cases r
  cases r'
  simpa [CompiledRule.relook] using same

namespace Fold

structure Grammar.Undivided (g : Grammar) : Prop where
  around : ∀ text place, ∀ found ∈ g.master.findAt text place,
    found.role ≠ .middle ∧ found.role ≠ .separator
  inside : ∀ r ∈ g.rules, ∀ text place, ∀ found ∈ r.findUnnested text place, found.role ≠ .middle

/-- Rules with other looks, which leave other ranges wherever a block ends. How these are related is the same
for all of them. What a part of a block leaves counts only if blocks are divided. -/
structure Grammar.Restyles (related : List Range → List Range → Prop) (g g' : Grammar) : Prop where
  master : g'.master = g.master
  rules : g'.rules.map CompiledRule.plain = g.rules.map CompiledRule.plain
  nil : related [] []
  append : ∀ {first second first' second'}, related first first' → related second second' →
    related (first ++ second) (first' ++ second')
  closed : ∀ b line, b.rule < g.rules.length → related (g.closed b line) (g'.closed b line)
  before : ¬g.Undivided → ∀ rule start line,
    related (g.before rule start line) (g'.before rule start line)

/-- A block of one of the rules, which is no section where blocks are not divided. -/
structure Grammar.Holds (g : Grammar) (b : Block) : Prop where
  known : b.rule < g.rules.length
  whole : g.Undivided → b.isSection = false

structure Beside (related : List Range → List Range → Prop) (g : Grammar) (s s' : State) : Prop where
  stack : s'.stack = s.stack
  mode : s'.mode = s.mode
  ranges : related s.ranges.reverse s'.ranges.reverse
  blocks : ∀ b ∈ s.stack, g.Holds b

variable {related : List Range → List Range → Prop} {g g' : Grammar} {s s' : State} {line place : Nat}
  {text : Line}

namespace Grammar.Restyles

variable (restyles : g.Restyles related g')

include restyles

theorem known (rule : Nat) : (g.rules[rule]? = none ∧ g'.rules[rule]? = none) ∨
    ∃ r lastLine kind, g.rules[rule]? = some r ∧
      g'.rules[rule]? = some (r.relook lastLine kind) := by
  have same := congrArg (·[rule]?) restyles.rules
  simp only [List.getElem?_map] at same
  cases here : g.rules[rule]? with
  | none =>
    rw [here, Option.map_none, Option.map_eq_none_iff] at same
    exact .inl ⟨rfl, same⟩
  | some r =>
    rw [here, Option.map_some, Option.map_eq_some_iff] at same
    obtain ⟨r', there, same⟩ := same
    exact .inr ⟨r, _, _, rfl, CompiledRule.eq_relook same ▸ there⟩

theorem nests (rule : Nat) : g'.nests rule = g.nests rule := by
  unfold Grammar.nests
  rcases restyles.known rule with ⟨here, there⟩ | ⟨r, _, _, here, there⟩ <;> rw [here, there]
  rfl

theorem isContinuation (rule : Nat) : g'.isContinuation rule = g.isContinuation rule := by
  unfold Grammar.isContinuation
  rcases restyles.known rule with ⟨here, there⟩ | ⟨r, _, _, here, there⟩ <;> rw [here, there]
  rfl

theorem sections (blocks : List Block) (areSections : ∀ b ∈ blocks, b.isSection = true)
    (held : ∀ b ∈ blocks, g.Holds b) (line : Nat) :
    related (blocks.flatMap fun b => g.before b.rule b.start line)
      (blocks.flatMap fun b => g'.before b.rule b.start line) := by
  induction blocks with
  | nil => exact restyles.nil
  | cons b rest ih =>
    obtain ⟨isSection, furtherSections⟩ := List.forall_mem_cons.mp areSections
    obtain ⟨holds, further⟩ := List.forall_mem_cons.mp held
    -- A scan that divides no block has no section on its stack.
    have divided : ¬g.Undivided := fun whole => by
      have noSection := holds.whole whole
      rw [isSection] at noSection
      cases noSection
    exact restyles.append (restyles.before divided ..) (ih furtherSections further)

end Grammar.Restyles

namespace Beside

theorem restack (beside : Beside related g s s') {stack : List Block}
    (blocks : ∀ b ∈ stack, g.Holds b) : Beside related g { s with stack } { s' with stack } :=
  ⟨rfl, beside.mode, beside.ranges, blocks⟩

theorem push (beside : Beside related g s s') {b : Block} (holds : g.Holds b) :
    Beside related g (s.push b) (s'.push b) := by
  have pushed := beside.restack (List.forall_mem_cons.mpr ⟨holds, beside.blocks⟩)
  rwa [State.push, State.push, beside.stack]

theorem aim (beside : Beside related g s s') (mode : Mode) :
    Beside related g { s with mode } { s' with mode } :=
  { beside with mode := rfl }

theorem held (beside : Beside related g s s') {top : Block} {below : List Block}
    (stack : s.stack = top :: below) : g.Holds top ∧ ∀ b ∈ below, g.Holds b :=
  List.forall_mem_cons.mp (stack ▸ beside.blocks)

theorem retop (beside : Beside related g s s') {top top' : Block} {below : List Block}
    (stack : s.stack = top :: below) (rule : top'.rule = top.rule)
    (isSection : top'.isSection = top.isSection) :
    Beside related g { s with stack := top' :: below } { s' with stack := top' :: below } := by
  obtain ⟨⟨known, whole⟩, further⟩ := beside.held stack
  have holds : g.Holds top' := ⟨rule ▸ known, isSection ▸ whole⟩
  exact beside.restack (List.forall_mem_cons.mpr ⟨holds, further⟩)

theorem owner?_eq (beside : Beside related g s s') (rule : Nat) : s'.owner? rule = s.owner? rule := by
  rw [State.owner?, State.owner?, beside.stack]

theorem ite {next next' : State} {c : Prop} [Decidable c] (yes : Beside related g s s')
    (no : Beside related g next next') :
    Beside related g (if c then s else next) (if c then s' else next') := by
  split
  · exact yes
  · exact no

section Steps

variable (restyles : g.Restyles related g')

include restyles

theorem emit (beside : Beside related g s s') {ranges ranges' : List Range}
    (left : related ranges ranges') : Beside related g (s.emit ranges) (s'.emit ranges') where
  stack := beside.stack
  mode := beside.mode
  ranges := by
    simp only [State.emit, List.reverse_append, List.reverse_reverse]
    exact restyles.append beside.ranges left
  blocks := beside.blocks

theorem mayOpen_eq (beside : Beside related g s s') : s'.mayOpen g' = s.mayOpen g := by
  unfold State.mayOpen
  rw [beside.stack]
  simp only [restyles.nests]

theorem closeTop (beside : Beside related g s s') (line : Nat) :
    Beside related g (s.closeTop g line) (s'.closeTop g' line) := by
  unfold State.closeTop
  rw [beside.stack]
  cases stack : s.stack with
  | nil => exact beside
  | cons top below =>
    obtain ⟨holds, further⟩ := beside.held stack
    exact (beside.restack further).emit restyles (restyles.closed top line holds.known)

theorem splitTop (beside : Beside related g s s') (divided : ¬g.Undivided) (line : Nat) :
    Beside related g (s.splitTop g line) (s'.splitTop g' line) := by
  unfold State.splitTop
  rw [beside.stack]
  cases stack : s.stack with
  | nil => exact beside
  | cons top below =>
    have begun : Beside related g { s with stack := { top with start := line } :: below }
        { s' with stack := { top with start := line } :: below } := beside.retop stack rfl rfl
    exact begun.emit restyles (restyles.before divided ..)

theorem endSections (beside : Beside related g s s') (line : Nat) :
    Beside related g (s.endSections g line) (s'.endSections g' line) := by
  have inside : ∀ b ∈ s.stack.takeWhile (·.isSection), g.Holds b :=
    fun b member => beside.blocks b (List.takeWhile_subset _ member)
  have outside : ∀ b ∈ s.stack.dropWhile (·.isSection), g.Holds b :=
    fun b member => beside.blocks b (List.dropWhile_subset _ member)
  have left := restyles.sections _ (fun _ => List.mem_takeWhile_imp) inside line
  unfold State.endSections
  rw [beside.stack]
  exact (beside.restack outside).emit restyles left

theorem openBlock (beside : Beside related g s s') (line : Nat) (text : Line) (found : MarkerMatch) :
    Beside related g (s.openBlock g line text found) (s'.openBlock g' line text found) := by
  unfold State.openBlock
  rcases restyles.known found.rule with ⟨here, there⟩ | ⟨r, _, _, here, there⟩
  · rwa [here, there]
  obtain ⟨known, -⟩ := List.getElem?_eq_some_iff.mp here
  have fresh (expected : Option ExpectedEnd) : g.Holds { rule := found.rule, start := line, expected } :=
    ⟨known, fun _ => rfl⟩
  rw [here, there, restyles.master, beside.stack]
  simp only [CompiledRule.relook]
  split
  · exact .ite (beside.push (fresh _)) ((beside.push (fresh _)).aim _)
  · exact .ite (beside.push (fresh none)) beside
  · exact beside

theorem separate (beside : Beside related g s s') (divided : ¬g.Undivided) {rule : Nat}
    (known : rule < g.rules.length) (line : Nat) :
    Beside related g (s.separate g line rule) (s'.separate g' line rule) := by
  have fresh : g.Holds { rule, start := line, isSection := true } :=
    ⟨known, fun whole => absurd whole divided⟩
  have leading (start : Nat) := beside.emit restyles (restyles.before divided rule start line)
  unfold State.separate
  rw [beside.stack]
  cases s.stack with
  | nil => exact (leading 0).push fresh
  | cons top below =>
    simp only [restyles.nests]
    split
    · exact beside.splitTop restyles divided line
    · split
      · exact (leading _).push fresh
      · exact beside

theorem onMarker (beside : Beside related g s s') (closed : g.Closed) {found : MarkerMatch}
    (atPlace : g.master.findAt text place = some found) (line : Nat) :
    Beside related g (s.onMarker g line text found).1 (s'.onMarker g' line text found).1 ∧
      (s'.onMarker g' line text found).2 = (s.onMarker g line text found).2 := by
  have known := closed.rule_lt atPlace
  unfold State.onMarker
  rw [beside.owner?_eq, beside.mayOpen_eq restyles]
  cases role : found.role with
  | opening => exact ⟨.ite (beside.openBlock restyles line text found) beside, rfl⟩
  | middle =>
    -- The marker itself shows that blocks are divided, and so does a separator.
    have divided : ¬g.Undivided := fun whole => (whole.around text place found atPlace).1 role
    cases s.owner? found.rule with
    | none => exact ⟨beside, rfl⟩
    | some b => exact ⟨(beside.endSections restyles line).splitTop restyles divided line, rfl⟩
  | closing =>
    cases s.owner? found.rule with
    | none => exact ⟨beside, rfl⟩
    | some b =>
      simp only
      cases State.accepts b text found.start with
      | none => exact ⟨beside, rfl⟩
      | some resume => exact ⟨(beside.endSections restyles line).closeTop restyles line, rfl⟩
  | continuation =>
    simp only
    rw [beside.stack]
    cases stack : s.stack with
    | nil => exact ⟨beside, rfl⟩
    | cons top below =>
      simp only
      split
      · exact ⟨beside.retop stack rfl rfl, rfl⟩
      · exact ⟨beside, rfl⟩
  | docstring =>
    cases s.owner? found.rule with
    | some b => exact ⟨(beside.endSections restyles line).closeTop restyles line, rfl⟩
    | none => exact ⟨.ite (beside.push ⟨known, fun _ => rfl⟩) beside, rfl⟩
  | separator =>
    have divided : ¬g.Undivided := fun whole => (whole.around text place found atPlace).2 role
    exact ⟨beside.separate restyles divided known line, rfl⟩

theorem onUnnested (beside : Beside related g s s') {r : CompiledRule} (member : r ∈ g.rules)
    {found : UnnestedMatch} (atPlace : r.findUnnested text place = some found) (line : Nat) :
    Beside related g (s.onUnnested g line text found).1 (s'.onUnnested g' line text found).1 ∧
      (s'.onUnnested g' line text found).2 = (s.onUnnested g line text found).2 := by
  unfold State.onUnnested
  rw [beside.stack]
  cases stack : s.stack with
  | nil => exact ⟨(beside.restack (stack ▸ beside.blocks)).aim .normal, rfl⟩
  | cons top below =>
    simp only
    split
    · rename_i role
      have divided : ¬g.Undivided := fun whole => whole.inside r member text place found atPlace role
      exact ⟨(beside.splitTop restyles divided line).aim _, rfl⟩
    · cases State.accepts top text found.start with
      | some resume => exact ⟨(beside.closeTop restyles line).aim _, rfl⟩
      | none => exact ⟨(beside.restack (stack ▸ beside.blocks)).aim _, rfl⟩

theorem endLine (beside : Beside related g s s') (line : Nat) :
    Beside related g (s.endLine g line) (s'.endLine g' line) := by
  unfold State.endLine
  rw [beside.stack]
  cases stack : s.stack with
  | nil => exact beside
  | cons top below =>
    obtain ⟨-, further⟩ := beside.held stack
    simp only [restyles.isContinuation]
    split
    · exact beside
    · split
      · split
        · exact beside
        · exact beside.closeTop restyles line
      · split
        · exact beside
        · exact beside.restack further

theorem finish (beside : Beside related g s s') (lines : Nat) :
    related (s.finish g lines) (s'.finish g' lines) := by
  have held : ∀ b ∈ s.stack.filter (·.isSection), g.Holds b :=
    fun b member => beside.blocks b (List.mem_filter.mp member).1
  have left := restyles.sections _ (fun b member => (List.mem_filter.mp member).2) held lines
  unfold State.finish
  rw [beside.stack]
  exact (beside.emit restyles left).ranges

theorem step (beside : Beside related g s s') (closed : g.Closed) (line : Nat) (text : Line)
    (place : Nat) :
    Option.Rel (fun next next' => Beside related g next.1 next'.1 ∧ next'.2 = next.2)
      (Fold.step g line text s place) (Fold.step g' line text s' place) := by
  unfold Fold.step
  rw [beside.mode, restyles.master]
  cases s.mode with
  | normal =>
    simp only
    cases atPlace : g.master.findAt text place with
    | none => exact .none
    | some found =>
      obtain ⟨next, resume⟩ := beside.onMarker restyles closed atPlace line
      exact .some ⟨next, by rw [resume]⟩
  | unnested rule =>
    rcases restyles.known rule with ⟨here, there⟩ | ⟨r, _, _, here, there⟩
    · simp only [here, there]
      exact .none
    · simp only [here, there, Option.bind_eq_bind, Option.bind_some, CompiledRule.findUnnested_relook]
      cases atPlace : r.findUnnested text place with
      | none => exact .none
      | some found =>
        obtain ⟨next, resume⟩ := beside.onUnnested restyles (List.mem_of_getElem? here) atPlace line
        exact .some ⟨next, by rw [resume]⟩

end Steps

end Beside

namespace Point

def travel (g : Grammar) : Nat → Point → Point
  | 0, p => p
  | count + 1, p =>
    match p.advance? g with
    | some q => travel g count q
    | none => p

/-- Where a scan stands and which blocks are open there, whatever it has found. -/
def bare (p : Point) : Point := { p with state := { p.state with ranges := [] } }

def room (p : Point) : Nat :=
  match p.ahead with
  | [] => 0
  | text :: _ => text.size + 1 - p.place

theorem advance?_onward {p q : Point} (moved : p.advance? g = some q) :
    q.ahead.length < p.ahead.length ∨ q.ahead.length = p.ahead.length ∧ q.room < p.room := by
  obtain ⟨line, ahead, place, s⟩ := p
  cases ahead with
  | nil => cases moved
  | cons text rest =>
    simp only [advance?] at moved
    split at moved
    · rename_i next further stepped
      split at stepped
      · cases moved
        have later := (step_forward stepped).1
        refine .inr ⟨rfl, ?_⟩
        simp only [room]
        omega
      · cases stepped
    · cases moved
      exact .inl (Nat.lt_succ_self _)

theorem ahead_of_stuck {p : Point} (stuck : p.advance? g = none) : p.ahead = [] := by
  obtain ⟨line, ahead, place, s⟩ := p
  cases ahead with
  | nil => rfl
  | cons text rest =>
    simp only [advance?] at stuck
    split at stuck <;> cases stuck

theorem travel_ends (g : Grammar) (p : Point) : ∃ count, (travel g count p).ahead = [] := by
  -- Every move leaves fewer lines, or less of the line.
  cases moved : p.advance? g with
  | none => exact ⟨0, ahead_of_stuck moved⟩
  | some q =>
    obtain ⟨count, ended⟩ := travel_ends g q
    refine ⟨count + 1, ?_⟩
    simpa only [travel, moved] using ended
termination_by (p.ahead.length, p.room)
decreasing_by
  rcases advance?_onward moved with fewer | ⟨same, less⟩
  · exact .left _ _ fewer
  · rw [same]
    exact .right _ less

theorem last_travel (count : Nat) (p : Point) : (travel g count p).last g = p.last g := by
  induction count generalizing p with
  | zero => rfl
  | succ count ih =>
    simp only [travel]
    split
    · rename_i q moved
      rw [ih, last_advance moved]
    · rfl

theorem last_behind {p : Point} (ended : p.ahead = []) : p.last g = p.state := by
  rw [last, ended]

structure Beside (related : List Range → List Range → Prop) (g : Grammar) (p p' : Point) : Prop where
  line : p'.line = p.line
  ahead : p'.ahead = p.ahead
  place : p'.place = p.place
  state : Fold.Beside related g p.state p'.state

namespace Beside

variable {p p' : Point}

theorem bare_eq (beside : Beside related g p p') : p'.bare = p.bare := by
  simp only [bare, beside.line, beside.ahead, beside.place, beside.state.stack, beside.state.mode]

theorem advance? (beside : Beside related g p p') (restyles : g.Restyles related g')
    (closed : g.Closed) : Option.Rel (Beside related g) (p.advance? g) (p'.advance? g') := by
  unfold Point.advance?
  rw [beside.ahead, beside.place, beside.line]
  cases p.ahead with
  | nil => exact .none
  | cons text rest =>
    have ended := beside.state.endLine restyles p.line
    have newLine : Beside related g ⟨p.line + 1, rest, 0, p.state.endLine g p.line⟩
        ⟨p.line + 1, rest, 0, p'.state.endLine g' p.line⟩ := ⟨rfl, rfl, rfl, ended⟩
    have stepped := beside.state.step restyles closed p.line text p.place
    by_cases inside : p.place ≤ text.size
    · simp only [if_pos inside]
      revert stepped
      cases step g p.line text p.state p.place <;> cases step g' p.line text p'.state p.place <;>
        intro stepped
      · exact .some newLine
      · cases stepped
      · cases stepped
      · obtain ⟨next, place⟩ := stepped
        exact .some ⟨rfl, rfl, place, next⟩
    · simp only [if_neg inside]
      exact .some newLine

theorem travel (beside : Beside related g p p') (restyles : g.Restyles related g') (closed : g.Closed)
    (count : Nat) : Beside related g (travel g count p) (Point.travel g' count p') := by
  induction count generalizing p p' with
  | zero => exact beside
  | succ count ih =>
    have moved := beside.advance? restyles closed
    unfold Point.travel
    revert moved
    cases p.advance? g <;> cases p'.advance? g' <;> intro moved
    · exact beside
    · cases moved
    · cases moved
    · obtain ⟨next⟩ := moved
      exact ih next

end Beside

def first (document : Document) : Point := ⟨0, document, 0, .start⟩

theorem run_eq_travel {document : Document} {count : Nat}
    (ended : (Point.travel g count (.first document)).ahead = []) :
    run g document = (Point.travel g count (.first document)).state.finish g document.length := by
  rw [← last_behind ended, last_travel, first, last_start, run]

end Point

namespace Grammar.Restyles

variable (restyles : g.Restyles related g') (closed : g.Closed)

include restyles closed

theorem travel_first (document : Document) (count : Nat) :
    Point.Beside related g (Point.travel g count (.first document))
      (Point.travel g' count (.first document)) := by
  have start : Beside related g .start .start := ⟨rfl, rfl, restyles.nil, by simp [State.start]⟩
  exact Point.Beside.travel ⟨rfl, rfl, rfl, start⟩ restyles closed count

theorem run_related (document : Document) : related (run g document) (run g' document) := by
  obtain ⟨count, ended⟩ := Point.travel_ends g (.first document)
  have beside := restyles.travel_first closed document count
  rw [Point.run_eq_travel ended, Point.run_eq_travel (beside.ahead.trans ended)]
  exact beside.state.finish restyles document.length

end Grammar.Restyles

namespace Grammar

theorem restyles_kind (master : g'.master = g.master)
    (rules : g'.rules.map CompiledRule.kindless = g.rules.map CompiledRule.kindless) :
    g.Restyles (fun left left' => left'.map Range.extent = left.map Range.extent) g' := by
  have before (rule start line : Nat) :
      (g'.before rule start line).map Range.extent = (g.before rule start line).map Range.extent := by
    unfold Grammar.before
    split <;> rfl
  have folds (rule : Nat) : g'.foldsLastLine rule = g.foldsLastLine rule := by
    have same := congrArg (fun known => known[rule]?.map CompiledRule.foldLastLine) rules
    simp only [List.getElem?_map, Option.map_map] at same
    unfold foldsLastLine
    revert same
    cases g'.rules[rule]? <;> cases g.rules[rule]? <;> simp [CompiledRule.relook]
  refine ⟨master, ?_, rfl, ?_, ?_, fun _ => before⟩
  · have plain := congrArg (List.map CompiledRule.plain) rules
    rwa [List.map_map, List.map_map] at plain
  · intro first second first' second' one two
    rw [List.map_append, List.map_append, one, two]
  · intro b line _
    unfold Grammar.closed
    rw [folds]
    split
    · split <;> rfl
    · exact before ..

/-- Where no block is divided, ranges without the last line are those with it, less that line. -/
theorem restyles_lastLine (rules : List CompiledRule) (master : Master)
    (undivided : (Grammar.mk (rules.map (.endedBy true)) master).Undivided) :
    (Grammar.mk (rules.map (.endedBy true)) master).Restyles
      (fun left left' => left' = left.flatMap Range.shortened)
      ⟨rules.map (.endedBy false), master⟩ := by
  refine ⟨rfl, ?_, rfl, ?_, ?_, fun divided => absurd undivided divided⟩
  · rw [List.map_map, List.map_map]
    rfl
  · rintro first second _ _ rfl rfl
    exact List.flatMap_append.symm
  · -- Both rules are the same one, whose block ends on the line, or on the line before.
    intro b line known
    rw [List.length_map] at known
    simp only [Grammar.closed, Grammar.before, Grammar.foldsLastLine, Grammar.kind, List.getElem?_map,
      List.getElem?_eq_getElem known, Option.map_some, CompiledRule.relook, if_true, id_eq]
    by_cases more : b.start < line
    · simp [more, Range.shortened]
    · have less : ¬b.start + 1 < line := by omega
      simp [more, less]

end Grammar

end Fold

namespace RuleSet

open Fold

variable {rules others : List Rule} {m : Master}

theorem compile_undivided (combined : (compile rules).master = some m)
    (without : ∀ r ∈ rules, r.middle.source? = none ∧ r.separator.source? = none)
    (free : ∀ a ∈ (compile rules).candidates, a.pattern.verboseFree = true)
    (named : ∀ c ∈ (compile rules).rules, c.nested = false → ∀ text place, ¬c.Misnames text place) :
    ((compile rules).grammar m).Undivided := by
  have whole : ∀ c ∈ (compile rules).rules, (∀ role ∈ c.roles, role ≠ .middle ∧ role ≠ .separator) ∧
      ∀ text place, ∀ found ∈ c.findUnnested text place, found.role ≠ .middle := by
    intro c member
    obtain ⟨r, declared, compiled⟩ := compile_origin member
    obtain ⟨middle, separator⟩ := without r declared
    exact CompiledRule.whole_of_compile compiled middle separator (named c member)
  constructor
  · intro text place found atPlace
    obtain ⟨c, known, role⟩ := compile_fitting combined free text place found atPlace
    exact (whole c (List.mem_of_getElem? known)).1 _ role
  · exact fun c member => (whole c member).2

theorem undivided_relook {lastLine : Bool → Bool} {kind : Kind → Kind} {compiled : List CompiledRule}
    (undivided : (Grammar.mk compiled m).Undivided) :
    (Grammar.mk (compiled.map (.relook lastLine kind)) m).Undivided := by
  refine ⟨undivided.around, fun c member => ?_⟩
  obtain ⟨r, known, rfl⟩ := List.mem_map.mp member
  exact undivided.inside r known

/-- What a rule looks like plays no part in what is found. For rules that differ in their looks alone, the same
ones are rejected for the same reasons, and after every move the scans of a document stand at the same
place, look for the same markers and have the same blocks open. So if they differ in kinds alone, their
ranges lie at the same lines. Where no rule has a middle marker or a separator, ranges without the last
line are the ranges with it, less that line. This needs markers that are reported in the roles that they
have: no pattern switches the verbose flag on, and no closing marker passes for a middle one. -/
theorem fold_restyled (same : others.map Rule.plain = rules.map Rule.plain) (document : Document) :
    ((compile others).rejected = (compile rules).rejected ∧
      (compile others).master = (compile rules).master ∧
      (compile others).rules.map CompiledRule.plain = (compile rules).rules.map CompiledRule.plain) ∧
    (∀ m, (compile rules).master = some m → ∀ count,
      (Point.travel ((compile others).grammar m) count (.first document)).bare =
        (Point.travel ((compile rules).grammar m) count (.first document)).bare) ∧
    (others.map Rule.kindless = rules.map Rule.kindless →
      ((compile others).fold document).map Range.extent =
        ((compile rules).fold document).map Range.extent) ∧
    ((∀ r ∈ rules, r.middle.source? = none ∧ r.separator.source? = none) →
      (∀ a ∈ (compile rules).candidates, a.pattern.verboseFree = true) →
      (∀ c ∈ (compile rules).rules, c.nested = false → ∀ text place, ¬c.Misnames text place) →
      (compile (rules.map (.endedBy false))).fold document =
        ((compile (rules.map (.endedBy true))).fold document).flatMap Range.shortened) := by
  obtain ⟨rejected, master, plain⟩ := compile_alike same
  refine ⟨⟨rejected, master, plain⟩, fun m combined count => ?_, fun kinds => ?_, ?_⟩
  · have closed : ((compile rules).grammar m).Closed := compile_closed combined
    have restyles : ((compile rules).grammar m).Restyles (fun _ _ => True)
        ((compile others).grammar m) :=
      ⟨rfl, plain, trivial, fun _ _ => trivial, fun _ _ _ => trivial, fun _ _ _ _ => trivial⟩
    exact (restyles.travel_first closed document count).bare_eq
  · obtain ⟨-, -, kindless⟩ := compile_alike kinds
    cases combined : (compile rules).master with
    | none => rw [fold, fold, master, combined]
    | some m =>
      rw [fold_eq_run combined, fold_eq_run (master.trans combined)]
      have restyles : ((compile rules).grammar m).Restyles _ ((compile others).grammar m) :=
        Grammar.restyles_kind rfl kindless
      exact restyles.run_related (compile_closed combined) document
  · intro without free named
    cases combined : (compile rules).master with
    | none => simp only [compile_relook, fold, relook, combined, List.flatMap_nil]
    | some m =>
      have undivided := compile_undivided combined without free named
      have restyles := Grammar.restyles_lastLine (compile rules).rules m (undivided_relook undivided)
      have closed : (Grammar.mk ((compile rules).rules.map (.endedBy true)) m).Closed := by
        simpa [Grammar.Closed] using compile_closed combined
      simp only [compile_relook, fold, relook, combined]
      exact restyles.run_related closed document

def markedCommentRule : Rule := { commentRule with kind := .comment }

set_option maxRecDepth 100000 in
/-- A comment of three lines, with and without its last line. -/
theorem fold_restyled_comment :
    [markedCommentRule].map Rule.plain = [commentRule].map Rule.plain ∧
      ((compile [markedCommentRule]).fold (.ofLines ["/*", "x", "*/"])).map Range.extent =
        ((compile [commentRule]).fold (.ofLines ["/*", "x", "*/"])).map Range.extent ∧
      (compile [commentRule.endedBy true]).fold (.ofLines ["/*", "x", "*/"]) = [⟨0, 2, .region⟩] ∧
      (compile [commentRule.endedBy false]).fold (.ofLines ["/*", "x", "*/"]) = [⟨0, 1, .region⟩] := by
  have alike : [markedCommentRule].map Rule.plain = [commentRule].map Rule.plain := by decide +kernel
  have kinds : [markedCommentRule].map Rule.kindless = [commentRule].map Rule.kindless := by
    decide +kernel
  have whole : (compile [commentRule.endedBy true]).fold (.ofLines ["/*", "x", "*/"]) =
      [⟨0, 2, .region⟩] := by decide +kernel
  have without : ∀ r ∈ [commentRule], r.middle.source? = none ∧ r.separator.source? = none := by
    decide +kernel
  have free : ∀ a ∈ (compile [commentRule]).candidates, a.pattern.verboseFree = true := by
    decide +kernel
  have unnamed : ∀ c ∈ (compile [commentRule]).rules, ∀ a ∈ c.inner,
      some unnestedMiddle ∉ a.2.groupNames := by decide +kernel
  obtain ⟨-, -, sameLines, shorter⟩ := fold_restyled alike (.ofLines ["/*", "x", "*/"])
  have shorter := shorter without free fun c member _ text place misnames => by
    obtain ⟨a, inner, named⟩ := misnames.named
    exact unnamed c member a inner named
  exact ⟨alike, sameLines kinds, whole, shorter.trans (by rw [List.map_singleton, whole]; rfl)⟩

set_option maxRecDepth 100000 in
/-- A closing marker that passes for a middle one divides its block, which leaves the same range with and
without the last line. -/
theorem fold_misnamed :
    (∀ r ∈ [CompiledRule.misnamedRule], r.middle.source? = none ∧ r.separator.source? = none) ∧
      (compile ([CompiledRule.misnamedRule].map (.endedBy false))).fold (.ofLines ["a", "x", "b"]) ≠
        ((compile ([CompiledRule.misnamedRule].map (.endedBy true))).fold
          (.ofLines ["a", "x", "b"])).flatMap Range.shortened := by
  decide +kernel

end RuleSet

end Foldmark
