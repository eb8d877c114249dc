import Foldmark.Proofs.Fold.State

/-! Scans that differ only in the numbers of rules and lines. What a marker does depends on which rules are
the same and on how many lines lie between two lines, so a scan can be read off another one in which
the rules have other numbers, other lines stand in front and other ranges have been found before. -/
namespace Foldmark

def Range.later (lines : Nat) (r : Range) : Range := ⟨r.start + lines, r.stop + lines, r.kind⟩

theorem Range.later_zero : Range.later 0 = id := rfl

namespace Fold

/-- How a scan appears in another one: the number that each rule has there, how many lines stand in
front there, and the ranges that have been found in those, newest first. -/
structure Transport where
  rule : Nat → Nat
  lines : Nat
  ranges : List Range

namespace Transport

def block (t : Transport) (b : Block) : Block :=
  { b with
    rule := t.rule b.rule
    start := b.start + t.lines
    continued := b.continued.map (· + t.lines) }

def mode (t : Transport) : Mode → Mode
  | .normal => .normal
  | .unnested rule => .unnested (t.rule rule)

def state (t : Transport) (s : State) : State :=
  ⟨s.stack.map t.block, s.ranges.map (.later t.lines) ++ t.ranges, t.mode s.mode⟩

/-- The rules of a grammar have other numbers in another one. -/
structure Renames (t : Transport) (g g' : Grammar) : Prop where
  injective : Function.Injective t.rule
  known : ∀ rule, g'.rules[t.rule rule]? = g.rules[rule]?

/-- What the groups of an opening marker cover, from which a closing marker may be made. -/
def captured (g : Grammar) (text : Line) (found : MarkerMatch) : Nat → Option (List Char) :=
  fun number => (g.master.openingGroup? found number).map fun span => text.slice span.start span.stop

/-- A marker and the same marker in the other scan. A separator counts the lines from the beginning of the
document, so it is the same one only if no lines are put in front. -/
structure Same (t : Transport) (g g' : Grammar) (text : Line) (found found' : MarkerMatch) : Prop where
  role : found'.role = found.role
  rule : found'.rule = t.rule found.rule
  start : found'.start = found.start
  stop : found'.stop = found.stop
  counted : found.role = .separator → t.lines = 0
  expected : found.role = .opening → ∀ r ∈ g.rules[found.rule]?, ∀ mirror ∈ r.mirror?,
    mirror.expect (captured g' text found') = mirror.expect (captured g text found)

/-- Wherever a marker is looked for in a line, both patterns find the same one. -/
def Finds (t : Transport) (g g' : Grammar) (text : Line) : Prop :=
  ∀ place, Option.Rel (t.Same g g' text) (g.master.findAt text place) (g'.master.findAt text place)

variable {t : Transport} {g g' : Grammar} {s : State} {line place : Nat} {text : Line}
  {found found' : MarkerMatch}

@[simp] theorem block_rule (b : Block) : (t.block b).rule = t.rule b.rule := rfl
@[simp] theorem block_start (b : Block) : (t.block b).start = b.start + t.lines := rfl
@[simp] theorem block_expected (b : Block) : (t.block b).expected = b.expected := rfl
@[simp] theorem block_isSection (b : Block) : (t.block b).isSection = b.isSection := rfl
@[simp] theorem block_continued (b : Block) :
    (t.block b).continued = b.continued.map (· + t.lines) := rfl
@[simp] theorem state_stack (s : State) : (t.state s).stack = s.stack.map t.block := rfl
@[simp] theorem state_mode (s : State) : (t.state s).mode = t.mode s.mode := rfl
@[simp] theorem state_ranges (s : State) :
    (t.state s).ranges = s.ranges.map (.later t.lines) ++ t.ranges := rfl

theorem block_isSection_comp : (fun b : Block => b.isSection) ∘ t.block = fun b => b.isSection := rfl

namespace Renames

variable (renames : t.Renames g g')

include renames

theorem kind (rule : Nat) : g'.kind (t.rule rule) = g.kind rule := by
  simp only [Grammar.kind, renames.known]

theorem nests (rule : Nat) : g'.nests (t.rule rule) = g.nests rule := by
  simp only [Grammar.nests, renames.known]

theorem foldsLastLine (rule : Nat) : g'.foldsLastLine (t.rule rule) = g.foldsLastLine rule := by
  simp only [Grammar.foldsLastLine, renames.known]

theorem isContinuation (rule : Nat) : g'.isContinuation (t.rule rule) = g.isContinuation rule := by
  simp only [Grammar.isContinuation, renames.known]

theorem before (rule start line : Nat) :
    g'.before (t.rule rule) (start + t.lines) (line + t.lines) =
      (g.before rule start line).map (.later t.lines) := by
  unfold Grammar.before
  by_cases spans : start + 1 < line
  · rw [if_pos spans, if_pos (by omega), renames.kind]
    simp only [List.map_cons, List.map_nil, Range.later, List.cons.injEq, Range.mk.injEq, and_true,
      true_and]
    omega
  · rw [if_neg spans, if_neg (by omega), List.map_nil]

theorem closed (b : Block) (line : Nat) :
    g'.closed (t.block b) (line + t.lines) = (g.closed b line).map (.later t.lines) := by
  unfold Grammar.closed
  rw [block_rule, block_start, renames.foldsLastLine, renames.kind, renames.before]
  simp only [Nat.add_lt_add_iff_right]
  split
  · split <;> rfl
  · rfl

end Renames

theorem emit (s : State) (ranges : List Range) :
    (t.state s).emit (ranges.map (.later t.lines)) = t.state (s.emit ranges) := by
  simp [State.emit, state, List.map_append]

theorem push_new (s : State) (rule line : Nat) (expected : Option ExpectedEnd) (isSection : Bool) :
    (t.state s).push { rule := t.rule rule, start := line + t.lines, expected, isSection } =
      t.state (s.push { rule, start := line, expected, isSection }) := rfl

section Steps

variable (renames : t.Renames g g')

include renames

theorem mayOpen (s : State) : (t.state s).mayOpen g' = s.mayOpen g := by
  cases stack : s.stack with
  | nil => simp [State.mayOpen, stack]
  | cons top below => simp [State.mayOpen, stack, renames.nests]

theorem closeTop (s : State) (line : Nat) :
    (t.state s).closeTop g' (line + t.lines) = t.state (s.closeTop g line) := by
  cases stack : s.stack with
  | nil => simp [State.closeTop, stack]
  | cons top below =>
    have stack' : (t.state s).stack = t.block top :: below.map t.block := by simp [stack]
    rw [State.closeTop_cons stack, State.closeTop_cons stack', renames.closed]
    simp [state]

theorem splitTop (s : State) (line : Nat) :
    (t.state s).splitTop g' (line + t.lines) = t.state (s.splitTop g line) := by
  cases stack : s.stack with
  | nil => simp [State.splitTop, stack]
  | cons top below =>
    have stack' : (t.state s).stack = t.block top :: below.map t.block := by simp [stack]
    rw [State.splitTop_cons stack, State.splitTop_cons stack', block_rule, block_start, renames.before]
    simp [state, block]

theorem owner? (s : State) (rule : Nat) :
    (t.state s).owner? (t.rule rule) = (s.owner? rule).map t.block := by
  unfold State.owner?
  rw [state_stack, List.dropWhile_map, block_isSection_comp]
  cases s.stack.dropWhile fun b => b.isSection with
  | nil => rfl
  | cons b below =>
    simp only [List.map_cons, block_rule, renames.injective.eq_iff]
    split <;> rfl

theorem sections (blocks : List Block) (line : Nat) :
    (blocks.map t.block).flatMap (fun b => g'.before b.rule b.start (line + t.lines)) =
      (blocks.flatMap fun b => g.before b.rule b.start line).map (.later t.lines) := by
  simp [List.flatMap_map, List.map_flatMap, renames.before]

theorem endSections (s : State) (line : Nat) :
    (t.state s).endSections g' (line + t.lines) = t.state (s.endSections g line) := by
  unfold State.endSections
  rw [state_stack, List.takeWhile_map, List.dropWhile_map, block_isSection_comp, sections renames]
  exact emit { s with stack := s.stack.dropWhile fun b => b.isSection } _

theorem openBlock (same : t.Same g g' text found found') (role : found.role = .opening) (s : State)
    (line : Nat) : (t.state s).openBlock g' (line + t.lines) text found' =
      t.state (s.openBlock g line text found) := by
  unfold State.openBlock
  rw [same.rule, renames.known]
  cases known : g.rules[found.rule]? with
  | none => rfl
  | some r =>
    cases matchers : r.matchers with
    | docstring => simp only [matchers]
    | separator => simp only [matchers]
    | paired first between last unnested mirror =>
      have alike : (mirror.map fun m => m.expect (captured g' text found')) =
          mirror.map fun m => m.expect (captured g text found) := by
        refine Option.map_congr fun m isMirror => same.expected role r known m ?_
        simp [CompiledRule.mirror?, matchers, isMirror]
      unfold captured at alike
      simp only [matchers, alike]
      split <;> rfl
    | continuation first suffix =>
      cases stack : s.stack with
      | nil =>
        simp only [matchers, state_stack, stack, List.map_nil]
        split <;> rfl
      | cons top below =>
        simp only [matchers, state_stack, stack, List.map_cons, block_rule, renames.injective.eq_iff]
        split <;> rfl

theorem separate (unmoved : t.lines = 0) (s : State) (line rule : Nat) :
    (t.state s).separate g' (line + t.lines) (t.rule rule) = t.state (s.separate g line rule) := by
  have leading (start : Nat) : g'.before (t.rule rule) start (line + t.lines) =
      (g.before rule start line).map (.later t.lines) := by
    rw [← renames.before, unmoved, Nat.add_zero start]
  cases stack : s.stack with
  | nil =>
    simp only [State.separate, state_stack, stack, List.map_nil, leading, emit]
    exact push_new _ rule line none true
  | cons top below =>
    have begun : top.start + t.lines + 1 = top.start + 1 := by rw [unmoved]
    simp only [State.separate, state_stack, stack, List.map_cons, block_rule, block_start, block_isSection,
      renames.injective.eq_iff, renames.nests, begun, leading, emit, splitTop renames]
    split
    · rfl
    · split
      · exact push_new _ rule line none true
      · rfl

theorem onMarker (same : t.Same g g' text found found') (s : State) (line : Nat) :
    (t.state s).onMarker g' (line + t.lines) text found' =
      (t.state (s.onMarker g line text found).1, (s.onMarker g line text found).2) := by
  unfold State.onMarker
  rw [same.role, same.rule, same.start, owner? renames]
  cases role : found.role with
  | opening =>
    simp only [mayOpen renames, openBlock renames same role]
    split <;> rfl
  | middle =>
    cases s.owner? found.rule with
    | none => rfl
    | some b => simp only [Option.map_some, endSections renames, splitTop renames]
  | closing =>
    cases s.owner? found.rule with
    | none => rfl
    | some b =>
      simp only [Option.map_some, State.accepts, block_expected]
      split
      · rfl
      · simp only [endSections renames, closeTop renames]
  | continuation =>
    cases stack : s.stack with
    | nil => simp [stack]
    | cons top below =>
      simp only [state_stack, stack, List.map_cons, block_rule, renames.injective.eq_iff]
      split <;> simp [state, block, stack]
  | docstring =>
    cases s.owner? found.rule with
    | none =>
      simp only [Option.map_none, mayOpen renames]
      split
      · exact congrArg (·, none) (push_new s found.rule line none false)
      · rfl
    | some b => simp only [Option.map_some, endSections renames, closeTop renames]
  | separator => simp only [separate renames (same.counted role)]

theorem onUnnested (s : State) (line : Nat) (text : Line) (found : UnnestedMatch) :
    (t.state s).onUnnested g' (line + t.lines) text found =
      (t.state (s.onUnnested g line text found).1, (s.onUnnested g line text found).2) := by
  unfold State.onUnnested
  cases stack : s.stack with
  | nil => simp [state, mode, stack]
  | cons top below =>
    simp only [state_stack, stack, List.map_cons, State.accepts, block_expected, block_rule,
      splitTop renames, closeTop renames]
    split
    · rfl
    · split <;> simp [state, mode, stack]

theorem endLine (s : State) (line : Nat) :
    (t.state s).endLine g' (line + t.lines) = t.state (s.endLine g line) := by
  unfold State.endLine
  cases stack : s.stack with
  | nil => simp [stack]
  | cons top below =>
    simp only [state_stack, stack, List.map_cons, block_rule, renames.isContinuation, block_continued,
      closeTop renames]
    split
    · rfl
    · cases top.continued with
      | none =>
        simp only [Option.map_none, block_start, Nat.add_right_cancel_iff]
        split <;> rfl
      | some last =>
        simp only [Option.map_some, Nat.add_right_cancel_iff]
        split <;> rfl

theorem finish (s : State) (lines : Nat) :
    (t.state s).finish g' (lines + t.lines) =
      t.ranges.reverse ++ (s.finish g lines).map (.later t.lines) := by
  have filtered : (s.stack.map t.block).filter (fun b => b.isSection) =
      (s.stack.filter fun b => b.isSection).map t.block := by
    rw [List.filter_map, block_isSection_comp]
  simp [State.finish, filtered, sections renames]

theorem step (finds : t.Finds g g' text) (s : State) (line place : Nat) :
    Fold.step g' (line + t.lines) text (t.state s) place =
      (Fold.step g line text s place).map fun (s, place) => (t.state s, place) := by
  unfold Fold.step
  cases mode : s.mode with
  | normal =>
    have searched := finds place
    simp only [state_mode, mode, Transport.mode]
    revert searched
    cases g.master.findAt text place <;> cases g'.master.findAt text place <;> intro searched
    · rfl
    · cases searched
    · cases searched
    · rename_i found found'
      obtain ⟨same⟩ := searched
      simp [onMarker renames same, same.start, same.stop]
  | unnested rule =>
    simp only [state_mode, mode, Transport.mode, renames.known]
    cases g.rules[rule]? with
    | none => rfl
    | some r => cases searched : r.findUnnested text place <;> simp [searched, onUnnested renames]

theorem steps (finds : t.Finds g g' text) (line count : Nat) (s : State) (place : Nat) :
    Fold.steps g' (line + t.lines) text count (t.state s) place =
      t.state (Fold.steps g line text count s place) := by
  induction count generalizing s place with
  | zero => rfl
  | succ count ih =>
    simp only [Fold.steps, step renames finds]
    split
    · cases Fold.step g line text s place with
      | none => rfl
      | some next => exact ih next.1 next.2
    · rfl

theorem readLines (document : Document) (finds : ∀ text ∈ document, t.Finds g g' text) (line : Nat)
    (s : State) : Fold.readLines g' (line + t.lines) document (t.state s) =
      t.state (Fold.readLines g line document s) := by
  induction document generalizing line s with
  | nil => rfl
  | cons text rest ih =>
    obtain ⟨here, further⟩ := List.forall_mem_cons.mp finds
    rw [Fold.readLines, Fold.readLines, readLine, readLine, steps renames here, endLine renames,
      Nat.add_right_comm, ih further]

end Steps

theorem run_eq {rule : Nat → Nat} (renames : (Transport.mk rule 0 []).Renames g g') (document : Document)
    (finds : ∀ text ∈ document, (Transport.mk rule 0 []).Finds g g' text) :
    run g' document = run g document := by
  have read := readLines renames document finds 0 .start
  have begun : (Transport.mk rule 0 []).state .start = .start := rfl
  rw [begun] at read
  have ended := finish renames (Fold.readLines g 0 document .start) document.length
  rw [← read, Range.later_zero, List.map_id] at ended
  exact ended

end Transport

end Fold

end Foldmark
