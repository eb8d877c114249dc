import Foldmark.Proofs.Fold.Stack

/-! The ranges of a scan. A range ends on the line on which it comes out or on the line before, and
lies apart from every open block or inside it. Two ranges therefore nest or lie apart up to one
line, and come out in the order of their ends up to one line. -/
namespace Foldmark.Fold

variable {g : Grammar} {document : Document} {line place : Nat} {text : Line} {s next : State}
  {stack below : List Block} {ranges new : List Range} {top : Block}

/-- A range that comes out on a line spans lines, and ends on the line or on the one before it, which
is there: no line number was taken below zero. -/
def EndsAt (line : Nat) (r : Range) : Prop :=
  r.start < r.stop ∧ (r.stop = line ∨ r.stop + 1 = line)

/-- At most one range, which a block with a rule and a first line leaves on a line. -/
def Leaves (g : Grammar) (line rule start : Nat) (new : List Range) : Prop :=
  new = [] ∨ ∃ r, new = [r] ∧ r.start = start ∧ EndsAt line r ∧ r.kind = g.kind rule

theorem before_leaves (g : Grammar) (rule start line : Nat) :
    Leaves g line rule start (g.before rule start line) := by
  unfold Grammar.before
  split
  · refine .inr ⟨_, rfl, rfl, ⟨?_, ?_⟩, rfl⟩ <;> dsimp only <;> omega
  · exact .inl rfl

theorem closed_leaves (g : Grammar) (b : Block) (line : Nat) :
    Leaves g line b.rule b.start (g.closed b line) := by
  unfold Grammar.closed
  split
  · split
    · rename_i spans
      exact .inr ⟨_, rfl, rfl, ⟨spans, .inl rfl⟩, rfl⟩
    · exact .inl rfl
  · exact before_leaves g b.rule b.start line

theorem Leaves.endsAt {rule start : Nat} (leaves : Leaves g line rule start new) :
    ∀ r ∈ new, EndsAt line r := by
  rcases leaves with rfl | ⟨r, rfl, -, ends, -⟩
  · simp
  · simpa using ends

theorem before_stop {rule start : Nat} : ∀ r ∈ g.before rule start line, r.stop + 1 = line := by
  intro r member
  unfold Grammar.before at member
  split at member
  · simp only [List.mem_singleton] at member
    subst member
    dsimp only
    omega
  · simp at member

theorem kind_mem {rule : Nat} (known : rule < g.rules.length) :
    ∃ r ∈ g.rules, r.kind = g.kind rule :=
  ⟨g.rules[rule], List.getElem_mem known, by simp [Grammar.kind, known]⟩

def Precedes (first later : Range) : Prop :=
  first.stop ≤ later.stop + 1 ∧ (first.stop ≤ later.start ∨ later.start ≤ first.start + 1)

/-- Ranges, newest first, that came out up to a line while blocks are open. -/
structure Laid (g : Grammar) (line : Nat) (stack : List Block) (ranges : List Range) : Prop where
  spans : ∀ r ∈ ranges, r.start < r.stop ∧ r.stop ≤ line
  kinds : ∀ r ∈ ranges, ∃ rule ∈ g.rules, rule.kind = r.kind
  apart : ∀ r ∈ ranges, ∀ b ∈ stack, r.stop ≤ b.start ∨ b.start ≤ r.start
  pairs : ranges.Pairwise fun later first => Precedes first later

namespace Laid

theorem nil : Laid g line stack [] := by
  constructor <;> simp

theorem later (laid : Laid g line stack ranges) : Laid g (line + 1) stack ranges :=
  ⟨fun r member => ⟨(laid.spans r member).1, Nat.le_succ_of_le (laid.spans r member).2⟩,
    laid.kinds, laid.apart, laid.pairs⟩

theorem subset (laid : Laid g line stack ranges) (inside : below ⊆ stack) :
    Laid g line below ranges :=
  ⟨laid.spans, laid.kinds, fun r member b isOpen => laid.apart r member b (inside isOpen), laid.pairs⟩

theorem push (laid : Laid g line stack ranges) {b : Block} (fresh : b.start = line) :
    Laid g line (b :: stack) ranges := by
  refine ⟨laid.spans, laid.kinds, fun r member => ?_, laid.pairs⟩
  refine List.forall_mem_cons.mpr ⟨.inl ?_, laid.apart r member⟩
  rw [fresh]
  exact (laid.spans r member).2

/-- A range may come out that begins where no open block begins later, and behind no range that it
would cut by more than a line. -/
theorem emit {rule start : Nat} (laid : Laid g line stack ranges)
    (leaves : Leaves g line rule start new) (known : rule < g.rules.length)
    (outer : ∀ b ∈ stack, b.start ≤ start)
    (inner : ∀ r ∈ ranges, r.stop ≤ start ∨ start ≤ r.start + 1) :
    Laid g line stack (new.reverse ++ ranges) := by
  rcases leaves with rfl | ⟨r, rfl, rfl, ⟨spans, ends⟩, kind⟩
  · exact laid
  · simp only [List.reverse_singleton, List.singleton_append]
    refine ⟨?_, ?_, ?_, ?_⟩
    · exact List.forall_mem_cons.mpr ⟨⟨spans, by omega⟩, laid.spans⟩
    · exact List.forall_mem_cons.mpr ⟨by rw [kind]; exact kind_mem known, laid.kinds⟩
    · exact List.forall_mem_cons.mpr ⟨fun b member => .inr (outer b member), laid.apart⟩
    · refine List.pairwise_cons.mpr ⟨fun first member => ⟨?_, inner first member⟩, laid.pairs⟩
      have := (laid.spans first member).2
      omega

theorem pop (laid : Laid g line (top :: below) ranges) (valid : Stacked g line (top :: below))
    (leaves : Leaves g line top.rule top.start new) : Laid g line below (new.reverse ++ ranges) := by
  refine (laid.subset (List.subset_cons_self _ _)).emit leaves
    (valid.known top List.mem_cons_self) (List.pairwise_cons.mp valid.sorted).1 ?_
  intro r member
  have := laid.apart r member top List.mem_cons_self
  omega

/-- Blocks on top may go one after the other, and some of them leave what was in front of the
line. -/
theorem unwind (leaving : Block → Bool) (front : List Block)
    (laid : Laid g line (front ++ stack) ranges) (valid : Stacked g line (front ++ stack)) :
    Laid g line stack
      (((front.filter leaving).flatMap fun b => g.before b.rule b.start line).reverse ++ ranges) := by
  induction front generalizing ranges with
  | nil => exact laid
  | cons top rest ih =>
    have under := valid.suffix (List.suffix_cons top (rest ++ stack))
    by_cases leaves : leaving top = true
    · simp only [List.filter_cons_of_pos leaves, List.flatMap_cons, List.reverse_append,
        List.append_assoc]
      exact ih (laid.pop valid (before_leaves g top.rule top.start line)) under
    · rw [List.filter_cons_of_neg leaves]
      exact ih (laid.subset (List.subset_cons_self _ _)) under

theorem endSections (laid : Laid g line s.stack s.ranges) (valid : Stacked g line s.stack) :
    Laid g line (s.endSections g line).stack (s.endSections g line).ranges := by
  have divided := List.takeWhile_append_dropWhile (p := fun b : Block => b.isSection) (l := s.stack)
  have sections : ∀ b ∈ s.stack.takeWhile (·.isSection), b.isSection = true :=
    List.all_eq_true.mp List.all_takeWhile
  rw [← divided] at laid valid
  have unwound := laid.unwind (fun b => b.isSection) _ valid
  rwa [List.filter_eq_self.mpr sections] at unwound

theorem closeTop (laid : Laid g line s.stack s.ranges) (valid : Stacked g line s.stack)
    (stack : s.stack = top :: below) :
    Laid g line (s.closeTop g line).stack (s.closeTop g line).ranges := by
  rw [State.closeTop_cons stack]
  exact (stack ▸ laid).pop (stack ▸ valid) (closed_leaves g top line)

theorem splitTop (laid : Laid g line s.stack s.ranges) (valid : Stacked g line s.stack)
    (stack : s.stack = top :: below) :
    Laid g line (s.splitTop g line).stack (s.splitTop g line).ranges := by
  rw [State.splitTop_cons stack]
  exact ((stack ▸ laid).pop (stack ▸ valid) (before_leaves g top.rule top.start line)).push rfl

/-- A leading section begins behind the first line of the block around it, and thereby up to one line
behind the first line of a range inside that block. -/
theorem leading {rule : Nat} (laid : Laid g line s.stack s.ranges)
    (valid : Stacked g line s.stack) (known : rule < g.rules.length) :
    Laid g line s.stack (s.emit (g.before rule s.leading line)).ranges := by
  refine laid.emit (before_leaves g rule s.leading line) known (fun b member => ?_)
    (fun r member => ?_)
  · cases stack : s.stack with
    | nil => simp [stack] at member
    | cons top below =>
      simp only [State.leading, stack]
      rw [stack] at member valid
      rcases List.mem_cons.mp member with rfl | under
      · omega
      · have := (List.pairwise_cons.mp valid.sorted).1 b under
        omega
  · cases stack : s.stack with
    | nil => simp [State.leading, stack]
    | cons top below =>
      have := laid.apart r member top (by simp [stack])
      simp only [State.leading, stack]
      omega

theorem finish (laid : Laid g line s.stack s.ranges) (valid : Stacked g line s.stack) :
    Laid g line [] (s.finish g line).reverse := by
  have divided : s.stack = s.stack ++ [] := (List.append_nil _).symm
  rw [divided] at laid valid
  have unwound := laid.unwind (fun b => b.isSection) _ valid
  rw [State.finish, List.reverse_reverse]
  exact unwound

end Laid

theorem Move.laid {found : MarkerMatch} {resume : Option Nat}
    (move : Move g line text s found next resume) (valid : Stacked g line s.stack)
    (known : found.rule < g.rules.length) (laid : Laid g line s.stack s.ranges) :
    Laid g line next.stack next.ranges := by
  have ended := laid.endSections valid
  have outside : Stacked g line (s.endSections g line).stack :=
    valid.suffix (List.dropWhile_suffix _)
  cases move with
  | pass => exact laid
  | pair => exact laid.push rfl
  | chain => exact laid.push rfl
  | docstring => exact laid.push rfl
  | «section» => exact (laid.leading valid known).push rfl
  | nextSection top below _ stack => exact laid.splitTop valid stack
  | split owner _ owned =>
    obtain ⟨-, below, rest⟩ := State.owner?_eq_some owned
    exact ended.splitTop outside rest
  | close owner _ owned =>
    obtain ⟨-, below, rest⟩ := State.owner?_eq_some owned
    exact ended.closeTop outside rest
  | goOn top below _ stack =>
    rw [stack] at laid
    refine ⟨laid.spans, laid.kinds, fun r member => ?_, laid.pairs⟩
    exact List.forall_mem_cons.mpr ((List.forall_mem_cons.mp (laid.apart r member)))

theorem Inside.laid {found : UnnestedMatch} {resume : Option Nat}
    (move : Inside g line text s found next resume) (valid : Stacked g line s.stack)
    (laid : Laid g line s.stack s.ranges) : Laid g line next.stack next.ranges := by
  cases move with
  | empty => exact laid
  | split top below stack => exact laid.splitTop valid stack
  | close top below _ stack => exact laid.closeTop valid stack
  | refuse => exact laid

theorem LineEnd.laid (ending : LineEnd g line s next) (valid : Stacked g line s.stack)
    (laid : Laid g line s.stack s.ranges) : Laid g line next.stack next.ranges := by
  cases ending with
  | pass => exact laid
  | close top below _ stack => exact laid.closeTop valid stack
  | drop top below stack => exact (stack ▸ laid).subset (List.subset_cons_self _ _)

theorem step_laid (closed : g.Closed) (valid : Stacked g line s.stack)
    (laid : Laid g line s.stack s.ranges) {further : Nat}
    (stepped : step g line text s place = some (next, further)) :
    Laid g line next.stack next.ranges := by
  rcases step_cases stepped with ⟨found, _, _, atPlace, move, _⟩ | ⟨_, _, _, _, _, _, _, move, _⟩
  · exact move.laid valid (closed.rule_lt atPlace) laid
  · exact move.laid valid laid

end Foldmark.Fold
