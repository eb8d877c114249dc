import Foldmark.Proofs.Fold.Ranges

/-! What holds of the ranges of every document. They span lines that are there, and come out in closing
order up to one line. Two of them nest or lie apart, unless one ends or begins a line too late. -/
namespace Foldmark

namespace Fold

variable {g : Grammar} {document : Document} {line place : Nat} {text : Line} {s next : State}
  {stack below : List Block} {ranges new : List Range} {top : Block}

/-- What a step adds to the ranges ends on its line or on the one before it. -/
def Emits (line : Nat) (s next : State) : Prop :=
  ∃ new, next.ranges = new ++ s.ranges ∧ ∀ r ∈ new, EndsAt line r

namespace Emits

theorem none (same : next.ranges = s.ranges) : Emits line s next := ⟨[], same, by simp⟩

theorem emit (ends : ∀ r ∈ new, EndsAt line r) : Emits line s (s.emit new) :=
  ⟨new.reverse, rfl, fun r member => ends r (List.mem_reverse.mp member)⟩

theorem trans {middle : State} (first : Emits line s middle) (second : Emits line middle next) :
    Emits line s next := by
  obtain ⟨old, same, oldEnds⟩ := first
  obtain ⟨new, more, newEnds⟩ := second
  refine ⟨new ++ old, by rw [more, same, List.append_assoc], fun r member => ?_⟩
  exact (List.mem_append.mp member).elim (newEnds r) (oldEnds r)

theorem closeTop : Emits line s (s.closeTop g line) := by
  cases stack : s.stack with
  | nil => exact none (by simp [State.closeTop, stack])
  | cons top below =>
    rw [State.closeTop_cons stack]
    exact emit (closed_leaves g top line).endsAt

theorem splitTop : Emits line s (s.splitTop g line) := by
  cases stack : s.stack with
  | nil => exact none (by simp [State.splitTop, stack])
  | cons top below =>
    rw [State.splitTop_cons stack]
    exact emit (before_leaves g top.rule top.start line).endsAt

theorem endSections : Emits line s (s.endSections g line) := by
  refine emit (s := { s with stack := s.stack.dropWhile (·.isSection) }) fun r member => ?_
  obtain ⟨b, -, left⟩ := List.mem_flatMap.mp member
  exact (before_leaves g b.rule b.start line).endsAt r left

end Emits

theorem Move.emits {found : MarkerMatch} {resume : Option Nat}
    (move : Move g line text s found next resume) : Emits line s next := by
  cases move with
  | pass => exact .none rfl
  | pair => exact .none rfl
  | chain => exact .none rfl
  | docstring => exact .none rfl
  | «section» => exact .emit (before_leaves g found.rule s.leading line).endsAt
  | nextSection => exact .splitTop
  | split => exact .trans .endSections .splitTop
  | close => exact .trans .endSections .closeTop
  | goOn => exact .none rfl

theorem Inside.emits {found : UnnestedMatch} {resume : Option Nat}
    (move : Inside g line text s found next resume) : Emits line s next := by
  cases move with
  | empty => exact .none rfl
  | split => exact Emits.splitTop
  | close => exact Emits.closeTop
  | refuse => exact .none rfl

theorem step_emits {further : Nat} (stepped : step g line text s place = some (next, further)) :
    Emits line s next := by
  rcases step_cases stepped with ⟨_, _, _, _, move, _⟩ | ⟨_, _, _, _, _, _, _, move, _⟩
  · exact move.emits
  · exact move.emits

theorem LineEnd.emits (ending : LineEnd g line s next) : Emits line s next := by
  cases ending with
  | pass => exact .none rfl
  | close => exact .closeTop
  | drop => exact .none rfl

theorem finish_emits (g : Grammar) (lines : Nat) (s : State) :
    ∃ new, s.finish g lines = s.ranges.reverse ++ new ∧
      ∀ r ∈ new, r.start < r.stop ∧ r.stop + 1 = lines := by
  refine ⟨(s.stack.filter (·.isSection)).flatMap fun b => g.before b.rule b.start lines,
    by simp [State.finish], fun r member => ?_⟩
  obtain ⟨b, -, left⟩ := List.mem_flatMap.mp member
  exact ⟨((before_leaves g b.rule b.start lines).endsAt r left).1, before_stop r left⟩

/-- How the open blocks and the ranges of a state lie, from the start of a line to its end. -/
def Valid (g : Grammar) (line : Nat) (s : State) : Prop :=
  Stacked g line s.stack ∧ Laid g line s.stack s.ranges

theorem step_valid (closed : g.Closed) (valid : Valid g line s) {further : Nat}
    (stepped : step g line text s place = some (next, further)) : Valid g line next :=
  ⟨step_stacked closed valid.1 stepped, step_laid closed valid.1 valid.2 stepped⟩

theorem endLine_valid (valid : Valid g line s) : Valid g line (s.endLine g line) := by
  have ending := endLine_lineEnd g line s
  exact ⟨ending.stacked valid.1, ending.laid valid.1 valid.2⟩

theorem before_valid (closed : g.Closed) (bound : line ≤ document.length) :
    Valid g line (before g document line) := by
  refine reaches_invariant (P := Valid g) ⟨.nil, .nil⟩ ?_ ?_ (.lineStart bound)
  · exact fun line text s place next further valid stepped => step_valid closed valid stepped
  · intro line s valid
    obtain ⟨stacked, laid⟩ := endLine_valid valid
    exact ⟨stacked.later, laid.later⟩

/-- In front of a line, all ranges end before it: those that came out on the line before end on that
line at most. -/
theorem before_stop_lt (closed : g.Closed) (bound : line ≤ document.length) :
    ∀ r ∈ (before g document line).ranges, r.stop < line := by
  cases line with
  | zero => simp [before, readLines, State.start]
  | succ line =>
    have read := @steps_invariant g line 0 document[line] _ _ (document[line].size + 1)
      (before_valid closed (Nat.le_of_lt bound))
      (fun s place next further valid stepped => step_valid closed valid stepped)
    rw [before_succ (List.getElem?_eq_getElem bound)]
    exact fun r member => Nat.lt_succ_of_le ((endLine_valid read).2.spans r member).2

theorem run_laid (closed : g.Closed) :
    (∀ r ∈ run g document, r.start < r.stop ∧ r.stop < document.length ∧
      ∃ rule ∈ g.rules, rule.kind = r.kind) ∧
      (run g document).Pairwise Precedes := by
  obtain ⟨valid, laid⟩ := before_valid closed (Nat.le_refl document.length)
  obtain ⟨new, added, last⟩ :=
    finish_emits g document.length (before g document document.length)
  have finished := laid.finish valid
  rw [run_eq_finish]
  refine ⟨fun r member => ?_, List.pairwise_reverse.mp finished.pairs⟩
  have reversed := List.mem_reverse.mpr member
  refine ⟨(finished.spans r reversed).1, ?_, finished.kinds r reversed⟩
  rw [added] at member
  rcases List.mem_append.mp member with old | fresh
  · exact before_stop_lt closed (Nat.le_refl _) r (List.mem_reverse.mp old)
  · exact Nat.lt_of_succ_le (Nat.le_of_eq (last r fresh).2)

end Fold

namespace RuleSet

open Fold

theorem compile_closed {rules : List Rule} {m : Master} (h : (compile rules).master = some m) :
    Grammar.Closed ⟨(compile rules).rules, m⟩ := by
  obtain ⟨pattern, -, rfl⟩ := Master.build_groups (compile_master h).2
  exact fun group member => (Master.mem_groupsOf member).1

theorem fold_laid (rules : List Rule) (document : Document) :
    (∀ r ∈ (compile rules).fold document, r.start < r.stop ∧ r.stop < document.length ∧
      ∃ rule ∈ (compile rules).rules, rule.kind = r.kind) ∧
      ((compile rules).fold document).Pairwise Precedes := by
  unfold fold
  split
  · simp
  · rename_i m combined
    exact run_laid (compile_closed combined)

/-- Every range spans lines that are there and has the kind of a rule. Ranges come out in closing
order, up to one line, and no step of the scan takes a line number below zero. -/
theorem fold_in_order (rules : List Rule) (document : Document) :
    (∀ r ∈ (compile rules).fold document, r.start < r.stop ∧ r.stop < document.length ∧
      ∃ rule ∈ (compile rules).rules, rule.kind = r.kind) ∧
    ((compile rules).fold document).Pairwise (fun first later => first.stop ≤ later.stop + 1) ∧
    ∀ (g : Grammar) (s : State),
      (∀ line text place next further,
        step g line text s place = some (next, further) → Emits line s next) ∧
      (∀ line, Emits line s (s.endLine g line)) ∧
      ∃ new, s.finish g document.length = s.ranges.reverse ++ new ∧
        ∀ r ∈ new, r.start < r.stop ∧ r.stop + 1 = document.length := by
  obtain ⟨within, pairs⟩ := fold_laid rules document
  refine ⟨within, pairs.imp fun precedes => precedes.1, fun g s => ⟨?_, ?_, ?_⟩⟩
  · exact fun line text place next further stepped => step_emits stepped
  · exact fun line => (endLine_lineEnd g line s).emits
  · exact finish_emits g document.length s

/-- A later range that overlaps an earlier one and begins a line behind its beginning, or ends a line
in front of its end. -/
def OffByOne (first later : Range) : Prop :=
  later.start < first.stop ∧ (later.start = first.start + 1 ∨ first.stop = later.stop + 1)

/-- A later range contains an earlier one or lies behind it, unless one line is missing from it. -/
theorem fold_nested_or_apart (rules : List Rule) (document : Document) :
    ((compile rules).fold document).Pairwise fun first later =>
      (later.contains first = true ∨ first.stop ≤ later.start ↔ ¬OffByOne first later) ∧
      (first.stop ≤ later.start ∨
        later.start ≤ first.start + 1 ∧ first.stop ≤ later.stop + 1) := by
  refine (fold_laid rules document).2.imp fun {first later} precedes => ?_
  obtain ⟨ends, begins⟩ := precedes
  simp only [Range.contains, OffByOne, Bool.and_eq_true, decide_eq_true_eq]
  omega

/-- Where a block closes on the line that divides the block around it, its range reaches one line
further than the part that is cut off. -/
theorem fold_crossing : ¬∀ (rules : List Rule) (document : Document),
    ((compile rules).fold document).Pairwise fun first later =>
      later.contains first = true ∨ first.stop ≤ later.start := by
  intro nested
  have crossing := nested
    [{ Rule.ofTexts "#if" "#endif" with middle := { text := some "#else" } }, .ofTexts "(" ")"]
    (.ofLines ["#if", "(", "a", ") #else", "b", "#endif"])
  revert crossing
  decide +kernel

end RuleSet

end Foldmark
