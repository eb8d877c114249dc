import Foldmark.Fold
import Foldmark.Proofs.Rule.Compiled

/-! The states of a scan. `Reaches` holds of the states between two markers, `reaches_invariant` carries
a property through a whole scan, and `Move`, `Inside` and `LineEnd` say once what a marker and the
end of a line can do to a state. -/
namespace Foldmark.Fold

variable {g : Grammar} {document : Document} {line place : Nat} {text : Line} {s : State}

namespace State

@[simp] theorem emit_stack (s : State) (ranges : List Range) : (s.emit ranges).stack = s.stack := rfl
@[simp] theorem emit_mode (s : State) (ranges : List Range) : (s.emit ranges).mode = s.mode := rfl
@[simp] theorem emit_ranges (s : State) (ranges : List Range) :
    (s.emit ranges).ranges = ranges.reverse ++ s.ranges := rfl
@[simp] theorem push_stack (s : State) (b : Block) : (s.push b).stack = b :: s.stack := rfl
@[simp] theorem push_mode (s : State) (b : Block) : (s.push b).mode = s.mode := rfl
@[simp] theorem push_ranges (s : State) (b : Block) : (s.push b).ranges = s.ranges := rfl

theorem closeTop_cons {top : Block} {below : List Block} (h : s.stack = top :: below) :
    s.closeTop g line = ⟨below, (g.closed top line).reverse ++ s.ranges, s.mode⟩ := by
  simp [closeTop, h, emit]

theorem splitTop_cons {top : Block} {below : List Block} (h : s.stack = top :: below) :
    s.splitTop g line = ⟨{ top with start := line } :: below,
      (g.before top.rule top.start line).reverse ++ s.ranges, s.mode⟩ := by
  simp [splitTop, h, emit]

/-- The block that a marker finds open is the innermost one when the sections inside it end. -/
theorem owner?_eq_some {rule : Nat} {b : Block} (h : s.owner? rule = some b) :
    b.rule = rule ∧ ∃ below, (s.endSections g line).stack = b :: below := by
  unfold owner? at h
  split at h
  · contradiction
  · rename_i first below stack
    split at h
    · rename_i same
      cases h
      exact ⟨same, below, stack⟩
    · contradiction

/-- The line after the first line of the innermost block, from which a leading section counts. -/
def leading (s : State) : Nat :=
  match s.stack with
  | [] => 0
  | top :: _ => top.start + 1

end State

def before (g : Grammar) (document : Document) (line : Nat) : State :=
  readLines g 0 (document.take line) .start

/-- The states of a scan in a line, with the place from which the next marker is looked for. -/
inductive Reaches (g : Grammar) (document : Document) (line : Nat) : Nat → State → Prop where
  | lineStart : line ≤ document.length → Reaches g document line 0 (before g document line)
  | marker {text : Line} {place further : Nat} {s next : State} : document[line]? = some text →
      Reaches g document line place s → place ≤ text.size →
      step g line text s place = some (next, further) → Reaches g document line further next

theorem readLines_append (first second : List Line) (line : Nat) (s : State) :
    readLines g line (first ++ second) s =
      readLines g (line + first.length) second (readLines g line first s) := by
  induction first generalizing line s with
  | nil => rfl
  | cons text rest ih =>
    simp only [List.cons_append, readLines, List.length_cons]
    rw [ih, Nat.add_assoc, Nat.add_comm 1]

theorem before_succ (h : document[line]? = some text) :
    before g document (line + 1) = readLine g line text (before g document line) := by
  obtain ⟨bound, rfl⟩ := List.getElem?_eq_some_iff.mp h
  have length : (document.take line).length = line := List.length_take_of_le (Nat.le_of_lt bound)
  rw [before, List.take_succ_eq_append_getElem bound, readLines_append, length, Nat.zero_add]
  rfl

theorem run_eq_finish (g : Grammar) (document : Document) :
    run g document = (before g document document.length).finish g document.length := by
  rw [run, before, List.take_length]

theorem steps_invariant {P : State → Prop} (count : Nat) (valid : P s)
    (marker : ∀ s place next further, P s →
      step g line text s place = some (next, further) → P next) :
    P (steps g line text count s place) := by
  induction count generalizing s place with
  | zero => exact valid
  | succ count ih =>
    simp only [steps]
    split
    · split
      · rename_i next further stepped
        exact ih (marker _ _ _ _ valid stepped)
      · exact valid
    · exact valid

/-- After its last marker, a line is left in a state of the scan that all markers before it have kept. -/
theorem steps_reached {P : State → Prop} (known : document[line]? = some text) (count : Nat)
    (marker : ∀ s place next further, Reaches g document line place s → place ≤ text.size → P s →
      step g line text s place = some (next, further) → P next)
    (reached : Reaches g document line place s) (valid : P s) :
    P (steps g line text count s place) ∧
      ∃ last, Reaches g document line last (steps g line text count s place) := by
  induction count generalizing s place with
  | zero => exact ⟨valid, place, reached⟩
  | succ count ih =>
    simp only [steps]
    split
    · rename_i inside
      split
      · rename_i next further stepped
        apply ih (.marker known reached inside stepped)
        exact marker _ _ _ _ reached inside valid stepped
      · exact ⟨valid, place, reached⟩
    · exact ⟨valid, place, reached⟩

theorem reaches_induction {P : Nat → State → Prop} (start : P 0 .start)
    (marker : ∀ line text s place next further, document[line]? = some text →
      Reaches g document line place s → place ≤ text.size → P line s →
      step g line text s place = some (next, further) → P line next)
    (lineEnd : ∀ line s place, Reaches g document line place s → P line s →
      P (line + 1) (s.endLine g line))
    (h : Reaches g document line place s) : P line s := by
  have first : ∀ line ≤ document.length, P line (before g document line) := by
    intro line bound
    induction line with
    | zero => exact start
    | succ line ih =>
      have known := List.getElem?_eq_getElem bound
      have earlier := Nat.le_of_lt bound
      obtain ⟨kept, last, reached⟩ := steps_reached known (document[line].size + 1)
        (fun _ _ _ _ reached inside valid stepped =>
          marker _ _ _ _ _ _ known reached inside valid stepped)
        (.lineStart earlier) (ih earlier)
      rw [before_succ known]
      exact lineEnd _ _ _ reached kept
  induction h with
  | lineStart bound => exact first _ bound
  | marker known reached inside stepped ih => exact marker _ _ _ _ _ _ known reached inside ih stepped

/-- What holds at the start, and is kept by every marker and by the end of every line, holds
throughout a scan. -/
theorem reaches_invariant {P : Nat → State → Prop} (start : P 0 .start)
    (marker : ∀ line text s place next further, P line s →
      step g line text s place = some (next, further) → P line next)
    (lineEnd : ∀ line s, P line s → P (line + 1) (s.endLine g line))
    (h : Reaches g document line place s) : P line s := by
  apply reaches_induction start _ _ h
  · intro line text s place next further _ _ _ valid stepped
    exact marker _ _ _ _ _ _ valid stepped
  · intro line s place _ valid
    exact lineEnd _ _ valid

/-- What a marker can do where the markers of every rule are looked for, and the place where a
closing marker of its own ends. -/
inductive Move (g : Grammar) (line : Nat) (text : Line) (s : State) (found : MarkerMatch) :
    State → Option Nat → Prop where
  | pass : Move g line text s found s none
  | pair (r : CompiledRule) (expected : Option ExpectedEnd) : found.role = .opening →
      s.mayOpen g = true → g.rules[found.rule]? = some r → r.shape = .paired →
      expected.isSome = r.mirror?.isSome →
      Move g line text s found { s.push { rule := found.rule, start := line, expected } with
        mode := if r.nested then s.mode else .unnested found.rule } none
  | chain (r : CompiledRule) : found.role = .opening → s.mayOpen g = true →
      g.rules[found.rule]? = some r → r.shape = .continuation → r.continues text = true →
      (∀ top ∈ s.stack.head?, top.rule ≠ found.rule) →
      Move g line text s found (s.push { rule := found.rule, start := line }) none
  | docstring : found.role = .docstring → s.owner? found.rule = none → s.mayOpen g = true →
      Move g line text s found (s.push { rule := found.rule, start := line }) none
  | «section» : found.role = .separator → s.mayOpen g = true →
      (∀ top ∈ s.stack.head?, ¬(top.rule = found.rule ∧ top.isSection = true)) →
      Move g line text s found ((s.emit (g.before found.rule s.leading line)).push
        { rule := found.rule, start := line, isSection := true }) none
  | nextSection (top : Block) (below : List Block) : found.role = .separator →
      s.stack = top :: below → top.rule = found.rule → top.isSection = true →
      Move g line text s found (s.splitTop g line) none
  | split (owner : Block) : found.role = .middle → s.owner? found.rule = some owner →
      Move g line text s found ((s.endSections g line).splitTop g line) none
  | close (owner : Block) (resume : Option Nat) : s.owner? found.rule = some owner →
      found.role = .docstring ∧ resume = none ∨
        found.role = .closing ∧ State.accepts owner text found.start = some resume →
      Move g line text s found ((s.endSections g line).closeTop g line) resume
  | goOn (top : Block) (below : List Block) : found.role = .continuation →
      s.stack = top :: below → top.rule = found.rule →
      Move g line text s found { s with stack := { top with continued := some line } :: below } none

theorem openBlock_move {found : MarkerMatch} (role : found.role = .opening)
    (mayOpen : s.mayOpen g = true) :
    Move g line text s found (s.openBlock g line text found) none := by
  unfold State.openBlock
  split
  · exact .pass
  · rename_i r known
    split
    · rename_i mirror matchers
      have shape : r.shape = .paired := by simp [CompiledRule.shape, matchers]
      have kept : r.mirror? = mirror := by simp [CompiledRule.mirror?, matchers]
      simp only
      split
      · rename_i nested
        have opened := @Move.pair g line text s found r
        simp only [nested, kept] at opened
        exact opened _ role mayOpen known shape (by simp)
      · rename_i alone
        have opened := @Move.pair g line text s found r
        simp only [alone, kept] at opened
        exact opened _ role mayOpen known shape (by simp)
    · rename_i matchers
      have shape : r.shape = .continuation := by simp [CompiledRule.shape, matchers]
      cases stack : s.stack with
      | nil =>
        simp only
        split
        · rename_i begins
          exact .chain r role mayOpen known shape (by simpa using begins) (by simp [stack])
        · exact .pass
      | cons top below =>
        simp only
        split
        · rename_i begins
          simp only [Bool.and_eq_true, Bool.not_eq_true', decide_eq_false_iff_not] at begins
          exact .chain r role mayOpen known shape begins.2 (by simpa [stack] using begins.1)
        · exact .pass
    · exact .pass

theorem separate_move {found : MarkerMatch} (role : found.role = .separator) :
    Move g line text s found (s.separate g line found.rule) none := by
  unfold State.separate
  cases stack : s.stack with
  | nil =>
    have opened := @Move.section g line text s found role (by simp [State.mayOpen, stack])
      (by simp [stack])
    simpa [State.leading, stack] using opened
  | cons top below =>
    simp only
    split
    · rename_i own
      simp only [Bool.and_eq_true, decide_eq_true_eq] at own
      exact .nextSection top below role stack own.1 own.2
    · rename_i other
      rw [Bool.and_eq_true, decide_eq_true_eq] at other
      split
      · rename_i nests
        have opened := @Move.section g line text s found role
          (by simpa [State.mayOpen, stack] using nests) (by simpa [stack] using other)
        simpa [State.leading, stack] using opened
      · exact .pass

theorem onMarker_move (g : Grammar) (line : Nat) (text : Line) (s : State) (found : MarkerMatch) :
    Move g line text s found (s.onMarker g line text found).1 (s.onMarker g line text found).2 := by
  unfold State.onMarker
  cases role : found.role with
  | opening =>
    simp only
    split
    · rename_i mayOpen
      exact openBlock_move role mayOpen
    · exact .pass
  | middle =>
    simp only
    cases owner : s.owner? found.rule with
    | none => exact .pass
    | some b => exact .split b role owner
  | closing =>
    simp only
    cases owner : s.owner? found.rule with
    | none => exact .pass
    | some b =>
      simp only
      cases accepted : State.accepts b text found.start with
      | none => exact .pass
      | some resume => exact .close b resume owner (.inr ⟨role, accepted⟩)
  | continuation =>
    simp only
    cases stack : s.stack with
    | nil => exact .pass
    | cons top below =>
      simp only
      split
      · rename_i same
        exact .goOn top below role stack same
      · exact .pass
  | docstring =>
    simp only
    cases owner : s.owner? found.rule with
    | some b => exact .close b none owner (.inl ⟨role, rfl⟩)
    | none =>
      simp only
      split
      · rename_i mayOpen
        exact .docstring role owner mayOpen
      · exact .pass
  | separator => exact separate_move role

/-- What a middle or closing marker can do inside a block that does not nest. -/
inductive Inside (g : Grammar) (line : Nat) (text : Line) (s : State) (found : UnnestedMatch) :
    State → Option Nat → Prop where
  | empty : s.stack = [] → Inside g line text s found { s with mode := .normal } none
  | split (top : Block) (below : List Block) : s.stack = top :: below → found.role = .middle →
      Inside g line text s found { s.splitTop g line with mode := .unnested top.rule } none
  | close (top : Block) (below : List Block) (resume : Option Nat) : s.stack = top :: below →
      found.role ≠ .middle → State.accepts top text found.start = some resume →
      Inside g line text s found { s.closeTop g line with mode := .normal } resume
  | refuse (top : Block) (below : List Block) : s.stack = top :: below → found.role ≠ .middle →
      State.accepts top text found.start = none →
      Inside g line text s found { s with mode := .unnested top.rule } none

theorem onUnnested_inside (g : Grammar) (line : Nat) (text : Line) (s : State)
    (found : UnnestedMatch) :
    Inside g line text s found (s.onUnnested g line text found).1
      (s.onUnnested g line text found).2 := by
  unfold State.onUnnested
  split
  · rename_i stack
    exact .empty stack
  · rename_i top below stack
    split
    · rename_i role
      exact .split top below stack role
    · rename_i role
      split
      · rename_i resume accepted
        exact .close top below resume stack role accepted
      · rename_i refused
        exact .refuse top below stack role refused

inductive LineEnd (g : Grammar) (line : Nat) (s : State) : State → Prop where
  | pass : LineEnd g line s s
  | close (top : Block) (below : List Block) (last : Nat) : s.stack = top :: below →
      g.isContinuation top.rule = true → top.continued = some last → last ≠ line →
      LineEnd g line s (s.closeTop g line)
  | drop (top : Block) (below : List Block) : s.stack = top :: below →
      g.isContinuation top.rule = true → top.continued = none → top.start ≠ line →
      LineEnd g line s { s with stack := below }

theorem endLine_lineEnd (g : Grammar) (line : Nat) (s : State) :
    LineEnd g line s (s.endLine g line) := by
  unfold State.endLine
  cases stack : s.stack with
  | nil => exact .pass
  | cons top below =>
    simp only
    split
    · exact .pass
    · rename_i chain
      simp only [Bool.not_eq_true', Bool.not_eq_false] at chain
      split
      · rename_i last continued
        split
        · exact .pass
        · rename_i broken
          exact .close top below last stack chain continued broken
      · rename_i continued
        split
        · exact .pass
        · rename_i later
          exact .drop top below stack chain continued later

theorem step_cases {next : State} {further : Nat}
    (stepped : step g line text s place = some (next, further)) :
    (∃ found resume, s.mode = .normal ∧ g.master.findAt text place = some found ∧
      Move g line text s found next resume ∧
      further = Nat.max (Fold.nextPlace found.start found.stop) (resume.getD 0)) ∨
    (∃ rule r found resume, s.mode = .unnested rule ∧ g.rules[rule]? = some r ∧
      r.findUnnested text place = some found ∧ Inside g line text s found next resume ∧
      further = Nat.max (Fold.nextPlace found.start found.stop) (resume.getD 0)) := by
  unfold step at stepped
  cases mode : s.mode with
  | normal =>
    simp only [mode, Option.bind_eq_bind, Option.bind_eq_some_iff, Option.pure_def,
      Option.some.injEq, Prod.mk.injEq] at stepped
    obtain ⟨found, atPlace, rfl, rfl⟩ := stepped
    exact .inl ⟨found, _, rfl, atPlace, onMarker_move g line text s found, rfl⟩
  | unnested rule =>
    simp only [mode, Option.bind_eq_bind, Option.bind_eq_some_iff, Option.pure_def,
      Option.some.injEq, Prod.mk.injEq] at stepped
    obtain ⟨r, known, found, atPlace, rfl, rfl⟩ := stepped
    exact .inr ⟨rule, r, found, _, rfl, known, atPlace, onUnnested_inside g line text s found, rfl⟩

end Foldmark.Fold
