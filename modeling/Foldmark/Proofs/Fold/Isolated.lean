import Foldmark.Proofs.Fold.Progress
import Foldmark.Proofs.Fold.State

/-! Blocks in which the markers of one rule alone are looked for. What happens up to the end of such a block
is told by its rule, the line that it began on, the closing marker that it expects and the text: two
scans that agree on these move in step, whatever other rules there are and whatever lies around. -/
namespace Foldmark

namespace CompiledRule

theorem findUnnested_role {r : CompiledRule} {text : Line} {place : Nat} {found : UnnestedMatch}
    (h : r.findUnnested text place = some found) : found.role = .middle ∨ found.role = .closing := by
  unfold findUnnested at h
  split at h
  · obtain ⟨whole, -, h⟩ := Option.bind_eq_some_iff.mp h
    split at h
    · cases h
      exact .inl rfl
    · obtain ⟨span, -, h⟩ := Option.bind_eq_some_iff.mp h
      cases h
      exact .inr rfl
  · cases h

end CompiledRule

namespace Fold

variable {g : Grammar} {line place further : Nat} {text : Line} {s : State} {top : Block}
  {below : List Block} {r : CompiledRule} {found : UnnestedMatch}

/-- Only the markers of one rule are looked for, and its block is the innermost. -/
structure Alone (g : Grammar) (r : CompiledRule) (top : Block) (below : List Block) (s : State) :
    Prop where
  stack : s.stack = top :: below
  mode : s.mode = .unnested top.rule
  known : g.rules[top.rule]? = some r

theorem Reaches.alone {document : Document} {rule : Nat} (h : Reaches g document line place s)
    (mode : s.mode = .unnested rule) :
    ∃ r top below, Alone g r top below s ∧ top.rule = rule ∧ r.shape = .paired ∧ r.nested = false := by
  obtain ⟨top, below, stack, rfl, r, known, paired, single⟩ := h.aimed rule mode
  exact ⟨r, top, below, ⟨stack, mode, known⟩, rfl, paired, single⟩

theorem step_fails (alone : Alone g r top below s) (searched : r.findUnnested text place = none) :
    step g line text s place = none := by
  simp only [step, alone.mode, alone.known, searched, Option.bind_eq_bind, Option.bind_some,
    Option.bind_none]

theorem step_divides (alone : Alone g r top below s)
    (searched : r.findUnnested text place = some found) (role : found.role = .middle) :
    step g line text s place = some (s.splitTop g line, nextPlace found.start found.stop) := by
  have same : { s.splitTop g line with mode := .unnested top.rule } = s.splitTop g line := by
    rw [State.splitTop_cons alone.stack, alone.mode]
  simp only [step, alone.mode, alone.known, searched, State.onUnnested, alone.stack, role, same,
    Option.bind_eq_bind, Option.bind_some, Option.pure_def, Option.getD_none, Nat.max_zero]

theorem step_accepts (alone : Alone g r top below s)
    (searched : r.findUnnested text place = some found) (role : found.role = .closing)
    {resume : Option Nat} (accepted : State.accepts top text found.start = some resume) :
    step g line text s place = some ({ s.closeTop g line with mode := .normal },
      Nat.max (nextPlace found.start found.stop) (resume.getD 0)) := by
  simp only [step, alone.mode, alone.known, searched, State.onUnnested, alone.stack, role, accepted,
    Option.bind_eq_bind, Option.bind_some, Option.pure_def]

theorem step_refuses (alone : Alone g r top below s)
    (searched : r.findUnnested text place = some found) (role : found.role = .closing)
    (refused : State.accepts top text found.start = none) :
    step g line text s place = some (s, nextPlace found.start found.stop) := by
  have same : State.mk (top :: below) s.ranges (.unnested top.rule) = s := by
    rw [← alone.stack, ← alone.mode]
  simp only [step, alone.mode, alone.known, searched, State.onUnnested, alone.stack, role, refused,
    Option.bind_eq_bind, Option.bind_some, Option.pure_def, Option.getD_none, same, Nat.max_zero]

theorem endLine_alone (alone : Alone g r top below s) (paired : r.shape = .paired) :
    s.endLine g line = s := by
  have chain : g.isContinuation top.rule = false := by
    simp [Grammar.isContinuation, alone.known, CompiledRule.isContinuation, paired]
  simp [State.endLine, alone.stack, chain]

theorem steps_enough (count more : Nat) (enough : text.size < place + count) :
    steps g line text (count + more) s place = steps g line text count s place := by
  induction count generalizing s place with
  | zero =>
    have done : Done g line text s place := .inl enough
    rw [steps_done done, steps_done done]
  | succ count ih =>
    rw [Nat.add_right_comm]
    simp only [steps]
    split
    · split
      · rename_i next further stepped
        have := (step_forward stepped).1
        exact ih (by omega)
      · rfl
    · rfl

/-- Where a scan stands: the number of a line, the lines from that one on, the place from which the next
marker is looked for, and the state. -/
structure Point where
  line : Nat
  ahead : Document
  place : Nat
  state : State

namespace Point

/-- What the scan does next: it takes a step, or ends the line where nothing more is found. -/
def advance? (g : Grammar) (p : Point) : Option Point :=
  match p.ahead with
  | [] => none
  | text :: rest =>
    match if p.place ≤ text.size then step g p.line text p.state p.place else none with
    | some (state, place) => some { p with place, state }
    | none => some ⟨p.line + 1, rest, 0, p.state.endLine g p.line⟩

def last (g : Grammar) (p : Point) : State :=
  match p.ahead with
  | [] => p.state
  | text :: rest =>
    readLines g (p.line + 1) rest
      ((steps g p.line text (text.size + 1 - p.place) p.state p.place).endLine g p.line)

/-- Up to `count` moves, as long as the markers of one rule alone are looked for. -/
def within (g : Grammar) : Nat → Point → Point
  | 0, p => p
  | count + 1, p =>
    match p.state.mode, p.advance? g with
    | .unnested _, some q => within g count q
    | _, _ => p

theorem last_start (g : Grammar) (line : Nat) (ahead : Document) (s : State) :
    last g ⟨line, ahead, 0, s⟩ = readLines g line ahead s := by
  cases ahead <;> rfl

theorem last_advance {p q : Point} (moved : p.advance? g = some q) : q.last g = p.last g := by
  obtain ⟨line, ahead, place, s⟩ := p
  cases ahead with
  | nil => cases moved
  | cons text rest =>
    simp only [advance?] at moved
    split at moved
    · rename_i next further stepped
      split at stepped
      · rename_i inside
        cases moved
        have later := (step_forward stepped).1
        obtain ⟨left, total⟩ := Nat.exists_eq_add_of_le' (show 1 ≤ text.size + 1 - place by omega)
        have enough := @steps_enough g line further text next (text.size + 1 - further)
          (left - (text.size + 1 - further)) (by omega)
        rw [show text.size + 1 - further + (left - (text.size + 1 - further)) = left by omega]
          at enough
        simp only [last, total, steps, if_pos inside, stepped, enough]
      · cases stepped
    · rename_i nothing
      cases moved
      have done : Done g line text s place := by
        by_cases inside : place ≤ text.size
        · exact .inr (by simpa [inside] using nothing)
        · exact .inl (Nat.lt_of_not_le inside)
      refine (last_start ..).trans ?_
      simp only [last, steps_done done]

theorem last_within (count : Nat) (p : Point) : (within g count p).last g = p.last g := by
  induction count generalizing p with
  | zero => rfl
  | succ count ih =>
    simp only [within]
    split
    · rename_i q _ moved
      rw [ih, last_advance moved]
    · rfl

end Point

/-- A state inside a block that has begun anew on a line, or behind the block. -/
def after (top : Block) (below : List Block) (ranges : List Range) : Option Nat → State
  | some start => ⟨{ top with start } :: below, ranges, .unnested top.rule⟩
  | none => ⟨below, ranges, .normal⟩

theorem Alone.eq_after (alone : Alone g r top below s) :
    s = after top below s.ranges (some top.start) := by
  rw [after, ← alone.mode, ← alone.stack]

section InStep

variable {g₁ g₂ : Grammar} {top₁ top₂ : Block} {below₁ below₂ : List Block}
  {ranges₁ ranges₂ : List Range}

theorem alone_after (known : g.rules[top.rule]? = some r) (start : Nat) (ranges : List Range) :
    Alone g r { top with start } below (after top below ranges (some start)) :=
  ⟨rfl, rfl, known⟩

theorem before_eq (known₁ : g₁.rules[top₁.rule]? = some r) (known₂ : g₂.rules[top₂.rule]? = some r)
    (start line : Nat) : g₁.before top₁.rule start line = g₂.before top₂.rule start line := by
  simp only [Grammar.before, Grammar.kind, known₁, known₂]

theorem closed_eq (known₁ : g₁.rules[top₁.rule]? = some r) (known₂ : g₂.rules[top₂.rule]? = some r)
    (start line : Nat) :
    g₁.closed { top₁ with start } line = g₂.closed { top₂ with start } line := by
  simp only [Grammar.closed, Grammar.foldsLastLine, Grammar.before, Grammar.kind, known₁, known₂]

/-- Inside blocks of one rule that began on the same line and expect the same marker, a step does the
same. -/
theorem step_in_step (known₁ : g₁.rules[top₁.rule]? = some r)
    (known₂ : g₂.rules[top₂.rule]? = some r) (expected : top₁.expected = top₂.expected)
    (line : Nat) (text : Line) (start place : Nat) :
    (step g₁ line text (after top₁ below₁ ranges₁ (some start)) place = none ∧
      step g₂ line text (after top₂ below₂ ranges₂ (some start)) place = none) ∨
    ∃ new fate further,
      step g₁ line text (after top₁ below₁ ranges₁ (some start)) place =
        some (after top₁ below₁ (new ++ ranges₁) fate, further) ∧
      step g₂ line text (after top₂ below₂ ranges₂ (some start)) place =
        some (after top₂ below₂ (new ++ ranges₂) fate, further) := by
  have alone₁ := @alone_after g₁ top₁ below₁ r known₁ start ranges₁
  have alone₂ := @alone_after g₂ top₂ below₂ r known₂ start ranges₂
  cases searched : r.findUnnested text place with
  | none => exact .inl ⟨step_fails alone₁ searched, step_fails alone₂ searched⟩
  | some found =>
    right
    rcases CompiledRule.findUnnested_role searched with middle | closing
    · refine ⟨(g₁.before top₁.rule start line).reverse, some line, _,
        step_divides alone₁ searched middle, ?_⟩
      rw [before_eq known₁ known₂]
      exact step_divides alone₂ searched middle
    · have same : State.accepts { top₁ with start } text found.start =
          State.accepts { top₂ with start } text found.start := by
        simp only [State.accepts, expected]
      cases accepted : State.accepts { top₁ with start } text found.start with
      | some resume =>
        refine ⟨(g₁.closed { top₁ with start } line).reverse, none, _,
          step_accepts alone₁ searched closing accepted, ?_⟩
        rw [closed_eq known₁ known₂]
        exact step_accepts alone₂ searched closing (same ▸ accepted)
      | none =>
        exact ⟨[], some start, _, step_refuses alone₁ searched closing accepted,
          step_refuses alone₂ searched closing (same ▸ accepted)⟩

open Point

theorem advance_in_step (known₁ : g₁.rules[top₁.rule]? = some r)
    (known₂ : g₂.rules[top₂.rule]? = some r) (paired : r.shape = .paired)
    (expected : top₁.expected = top₂.expected) (line : Nat) (text : Line) (rest : Document)
    (place start : Nat) :
    ∃ line' ahead' place' new fate,
      advance? g₁ ⟨line, text :: rest, place, after top₁ below₁ ranges₁ (some start)⟩ =
        some ⟨line', ahead', place', after top₁ below₁ (new ++ ranges₁) fate⟩ ∧
      advance? g₂ ⟨line, text :: rest, place, after top₂ below₂ ranges₂ (some start)⟩ =
        some ⟨line', ahead', place', after top₂ below₂ (new ++ ranges₂) fate⟩ := by
  have end₁ := @endLine_alone g₁ line _ _ below₁ r (alone_after known₁ start ranges₁) paired
  have end₂ := @endLine_alone g₂ line _ _ below₂ r (alone_after known₂ start ranges₂) paired
  by_cases inside : place ≤ text.size
  · rcases @step_in_step r g₁ g₂ top₁ top₂ below₁ below₂ ranges₁ ranges₂ known₁ known₂ expected line
      text start place with ⟨over₁, over₂⟩ | ⟨new, fate, further, stepped₁, stepped₂⟩
    · refine ⟨line + 1, rest, 0, [], some start, ?_, ?_⟩
      · simp only [advance?, if_pos inside, over₁, end₁, List.nil_append]
      · simp only [advance?, if_pos inside, over₂, end₂, List.nil_append]
    · refine ⟨line, text :: rest, further, new, fate, ?_, ?_⟩
      · simp only [advance?, if_pos inside, stepped₁]
      · simp only [advance?, if_pos inside, stepped₂]
  · refine ⟨line + 1, rest, 0, [], some start, ?_, ?_⟩
    · simp only [advance?, if_neg inside, end₁, List.nil_append]
    · simp only [advance?, if_neg inside, end₂, List.nil_append]

theorem within_moves {p q : Point} {rule : Nat} (mode : p.state.mode = .unnested rule)
    (moved : p.advance? g = some q) (count : Nat) : within g (count + 1) p = within g count q := by
  simp only [within, mode, moved]

theorem within_behind (count line : Nat) (ahead : Document) (place : Nat) (ranges : List Range) :
    within g count ⟨line, ahead, place, after top below ranges none⟩ =
      ⟨line, ahead, place, after top below ranges none⟩ := by
  cases count <;> rfl

/-- Any number of moves leads both scans to the same place, with the same ranges on the way. -/
theorem within_in_step (known₁ : g₁.rules[top₁.rule]? = some r)
    (known₂ : g₂.rules[top₂.rule]? = some r) (paired : r.shape = .paired)
    (expected : top₁.expected = top₂.expected) (count line : Nat) (ahead : Document)
    (place start : Nat) :
    ∃ line' ahead' place' new fate,
      within g₁ count ⟨line, ahead, place, after top₁ below₁ ranges₁ (some start)⟩ =
        ⟨line', ahead', place', after top₁ below₁ (new ++ ranges₁) fate⟩ ∧
      within g₂ count ⟨line, ahead, place, after top₂ below₂ ranges₂ (some start)⟩ =
        ⟨line', ahead', place', after top₂ below₂ (new ++ ranges₂) fate⟩ := by
  induction count generalizing line ahead place start ranges₁ ranges₂ with
  | zero => exact ⟨line, ahead, place, [], some start, rfl, rfl⟩
  | succ count ih =>
    cases ahead with
    | nil => exact ⟨line, [], place, [], some start, rfl, rfl⟩
    | cons text rest =>
      obtain ⟨line', ahead', place', new, fate, moved₁, moved₂⟩ :=
        @advance_in_step r g₁ g₂ top₁ top₂ below₁ below₂ ranges₁ ranges₂ known₁ known₂ paired expected
          line text rest place start
      rw [within_moves rfl moved₁, within_moves rfl moved₂]
      cases fate with
      | none =>
        rw [within_behind, within_behind]
        exact ⟨line', ahead', place', new, none, rfl, rfl⟩
      | some begun =>
        obtain ⟨line'', ahead'', place'', more, fate, within₁, within₂⟩ :=
          @ih (new ++ ranges₁) (new ++ ranges₂) line' ahead' place' begun
        rw [within₁, within₂, ← List.append_assoc, ← List.append_assoc]
        exact ⟨line'', ahead'', place'', more ++ new, fate, rfl, rfl⟩

/-- A block that looks for its own markers is isolated from all other rules and from the blocks around it.
Two scans, with any rules, that stand at the same place of the same lines in blocks of one rule which
began on the same line and expect the same closing marker stay in step: after any number of moves
both stand at the same place and have left the same ranges, and either both blocks are open, or both
are closed; nothing else is open than before. The points that they come to lie on their scans. -/
theorem block_isolated {s₁ s₂ : State} (alone₁ : Alone g₁ r top₁ below₁ s₁)
    (alone₂ : Alone g₂ r top₂ below₂ s₂) (paired : r.shape = .paired)
    (start : top₁.start = top₂.start) (expected : top₁.expected = top₂.expected)
    (line : Nat) (ahead : Document) (place count : Nat) :
    (∃ line' ahead' place' new fate,
      within g₁ count ⟨line, ahead, place, s₁⟩ =
        ⟨line', ahead', place', after top₁ below₁ (new ++ s₁.ranges) fate⟩ ∧
      within g₂ count ⟨line, ahead, place, s₂⟩ =
        ⟨line', ahead', place', after top₂ below₂ (new ++ s₂.ranges) fate⟩) ∧
    (within g₁ count ⟨line, ahead, place, s₁⟩).last g₁ = last g₁ ⟨line, ahead, place, s₁⟩ ∧
    (within g₂ count ⟨line, ahead, place, s₂⟩).last g₂ = last g₂ ⟨line, ahead, place, s₂⟩ := by
  refine ⟨?_, last_within count _, last_within count _⟩
  have inStep := @within_in_step r g₁ g₂ top₁ top₂ below₁ below₂ s₁.ranges s₂.ranges alone₁.known
    alone₂.known paired expected count line ahead place top₁.start
  rw [← alone₁.eq_after, start, ← alone₂.eq_after] at inStep
  exact inStep

end InStep

end Fold

namespace RuleSet

open Fold

def bracketRules : List Rule := [.ofTexts "[" "]", commentRule]

theorem comment_unique {r r' : CompiledRule} (first : r ∈ (compile [commentRule]).rules)
    (second : r' ∈ (compile bracketRules).rules) (single : r'.nested = false) : r = r' := by
  obtain ⟨rule, isComment, compiled⟩ := compile_origin first
  obtain ⟨rule', member, compiled'⟩ := compile_origin second
  cases List.mem_singleton.mp isComment
  have nested := (Rule.compile_cases compiled').2
  rcases List.mem_cons.mp member with rfl | later
  · rw [single] at nested
    cases nested
  · cases List.mem_singleton.mp later
    exact Except.ok.inj (compiled.symm.trans compiled')

set_option maxRecDepth 100000 in
/-- A comment ends at the same place whether it stands alone or inside brackets, and whether or not brackets
are looked for. -/
theorem block_isolated_among_brackets :
    ∃ m₁ m₂ r top₁ top₂ below₁ below₂, (compile [commentRule]).master = some m₁ ∧
      (compile bracketRules).master = some m₂ ∧
      Alone ((compile [commentRule]).grammar m₁) r top₁ below₁
        (before ((compile [commentRule]).grammar m₁) (.ofLines ["a /*"]) 1) ∧
      Alone ((compile bracketRules).grammar m₂) r top₂ below₂
        (before ((compile bracketRules).grammar m₂) (.ofLines ["[ /*"]) 1) ∧
      top₁.rule = 0 ∧ top₂.rule = 1 ∧ ∃ line ahead place ranges₁ ranges₂,
        Point.within ((compile [commentRule]).grammar m₁) 1 ⟨1, .ofLines ["] [ */ ["], 0,
            before ((compile [commentRule]).grammar m₁) (.ofLines ["a /*"]) 1⟩ =
          ⟨line, ahead, place, after top₁ below₁ ranges₁ none⟩ ∧
        Point.within ((compile bracketRules).grammar m₂) 1 ⟨1, .ofLines ["] [ */ ["], 0,
            before ((compile bracketRules).grammar m₂) (.ofLines ["[ /*"]) 1⟩ =
          ⟨line, ahead, place, after top₂ below₂ ranges₂ none⟩ := by
  have evaluated₁ : ∃ m ∈ (compile [commentRule]).master,
      (before ((compile [commentRule]).grammar m) (.ofLines ["a /*"]) 1).mode = .unnested 0 ∧
      (∀ b ∈ (before ((compile [commentRule]).grammar m) (.ofLines ["a /*"]) 1).stack,
        b.start = 0 ∧ b.expected.isNone = true) ∧
      (Point.within ((compile [commentRule]).grammar m) 1 ⟨1, .ofLines ["] [ */ ["], 0,
        before ((compile [commentRule]).grammar m) (.ofLines ["a /*"]) 1⟩).state.mode = .normal := by
    decide +kernel
  have evaluated₂ : ∃ m ∈ (compile bracketRules).master,
      (before ((compile bracketRules).grammar m) (.ofLines ["[ /*"]) 1).mode = .unnested 1 ∧
      ∀ b ∈ (before ((compile bracketRules).grammar m) (.ofLines ["[ /*"]) 1).stack,
        b.start = 0 ∧ b.expected.isNone = true := by decide +kernel
  obtain ⟨m₁, combined₁, mode₁, blocks₁, behind⟩ := evaluated₁
  obtain ⟨m₂, combined₂, mode₂, blocks₂⟩ := evaluated₂
  obtain ⟨r, top₁, below₁, alone₁, rule₁, paired, -⟩ := Reaches.alone (.lineStart (by decide)) mode₁
  obtain ⟨r', top₂, below₂, alone₂, rule₂, -, single⟩ := Reaches.alone (.lineStart (by decide)) mode₂
  obtain rfl := comment_unique (List.mem_of_getElem? alone₁.known)
    (List.mem_of_getElem? alone₂.known) single
  obtain ⟨start₁, none₁⟩ := blocks₁ top₁ (by simp [alone₁.stack])
  obtain ⟨start₂, none₂⟩ := blocks₂ top₂ (by simp [alone₂.stack])
  have expected : top₁.expected = top₂.expected :=
    (Option.isNone_iff_eq_none.mp none₁).trans (Option.isNone_iff_eq_none.mp none₂).symm
  obtain ⟨⟨line, ahead, place, new, fate, within₁, within₂⟩, -, -⟩ :=
    block_isolated alone₁ alone₂ paired (start₁.trans start₂.symm) expected 1
      (.ofLines ["] [ */ ["]) 0 1
  have closed : fate = none := by
    rw [within₁] at behind
    cases fate with
    | none => rfl
    | some start => cases behind
  subst closed
  exact ⟨m₁, m₂, r, top₁, top₂, below₁, below₂, combined₁, combined₂, alone₁, alone₂, rule₁, rule₂,
    line, ahead, place, _, _, within₁, within₂⟩

end RuleSet

end Foldmark
