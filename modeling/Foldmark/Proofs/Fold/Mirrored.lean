import Foldmark.Proofs.Fold.Isolated
import Foldmark.Proofs.Rule.Unnested

/-! Closing markers that repeat the opening one. In a block of a rule that does not nest, the scan goes from
one match of the widened closing marker to the next, and closes the block at the first that is the
expected one. What it passes over is covered by a match that it refuses. -/
namespace Foldmark

namespace Fold

variable {g : Grammar} {line place : Nat} {text : Line} {s : State} {top : Block} {below : List Block}
  {r : CompiledRule}

theorem Scans.after_step {middle last : State} {between count further : Nat} (inside : place ≤ text.size)
    (stepped : Fold.step g line text s place = some (middle, between))
    (scan : Scans g line text middle between count last further) :
    Scans g line text s place (count + 1) last further := by
  induction scan with
  | start => exact .step .start inside stepped
  | step _ within later ih => exact .step ih within later

/-- The innermost block is closed while the rest of a line is scanned. -/
def Closes (g : Grammar) (line : Nat) (text : Line) (s : State) (place : Nat) : Prop :=
  ∃ count further, Scans g line text s place count { s.closeTop g line with mode := .normal } further

/-- The scan of the rest of a line comes to a match of a closing marker that is not the expected one and
covers a place behind its start. -/
def Hides (g : Grammar) (line : Nat) (text : Line) (s : State) (place : Nat) (closing : Pattern)
    (e : ExpectedEnd) (hidden : Nat) : Prop :=
  ∃ count between found, Scans g line text s place count s between ∧
    closing.find? text between = some found ∧ e.matchAt text found.start = none ∧
    found.start < hidden ∧ hidden < found.stop

/-- From a place on, the scan closes a block that expects a closing marker which stands further on, where
also the widened marker matches, unless a match that it refuses covers that place. -/
theorem closes_or_hides (stack : s.stack = top :: below) (mode : s.mode = .unnested top.rule)
    (known : g.rules[top.rule]? = some r) {closing : Pattern}
    (finds : ∀ place, r.findUnnested text place =
      (closing.find? text place).map fun f => ⟨.closing, f.start, f.stop⟩)
    {e : ExpectedEnd} (expected : top.expected = some e) {stands : Nat} (ahead : place ≤ stands)
    (inside : stands ≤ text.size) (repeated : (e.matchAt text stands).isSome = true)
    (candidate : (closing.node.matchAt text stands).isSome = true) :
    Closes g line text s place ∨ Hides g line text s place closing e stands := by
  have alone : Alone g r top below s := ⟨stack, mode, known⟩
  -- Each refused match in front of the place leaves less of the line before it.
  induction distance : stands - place using Nat.strongRecOn generalizing place with
  | _ remaining ih =>
    subst distance
    cases searched : closing.find? text place with
    | none =>
      have nowhere := Pattern.Node.search_eq_none.mp searched stands ahead inside
      simp [nowhere] at candidate
    | some f =>
      obtain ⟨above, -, -, earlier⟩ := Pattern.Node.search_eq_some.mp searched
      have ordered := (Pattern.Node.search_within searched).2.ordered
      have upTo : f.start ≤ stands := by
        refine Nat.le_of_not_lt fun later => ?_
        simp [earlier stands ahead later] at candidate
      have reported : r.findUnnested text place = some ⟨.closing, f.start, f.stop⟩ := by
        rw [finds, searched]
        rfl
      cases own : e.matchAt text f.start with
      | some stop =>
        have accepted : State.accepts top text f.start = some (some stop) := by
          simp [State.accepts, expected, own]
        exact .inl ⟨1, _, .step .start (Nat.le_trans ahead inside)
          (step_accepts alone reported rfl accepted)⟩
      | none =>
        have refused : State.accepts top text f.start = none := by
          simp [State.accepts, expected, own]
        have before : f.start < stands := by
          refine Nat.lt_of_le_of_ne upTo ?_
          rintro rfl
          simp [own] at repeated
        by_cases covered : stands < f.stop
        · exact .inr ⟨0, place, f, .start, searched, own, before, covered⟩
        · have stepped : step g line text s place = some (s, nextPlace f.start f.stop) :=
            step_refuses alone reported rfl refused
          have onward : place < nextPlace f.start f.stop ∧ nextPlace f.start f.stop ≤ stands := by
            unfold nextPlace
            split <;> omega
          rcases ih _ (by omega) onward.2 rfl with ⟨count, further, scan⟩ |
            ⟨count, between, found, scan, rest⟩
          · exact .inl ⟨_, _, scan.after_step (by omega) stepped⟩
          · exact .inr ⟨_, between, found, scan.after_step (by omega) stepped, rest⟩

end Fold

namespace RuleSet

open Fold

/-- In a block of a rule that does not nest, has no middle marker and repeats the opening marker in the
closing one, the expected closing marker closes the block on whatever line the scan comes to it,
unless a match of the widened marker that is refused covers its place. -/
theorem mirrored_end_closes {rules : List Rule} {document : Document} {m : Master}
    {line place : Nat} {s : State} (combined : (compile rules).master = some m)
    (reached : Reaches ((compile rules).grammar m) document line place s)
    {rule : Nat} (mode : s.mode = .unnested rule) {b : Block} (isOpen : b ∈ s.stack)
    {r : CompiledRule} (known : (compile rules).rules[b.rule]? = some r) (alone : r.nested = false)
    {closing : Pattern} (mirrored : r.mirrored? = some closing)
    (unnamed : some unnestedMiddle ∉ closing.groupNames)
    {e : ExpectedEnd} (expected : b.expected = some e) {text : Line} {stands : Nat}
    (ahead : place ≤ stands) (inside : stands ≤ text.size)
    (repeated : (e.matchAt text stands).isSome = true)
    (candidate : (closing.node.matchAt text stands).isSome = true) :
    Closes ((compile rules).grammar m) line text s place ∨
      Hides ((compile rules).grammar m) line text s place closing e stands := by
  obtain ⟨below, stack⟩ :=
    (reached.stacked (compile_closed combined)).innermost isOpen known alone
  obtain ⟨top, rest, same, own, -⟩ := reached.aimed rule mode
  cases stack.symm.trans same
  obtain ⟨origin, -, compiled⟩ := compile_origin (List.mem_of_getElem? known)
  exact closes_or_hides stack (own ▸ mode) known
    (CompiledRule.findUnnested_mirrored compiled alone mirrored unnamed text) expected ahead inside
    repeated candidate

/-- A rule for elements, in which nothing but the end tag of the same name counts. -/
def elementRule : Rule := { Rule.ofPatterns "<(div|ul)>" "(?s)</\\1>" with nested := false }

def beforeElement (m : Master) (lines : List String) (line : Nat) : State :=
  before ((compile [elementRule]).grammar m) (.ofLines lines) line

set_option synthInstance.maxSize 1000 in
set_option maxRecDepth 100000 in
/-- The end tag of another element does not hide the end tag that is expected right behind it. -/
theorem mirrored_end_closes_behind_other :
    ∃ m, (compile [elementRule]).master = some m ∧
      Closes ((compile [elementRule]).grammar m) 1 (.ofString "</ul></div>")
        (beforeElement m ["<div>", "</ul></div>"] 1) 0 := by
  have evaluated : ∃ m ∈ (compile [elementRule]).master,
      (beforeElement m ["<div>", "</ul></div>"] 1).mode = .unnested 0 ∧
      ∃ b ∈ (beforeElement m ["<div>", "</ul></div>"] 1).stack,
      ∃ r ∈ (compile [elementRule]).rules[b.rule]?, r.nested = false ∧
      ∃ closing ∈ r.mirrored?, some unnestedMiddle ∉ closing.groupNames ∧
      (closing.node.matchAt (Line.ofString "</ul></div>") 5).isSome = true ∧
      (∀ start < 5, ∀ found ∈ closing.node.matchAt (Line.ofString "</ul></div>") start,
        found.stop ≤ 5) ∧
      ∃ e ∈ b.expected, (e.matchAt (.ofString "</ul></div>") 5).isSome = true := by decide +kernel
  obtain ⟨m, combined, mode, b, isOpen, r, known, alone, closing, mirrored, unnamed, candidate, short, e,
    expected, repeated⟩ := evaluated
  refine ⟨m, combined, ?_⟩
  rcases mirrored_end_closes combined (.lineStart (by decide)) mode isOpen known alone mirrored unnamed
    expected (Nat.zero_le 5) (by decide) repeated candidate with closes |
    ⟨count, between, found, -, searched, -, before, covered⟩
  · exact closes
  · obtain ⟨-, -, matched, -⟩ := Pattern.Node.search_eq_some.mp searched
    exact absurd (short found.start before found matched) (Nat.not_le_of_lt covered)

set_option maxRecDepth 100000 in
/-- An end tag of another element that is not closed takes in the end tag that is expected, and the block
stays open. -/
theorem mirrored_end_hidden :
    ∃ m b r closing e, (compile [elementRule]).master = some m ∧
      Reaches ((compile [elementRule]).grammar m) (.ofLines ["<div>", "a", "</a </div>", "b"]) 2 0
        (beforeElement m ["<div>", "a", "</a </div>", "b"] 2) ∧
      (beforeElement m ["<div>", "a", "</a </div>", "b"] 2).mode = .unnested 0 ∧
      b ∈ (beforeElement m ["<div>", "a", "</a </div>", "b"] 2).stack ∧
      (compile [elementRule]).rules[b.rule]? = some r ∧ r.nested = false ∧
      r.mirrored? = some closing ∧ b.expected = some e ∧
      e.matchAt (.ofString "</a </div>") 4 = some 10 ∧
      ¬ Closes ((compile [elementRule]).grammar m) 2 (.ofString "</a </div>")
        (beforeElement m ["<div>", "a", "</a </div>", "b"] 2) 0 := by
  have evaluated : ∃ m ∈ (compile [elementRule]).master,
      (beforeElement m ["<div>", "a", "</a </div>", "b"] 2).mode = .unnested 0 ∧
      (∀ count < 12, (steps ((compile [elementRule]).grammar m) 2 (.ofString "</a </div>") count
        (beforeElement m ["<div>", "a", "</a </div>", "b"] 2) 0).stack.length = 1) ∧
      ((beforeElement m ["<div>", "a", "</a </div>", "b"] 2).closeTop
        ((compile [elementRule]).grammar m) 2).stack.length = 0 ∧
      ∃ b ∈ (beforeElement m ["<div>", "a", "</a </div>", "b"] 2).stack,
      ∃ r ∈ (compile [elementRule]).rules[b.rule]?, r.nested = false ∧
      ∃ closing ∈ r.mirrored?, ∃ e ∈ b.expected,
        e.matchAt (.ofString "</a </div>") 4 = some 10 := by decide +kernel
  obtain ⟨m, combined, mode, openAfter, closedTop, b, isOpen, r, known, alone, closing, mirrored, e,
    expected, stands⟩ := evaluated
  refine ⟨m, b, r, closing, e, combined, .lineStart (by decide), mode, isOpen, known, alone, mirrored,
    expected, stands, ?_⟩
  rintro ⟨count, further, scan⟩
  have few : count < 12 := by
    have bounds := scan.bounds (Nat.zero_le _)
    have size : (Line.ofString "</a </div>").size = 10 := by decide
    omega
  have stays := openAfter count few
  rw [← Nat.add_zero count, scan.steps_eq 0] at stays
  simp [steps, closedTop] at stays

end RuleSet

end Foldmark
