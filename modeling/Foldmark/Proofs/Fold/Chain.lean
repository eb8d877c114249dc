import Foldmark.Proofs.Fold.State

/-! Continuation blocks. At the end of a line the innermost block is looked at: a continuation block stays
open if the line is continued. Below other blocks it stays open in any case, and is looked at again
only when they are gone. -/
namespace Foldmark

namespace CompiledRule

theorem continues_of_match {r : CompiledRule} {p : Pattern} {text : Line} {place : Nat}
    (marker : (.continuation, p) ∈ r.alternatives) (inside : place ≤ text.size)
    (matched : (p.node.matchAt text place).isSome = true) : r.continues text = true := by
  unfold alternatives at marker
  split at marker
  · simp at marker
  · split at marker
    · simp at marker
    · simp at marker
  · rename_i opening suffix matchers
    simp only [List.mem_cons, Prod.mk.injEq, reduceCtorEq, false_and, true_and, List.not_mem_nil,
      or_false, false_or] at marker
    subst marker
    simp only [continues, matchers]
    obtain ⟨found, matched⟩ := Option.isSome_iff_exists.mp matched
    exact Pattern.matches?_of_matchAt inside matched
  · simp at marker

end CompiledRule

namespace Fold

variable {g : Grammar} {document : Document} {line place : Nat} {text : Line} {s next : State}
  {b top : Block} {below : List Block} {r : CompiledRule}

/-- Every marker that the pattern reports is one of the rule that it is reported for, and matches where it
is reported. -/
def Grammar.Genuine (g : Grammar) : Prop :=
  ∀ text place found, g.master.findAt text place = some found →
    found.start ≤ text.size ∧ ∃ r p, g.rules[found.rule]? = some r ∧
      (found.role, p) ∈ r.alternatives ∧ (p.node.matchAt text found.start).isSome = true

/-- Whether a line of a document ends with the suffix of a continuation rule. -/
def Continues (document : Document) (r : CompiledRule) (line : Nat) : Prop :=
  ∃ text, document[line]? = some text ∧ r.continues text = true

instance : Decidable (Continues document r line) :=
  decidable_of_iff ((document[line]?).any r.continues = true) (Option.any_eq_true _ _)

def scanned (g : Grammar) (document : Document) (line : Nat) : State :=
  match document[line]? with
  | some text => steps g line text (text.size + 1) (before g document line) 0
  | none => before g document line

theorem before_eq_scanned (h : document[line]? = some text) :
    before g document (line + 1) = (scanned g document line).endLine g line := by
  rw [before_succ h, scanned, h, readLine]

/-- Where an open continuation block comes from: it was open before the marker, and at most the marker
continued it, or it opened on the line. In each case the line is one that the rule allows for it. -/
def Carried (g : Grammar) (line : Nat) (text : Line) (old stack : List Block) : Prop :=
  ∀ b below r, b :: below <:+ stack → g.rules[b.rule]? = some r → r.isContinuation = true →
    (∃ own, own :: below <:+ old ∧ own.rule = b.rule ∧ own.start = b.start ∧
      (b.continued = own.continued ∨ b.continued = some line ∧ r.continues text = true)) ∨
    (b.start = line ∧ b.continued = none ∧ r.continues text = true)

namespace Carried

variable {old stack : List Block}

theorem suffix (h : stack <:+ old) : Carried g line text old stack :=
  fun b _ _ inside _ _ => .inl ⟨b, inside.trans h, rfl, rfl, .inl rfl⟩

/-- A block on top of blocks that were open needs a reason only if it belongs to a continuation rule. -/
theorem cons (under : below <:+ old)
    (origin : ∀ r, g.rules[top.rule]? = some r → r.isContinuation = true →
      (∃ own, own :: below <:+ old ∧ own.rule = top.rule ∧ own.start = top.start ∧
        (top.continued = own.continued ∨ top.continued = some line ∧ r.continues text = true)) ∨
      (top.start = line ∧ top.continued = none ∧ r.continues text = true)) :
    Carried g line text old (top :: below) := by
  intro b rest r inside known chain
  rcases List.suffix_cons_iff.mp inside with same | deeper
  · cases same
    exact origin r known chain
  · exact suffix under b rest r deeper known chain

theorem other (under : below <:+ old) (known : g.rules[top.rule]? = some r)
    (shape : r.shape ≠ .continuation) : Carried g line text old (top :: below) := by
  refine cons under fun own ownKnown chain => ?_
  cases known.symm.trans ownKnown
  exact absurd (of_decide_eq_true chain) shape

end Carried

theorem Move.carried {found : MarkerMatch} {resume : Option Nat}
    (move : Move g line text s found next resume)
    (genuine : found.start ≤ text.size ∧ ∃ r p, g.rules[found.rule]? = some r ∧
      (found.role, p) ∈ r.alternatives ∧ (p.node.matchAt text found.start).isSome = true) :
    Carried g line text s.stack next.stack := by
  obtain ⟨inside, own, p, ownKnown, marker, matched⟩ := genuine
  have role : found.role ∈ own.roles := List.mem_map.mpr ⟨_, marker, rfl⟩
  have outside : (s.endSections g line).stack <:+ s.stack := List.dropWhile_suffix _
  cases move with
  | pass => exact .suffix (List.suffix_refl _)
  | pair r expected _ _ known shape =>
    exact .other (List.suffix_refl _) known (by simp [shape])
  | chain r _ _ known _ continues =>
    refine .cons (List.suffix_refl _) fun other otherKnown _ => .inr ⟨rfl, rfl, ?_⟩
    cases known.symm.trans otherKnown
    exact continues
  | docstring isDocstring =>
    have shape := (CompiledRule.docstring_mem_roles own).mp (isDocstring ▸ role)
    exact .other (List.suffix_refl _) ownKnown (by simp [shape])
  | «section» isSeparator =>
    have shape := (CompiledRule.separator_mem_roles own).mp (isSeparator ▸ role)
    exact .other (List.suffix_refl _) ownKnown (by simp [shape])
  | nextSection top below isSeparator stack same =>
    have shape := (CompiledRule.separator_mem_roles own).mp (isSeparator ▸ role)
    rw [State.splitTop_cons stack, stack]
    exact .other (List.suffix_cons _ _) (same ▸ ownKnown) (by simp [shape])
  | split owner isMiddle owned =>
    have shape := CompiledRule.paired_of_middle (isMiddle ▸ role)
    obtain ⟨same, below, rest⟩ := State.owner?_eq_some owned
    rw [State.splitTop_cons rest]
    exact .other ((List.suffix_cons _ _).trans (rest ▸ outside)) (same ▸ ownKnown) (by simp [shape])
  | close owner resume owned =>
    obtain ⟨-, below, rest⟩ := State.owner?_eq_some owned
    rw [State.closeTop_cons rest]
    exact .suffix ((List.suffix_cons _ _).trans (rest ▸ outside))
  | goOn top below isContinuation stack same =>
    rw [stack]
    refine .cons (List.suffix_cons _ _) fun other otherKnown _ =>
      .inl ⟨top, List.suffix_refl _, rfl, rfl, .inr ⟨rfl, ?_⟩⟩
    cases ownKnown.symm.trans (same ▸ otherKnown)
    exact CompiledRule.continues_of_match (isContinuation ▸ marker) inside matched

theorem Inside.carried {found : UnnestedMatch} {resume : Option Nat} {rule : Nat}
    (move : Inside g line text s found next resume) (aimed : Aimed g s)
    (mode : s.mode = .unnested rule) : Carried g line text s.stack next.stack := by
  obtain ⟨owner, rest, stack, -, r, known, paired, -⟩ := aimed rule mode
  cases move with
  | empty => exact .suffix (List.suffix_refl _)
  | split top below same =>
    cases stack.symm.trans same
    rw [State.splitTop_cons stack, stack]
    exact .other (List.suffix_cons _ _) known (by simp [paired])
  | close top below _ same =>
    rw [State.closeTop_cons same, same]
    exact .suffix (List.suffix_cons _ _)
  | refuse => exact .suffix (List.suffix_refl _)

theorem step_carried (genuine : g.Genuine) (aimed : Aimed g s) {further : Nat}
    (stepped : step g line text s place = some (next, further)) :
    Carried g line text s.stack next.stack := by
  rcases step_cases stepped with ⟨found, _, _, atPlace, move, _⟩ |
    ⟨_, _, _, _, mode, _, _, move, _⟩
  · exact move.carried (genuine _ _ _ atPlace)
  · exact move.carried aimed mode

/-- A block was open at the end of a line, with the same blocks below it, and if it was the innermost
one the line is continued. -/
def Held (g : Grammar) (document : Document) (r : CompiledRule) (b : Block) (below : List Block)
    (line : Nat) : Prop :=
  ∃ above own, (scanned g document line).stack = above ++ own :: below ∧ own.rule = b.rule ∧
    own.start = b.start ∧ (above = [] → Continues document r line)

/-- The lines that a continuation block begins on or was seen to be continued on are continued, and it
was held on all lines from its first one up to the one that is read. -/
structure Chained (g : Grammar) (document : Document) (line : Nat) (r : CompiledRule) (b : Block)
    (below : List Block) : Prop where
  opened : Continues document r b.start
  seen : ∀ last ∈ b.continued, Continues document r last
  held : ∀ earlier, b.start ≤ earlier → earlier < line → Held g document r b below earlier

def AllChained (g : Grammar) (document : Document) (line : Nat) (stack : List Block) : Prop :=
  ∀ b below r, b :: below <:+ stack → g.rules[b.rule]? = some r → r.isContinuation = true →
    Chained g document line r b below

theorem Carried.chained {old stack : List Block} (carried : Carried g line text old stack)
    (atLine : document[line]? = some text) (chained : AllChained g document line old) :
    AllChained g document line stack := by
  intro b below r inside known chain
  rcases carried b below r inside known chain with
    ⟨own, ownInside, rule, start, continued⟩ | ⟨start, continued, continues⟩
  · obtain ⟨opened, seen, held⟩ := chained own below r ownInside (rule ▸ known) chain
    refine ⟨start ▸ opened, fun last recorded => ?_, fun earlier first bound => ?_⟩
    · rcases continued with same | ⟨now, continues⟩
      · exact seen last (same ▸ recorded)
      · cases recorded.symm.trans now
        exact ⟨text, atLine, continues⟩
    · obtain ⟨above, other, stack, otherRule, otherStart, top⟩ :=
        held earlier (start ▸ first) bound
      exact ⟨above, other, stack, otherRule.trans rule, otherStart.trans start, top⟩
  · refine ⟨start ▸ ⟨text, atLine, continues⟩, by simp [continued], fun earlier first bound => ?_⟩
    omega

/-- At the end of a line, the innermost block stays only if it is no continuation block or the line is
continued, and the other blocks stay in any case. -/
theorem endLine_held (g : Grammar) (line : Nat) (s : State) :
    (s.endLine g line).stack <:+ s.stack ∧
    ∀ b below, (s.endLine g line).stack = b :: below → s.stack = b :: below →
      g.isContinuation b.rule = true → b.continued = some line ∨ b.start = line := by
  unfold State.endLine
  split
  · rename_i empty
    simp [empty]
  · rename_i top below stack
    have proper (b : Block) (rest : List Block) (left : below = b :: rest)
        (whole : top :: below = b :: rest) : False := by simp [left] at whole
    split
    · rename_i other
      refine ⟨List.suffix_refl _, fun b rest left _ chain => ?_⟩
      cases stack.symm.trans left
      simp [chain] at other
    · split
      · rename_i last continued
        split
        · rename_i now
          refine ⟨List.suffix_refl _, fun b rest left _ _ => .inl ?_⟩
          cases stack.symm.trans left
          exact now ▸ continued
        · rw [State.closeTop_cons stack, stack]
          exact ⟨List.suffix_cons _ _, fun b rest left whole _ => (proper b rest left whole).elim⟩
      · split
        · rename_i now
          refine ⟨List.suffix_refl _, fun b rest left _ _ => .inr ?_⟩
          cases stack.symm.trans left
          exact now
        · rw [stack]
          exact ⟨List.suffix_cons _ _, fun b rest left whole _ => (proper b rest left whole).elim⟩

theorem endLine_chained (chained : AllChained g document line (scanned g document line).stack) :
    AllChained g document (line + 1) ((scanned g document line).endLine g line).stack := by
  intro b below r inside known chain
  obtain ⟨remains, survives⟩ := endLine_held g line (scanned g document line)
  obtain ⟨opened, seen, held⟩ := chained b below r (inside.trans remains) known chain
  refine ⟨opened, seen, fun earlier first bound => ?_⟩
  rcases Nat.lt_succ_iff_lt_or_eq.mp bound with before | rfl
  · exact held earlier first before
  obtain ⟨above, stack⟩ := inside.trans remains
  refine ⟨above, b, stack.symm, rfl, rfl, fun innermost => ?_⟩
  subst innermost
  rw [List.nil_append] at stack
  have whole : ((scanned g document earlier).endLine g earlier).stack = b :: below :=
    (inside.eq_of_length_le (stack ▸ remains.length_le)).symm
  have isContinuation : g.isContinuation b.rule = true := by
    simpa [Grammar.isContinuation, known] using chain
  rcases survives b below whole stack.symm isContinuation with recorded | fresh
  · exact seen earlier recorded
  · exact fresh ▸ opened

/-- In front of every line the open continuation blocks are chained, since every marker and the end of
every line keep them so. -/
theorem before_chained (genuine : g.Genuine) (bound : line ≤ document.length) :
    Aimed g (before g document line) ∧ AllChained g document line (before g document line).stack := by
  induction line with
  | zero =>
    refine ⟨aimed_of_normal rfl, fun b below r inside => ?_⟩
    simp [before, readLines, State.start] at inside
  | succ line ih =>
    have atLine : document[line]? = some document[line] := List.getElem?_eq_getElem bound
    have read : Aimed g (scanned g document line) ∧
        AllChained g document line (scanned g document line).stack := by
      rw [scanned, atLine]
      refine steps_invariant (P := fun s => Aimed g s ∧ AllChained g document line s.stack) _
        (ih (Nat.le_of_lt bound)) ?_
      rintro s place next further ⟨aimed, chained⟩ stepped
      exact ⟨step_aimed aimed stepped, (step_carried genuine aimed stepped).chained atLine chained⟩
    rw [before_eq_scanned atLine]
    exact ⟨(endLine_lineEnd g line _).aimed read.1, endLine_chained read.2⟩

/-- Behind the last marker of a line, only the innermost block can belong to a rule that does not nest. -/
theorem scanned_stacked (closed : g.Closed) (bound : line ≤ document.length) :
    Stacked g line (scanned g document line).stack := by
  unfold scanned
  split
  · exact steps_invariant (P := fun s => Stacked g line s.stack) _ (before_valid closed bound).1
      fun _ _ _ _ stacked stepped => step_stacked closed stacked stepped
  · exact (before_valid closed bound).1

theorem Held.continues {b : Block} (held : Held g document r b below line)
    (valid : Stacked g line (scanned g document line).stack) (known : g.rules[b.rule]? = some r)
    (single : r.nested = false) : Continues document r line := by
  obtain ⟨above, own, stack, rule, -, innermost⟩ := held
  obtain ⟨rest, front⟩ := valid.innermost (b := own) (by simp [stack]) (rule.symm ▸ known) single
  apply innermost
  by_contra covered
  obtain ⟨first, above, rfl⟩ := List.exists_cons_of_ne_nil covered
  have nests := valid.nests own (by simp [stack])
  simp [Grammar.nests, rule, known, single] at nests

end Fold

namespace RuleSet

open Fold

theorem compile_genuine {rules : List Rule} {m : Master} (h : (compile rules).master = some m)
    (free : ∀ a ∈ (compile rules).candidates, a.pattern.verboseFree = true) :
    ((compile rules).grammar m).Genuine := by
  intro text place found searched
  rcases compile_reports h free text place with ⟨nothing, -⟩ | ⟨_, a, own, reported, reports⟩
  · cases nothing.symm.trans searched
  · cases reported.symm.trans searched
    obtain ⟨r, known, inside⟩ := Candidate.mem_ofRules.mp reports.mem
    exact ⟨reports.below, r, a.pattern, reports.rule ▸ known, reports.role ▸ inside,
      by simp [reports.matched]⟩

/-- A continuation block that is open behind a line began on a line that is continued. It was held on every
line since, and each of these lines at whose end it was the innermost block is continued, too. A
block of a rule that does not nest is always the innermost one, so all its lines are continued. -/
theorem chain_held {rules : List Rule} {document : Document} {m : Master} {line : Nat} {b : Block}
    {below : List Block} {r : CompiledRule} (combined : (compile rules).master = some m)
    (free : ∀ a ∈ (compile rules).candidates, a.pattern.verboseFree = true)
    (bound : line < document.length)
    (opened : b :: below <:+ (before ((compile rules).grammar m) document (line + 1)).stack)
    (known : (compile rules).rules[b.rule]? = some r) (chain : r.isContinuation = true) :
    Continues document r b.start ∧ ∀ earlier, b.start ≤ earlier → earlier ≤ line →
      Held ((compile rules).grammar m) document r b below earlier ∧
      (r.nested = false → Continues document r earlier) := by
  have closed : ((compile rules).grammar m).Closed := compile_closed combined
  obtain ⟨-, chained⟩ := before_chained (compile_genuine combined free) (Nat.succ_le_of_lt bound)
  obtain ⟨begun, -, held⟩ := chained b below r opened known chain
  refine ⟨begun, fun earlier first last => ?_⟩
  have inTime := held earlier first (Nat.lt_succ_of_le last)
  refine ⟨inTime, fun single => ?_⟩
  have valid : Stacked _ earlier (scanned ((compile rules).grammar m) document earlier).stack :=
    scanned_stacked closed (Nat.le_of_lt (Nat.lt_of_le_of_lt last bound))
  exact inTime.continues valid known single

/-- Definitions that go on while lines end with a backslash, and parentheses. -/
def definitionRules : List Rule :=
  [{ opening := { text := some "#d" }, continuation := { text := some "\\" } }, .ofTexts "(" ")"]

def definition : Document := .ofLines ["#d \\", "(", ") \\"]

set_option maxRecDepth 100000 in
/-- The definition is held on that line, too. -/
theorem chain_held_around_parentheses :
    ∃ m b r, (compile definitionRules).master = some m ∧
      (before ((compile definitionRules).grammar m) definition 3).stack = [b] ∧
      (compile definitionRules).rules[b.rule]? = some r ∧ r.isContinuation = true ∧ b.start = 0 ∧
      Continues definition r 0 ∧
      ∀ earlier ≤ 2, Held ((compile definitionRules).grammar m) definition r b [] earlier := by
  have evaluated : ∃ m ∈ (compile definitionRules).master,
      (before ((compile definitionRules).grammar m) definition 3).stack.length = 1 ∧
      ∀ b ∈ (before ((compile definitionRules).grammar m) definition 3).stack, b.start = 0 ∧
        ∃ r ∈ (compile definitionRules).rules[b.rule]?, r.isContinuation = true := by
    decide +kernel
  have free : ∀ a ∈ (compile definitionRules).candidates, a.pattern.verboseFree = true := by
    decide +kernel
  obtain ⟨m, combined, single, blocks⟩ := evaluated
  obtain ⟨b, stack⟩ := List.length_eq_one_iff.mp single
  obtain ⟨start, r, known, chain⟩ := blocks b (by simp [stack])
  have opened : [b] <:+ (before ((compile definitionRules).grammar m) definition 3).stack :=
    ⟨[], stack.symm⟩
  have bound : 2 < definition.length := by decide
  obtain ⟨begun, held⟩ := chain_held combined free bound opened known chain
  rw [start] at begun held
  exact ⟨m, b, r, combined, stack, known, chain, start, begun,
    fun earlier last => (held earlier (Nat.zero_le _) last).1⟩

set_option maxRecDepth 100000 in
/-- Below a parenthesis that is open at the end of a line, a definition outlives a line that does not
continue it. -/
theorem chain_broken_below_parenthesis :
    ∃ m ∈ (compile definitionRules).master,
      ∃ b ∈ (before ((compile definitionRules).grammar m) (.ofLines ["#d \\", "("]) 2).stack,
      ∃ r ∈ (compile definitionRules).rules[b.rule]?, r.isContinuation = true ∧ b.start ≤ 1 ∧
        ¬Continues (.ofLines ["#d \\", "("]) r 1 := by
  decide +kernel

end RuleSet

end Foldmark
