import Foldmark.Proofs.Fold.Order
import Foldmark.Proofs.Rule.Master

/-! What holds of every state of a scan with the rules of a set. How the open blocks lie on each other is
settled by the scan alone. What their rules make of them also needs markers that are reported in
roles of their own rules, which patterns that switch the verbose flag on can break. -/
namespace Foldmark.RuleSet

open Fold

def grammar (set : RuleSet) (m : Master) : Grammar := ⟨set.rules, m⟩

theorem fold_eq_run {set : RuleSet} {m : Master} (combined : set.master = some m)
    (document : Document) : set.fold document = run (set.grammar m) document := by
  simp [fold, combined, grammar]

theorem compile_fitting {rules : List Rule} {m : Master} (h : (compile rules).master = some m)
    (free : ∀ a ∈ (compile rules).candidates, a.pattern.verboseFree = true) :
    ((compile rules).grammar m).Fitting := by
  intro text place found searched
  rcases compile_reports h free text place with ⟨nothing, -⟩ | ⟨_, a, own, reported, reports⟩
  · cases nothing.symm.trans searched
  · cases reported.symm.trans searched
    obtain ⟨r, known, inside⟩ := Candidate.mem_ofRules.mp reports.mem
    exact ⟨r, reports.rule ▸ known, reports.role ▸ List.mem_map.mpr ⟨_, inside, rfl⟩⟩

/-- In every state of a scan, blocks belong to rules of the set, begin in the order of the stack and
not behind the line that is read, and lie in blocks of rules that nest. If every marker is reported
in a role of its own rule, the sections are the blocks of separators, the blocks of rules with a
mirrored closing marker expect one, and the markers of one rule alone are looked for just inside a
block of that rule that does not nest. -/
theorem reaches_valid {rules : List Rule} {document : Document} {m : Master} {line place : Nat}
    {s : State} (combined : (compile rules).master = some m)
    (reached : Reaches ((compile rules).grammar m) document line place s) :
    Stacked ((compile rules).grammar m) line s.stack ∧
    (((compile rules).grammar m).Fitting → Shaped ((compile rules).grammar m) s ∧
      ∀ rule, s.mode = .unnested rule →
        ∃ r, (compile rules).rules[rule]? = some r ∧ r.unnested?.isSome = true) ∧
    ((∀ a ∈ (compile rules).candidates, a.pattern.verboseFree = true) →
      ((compile rules).grammar m).Fitting) := by
  have closed : ((compile rules).grammar m).Closed := compile_closed combined
  refine ⟨reached.stacked closed, fun fitting => ?_, compile_fitting combined⟩
  have shaped := reached.shaped closed fitting
  refine ⟨shaped, fun rule mode => ?_⟩
  obtain ⟨top, below, -, rfl, r, known, paired, alone⟩ := (shaped.alone rule).mp mode
  obtain ⟨origin, -, compiled⟩ := compile_origin (List.mem_of_getElem? known)
  exact ⟨r, known, Rule.compile_unnested compiled paired alone⟩

def commentRule : Rule := { Rule.ofTexts "/*" "*/" with nested := false }

set_option maxRecDepth 100000 in
/-- After the marker that opens a comment, only its end is looked for. -/
theorem reaches_valid_in_comment :
    ∃ m place s, (compile [commentRule]).master = some m ∧
      Reaches ((compile [commentRule]).grammar m) (.ofLines ["a /*", "b"]) 0 place s ∧
      s.mode = .unnested 0 ∧
      Stacked ((compile [commentRule]).grammar m) 0 s.stack ∧
      Shaped ((compile [commentRule]).grammar m) s := by
  obtain ⟨m, combined⟩ := Option.isSome_iff_exists.mp
    (show (compile [commentRule]).master.isSome = true by decide +kernel)
  have opened : ((compile [commentRule]).master.all fun m =>
      (step ((compile [commentRule]).grammar m) 0 (.ofString "a /*") .start 0).any
        fun (next, _) => next.mode = .unnested 0) = true := by decide +kernel
  rw [combined, Option.all_some, Option.any_eq_true] at opened
  obtain ⟨⟨s, place⟩, stepped, mode⟩ := opened
  have reached : Reaches ((compile [commentRule]).grammar m) (.ofLines ["a /*", "b"]) 0 place s :=
    .marker rfl (.lineStart (Nat.zero_le _)) (Nat.zero_le _) stepped
  have free : ∀ a ∈ (compile [commentRule]).candidates, a.pattern.verboseFree = true := by
    decide +kernel
  obtain ⟨stacked, shaped, fitting⟩ := reaches_valid combined reached
  exact ⟨m, place, s, combined, reached, of_decide_eq_true mode, stacked, (shaped (fitting free)).1⟩

/-- A separator and a delimiter that switch the verbose flag on. The comment at the end of the
separator takes in the end of its group, and so does the comment in the delimiter. -/
def verboseRules : List Rule :=
  let delimiter := "(?x)(?:b\n)#|(?P<__fold_separator_1>c)|(d"
  [{ separator := { regex := some "(?x)a #" } }, .ofPatterns delimiter delimiter]

set_option maxRecDepth 100000 in
/-- A group that a comment hides from a pattern alone can stand open among the other patterns, and
report a marker in a role that its rule does not have: a delimiter begins a section. -/
theorem reaches_section_of_docstring :
    ∃ m place s b r, (compile verboseRules).master = some m ∧
      Reaches ((compile verboseRules).grammar m) (.ofLines ["c", "", ""]) 0 place s ∧
      b ∈ s.stack ∧ (compile verboseRules).rules[b.rule]? = some r ∧ b.isSection = true ∧
      r.shape = .docstring := by
  obtain ⟨m, combined⟩ := Option.isSome_iff_exists.mp
    (show (compile verboseRules).master.isSome = true by decide +kernel)
  have opened : ((compile verboseRules).master.all fun m =>
      (step ((compile verboseRules).grammar m) 0 (.ofString "c") .start 0).any fun (next, _) =>
        next.stack.any fun b => ((compile verboseRules).rules[b.rule]?).any fun r =>
          b.isSection && r.shape = .docstring) = true := by decide +kernel
  rw [combined, Option.all_some, Option.any_eq_true] at opened
  obtain ⟨⟨s, place⟩, stepped, opened⟩ := opened
  obtain ⟨b, member, opened⟩ := List.any_eq_true.mp opened
  obtain ⟨r, known, sectionOfDocstring⟩ := (Option.any_eq_true _ _).mp opened
  rw [Bool.and_eq_true, decide_eq_true_eq] at sectionOfDocstring
  exact ⟨m, place, s, b, r, combined, .marker rfl (.lineStart (Nat.zero_le _)) (Nat.zero_le _) stepped,
    member, known, sectionOfDocstring⟩

end Foldmark.RuleSet
