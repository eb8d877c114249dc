import Foldmark.Proofs.Fold.Transport

/-! Documents that are put together. Where no block is open, a scan stands as at the beginning of a document,
except for the lines in front and the ranges that have been found in them. Only separators tell the
difference, since a leading section counts its lines from the beginning. -/
namespace Foldmark

namespace Fold

variable {g : Grammar} {first : Document}

def behind (g : Grammar) (first : Document) : Transport :=
  ⟨id, first.length, (before g first first.length).ranges⟩

theorem before_eq_behind (idle : (before g first first.length).stack = []) :
    before g first first.length = (behind g first).state .start := by
  have aimed := (Reaches.lineStart (g := g) (Nat.le_refl first.length)).aimed
  have mode : (before g first first.length).mode = .normal := by
    cases mode : (before g first first.length).mode with
    | normal => rfl
    | unnested rule =>
      obtain ⟨top, below, stack, -⟩ := aimed rule mode
      simp [idle] at stack
  have shown (s : State) (empty : s.stack = []) (mode : s.mode = .normal) :
      s = ⟨[], s.ranges, .normal⟩ := by
    rw [← empty, ← mode]
  exact shown _ idle mode

/-- Lines behind which no block is open are folded apart from those that follow, where no marker is
reported for a separator. -/
theorem run_append (unseparated : ∀ text place found, g.master.findAt text place = some found →
    found.role ≠ .separator) (idle : (before g first first.length).stack = []) (second : Document) :
    run g (first ++ second) = run g first ++ (run g second).map (.later first.length) := by
  have renames : (behind g first).Renames g g := ⟨Function.injective_id, fun _ => rfl⟩
  have finds (text : Line) : (behind g first).Finds g g text := by
    intro place
    cases searched : g.master.findAt text place with
    | none => exact .none
    | some found =>
      refine .some ⟨rfl, rfl, rfl, rfl, fun role => ?_, fun _ _ _ _ _ => rfl⟩
      exact (unseparated text place found searched role).elim
  have read := Transport.readLines renames second (fun text _ => finds text) 0 .start
  have whole : readLines g 0 (first ++ second) .start =
      (behind g first).state (readLines g 0 second .start) := by
    rw [readLines_append, ← read, ← before_eq_behind idle, before, List.take_length]
    rfl
  have ranges : run g first = (before g first first.length).ranges.reverse := by
    simp [run_eq_finish, State.finish, idle]
  rw [run, whole, List.length_append, Nat.add_comm, ranges]
  exact Transport.finish renames _ _

end Fold

namespace RuleSet

open Fold

/-- Without separators, folding is compositional: documents of which the first leaves no block open are folded
one after the other, and the lines of the second are counted from the end of the first. -/
theorem fold_append {rules : List Rule}
    (unseparated : ∀ r ∈ (compile rules).rules, r.shape ≠ .separator)
    (free : ∀ a ∈ (compile rules).candidates, a.pattern.verboseFree = true) {first : Document}
    (idle : ∀ m ∈ (compile rules).master,
      (before ((compile rules).grammar m) first first.length).stack = []) (second : Document) :
    (compile rules).fold (first ++ second) =
      (compile rules).fold first ++ ((compile rules).fold second).map (.later first.length) := by
  cases combined : (compile rules).master with
  | none => simp [fold, combined]
  | some m =>
    rw [fold_eq_run combined, fold_eq_run combined, fold_eq_run combined]
    refine run_append (fun text place found searched role => ?_) (idle m combined) second
    obtain ⟨r, known, own⟩ := compile_fitting combined free text place found searched
    exact unseparated r (List.mem_of_getElem? known) (r.separator_mem_roles.mp (role ▸ own))

set_option maxRecDepth 100000 in
/-- A comment behind parentheses is folded as if it stood at the beginning. -/
theorem fold_append_comment :
    (∀ r ∈ (compile [commentRule, .ofTexts "(" ")"]).rules, r.shape ≠ .separator) ∧
    (∀ a ∈ (compile [commentRule, .ofTexts "(" ")"]).candidates, a.pattern.verboseFree = true) ∧
    (∀ m ∈ (compile [commentRule, .ofTexts "(" ")"]).master,
      (before ((compile [commentRule, .ofTexts "(" ")"]).grammar m) (.ofLines ["(", ")"]) 2).stack = []) ∧
    (compile [commentRule, .ofTexts "(" ")"]).fold (.ofLines ["(", ")"] ++ .ofLines ["/*", "(", "*/"]) =
      [⟨0, 1, .region⟩, ⟨2, 4, .region⟩] := by
  have unseparated : ∀ r ∈ (compile [commentRule, .ofTexts "(" ")"]).rules, r.shape ≠ .separator := by
    decide +kernel
  have free : ∀ a ∈ (compile [commentRule, .ofTexts "(" ")"]).candidates,
      a.pattern.verboseFree = true := by decide +kernel
  have idle : ∀ m ∈ (compile [commentRule, .ofTexts "(" ")"]).master,
      (before ((compile [commentRule, .ofTexts "(" ")"]).grammar m) (.ofLines ["(", ")"]) 2).stack = [] := by
    decide +kernel
  refine ⟨unseparated, free, idle, ?_⟩
  rw [fold_append unseparated free idle]
  decide +kernel

/-- Two delimiters that switch the verbose flag on. The comment at the end of the first takes in the end of its
group, and ends in the second, where it lets a group through that has the name of a separator's. -/
def hiddenSeparatorRules : List Rule :=
  let delimiter := "(?x)(?:b\n)#|(?P<__fold_separator_1>c)|(d"
  [.ofPatterns "(?x)a #" "(?x)a #", .ofPatterns delimiter delimiter]

set_option maxRecDepth 100000 in
/-- What such a group reports begins a section, though there is no separator, and the leading section has
the line in front in it, too. -/
theorem fold_append_leading :
    (∀ r ∈ (compile hiddenSeparatorRules).rules, r.shape ≠ .separator) ∧
    (∀ m ∈ (compile hiddenSeparatorRules).master,
      (before ((compile hiddenSeparatorRules).grammar m) (.ofLines ["x"]) 1).stack = []) ∧
    (compile hiddenSeparatorRules).fold (.ofLines ["x"] ++ .ofLines ["", "", "c"]) ≠
      (compile hiddenSeparatorRules).fold (.ofLines ["x"]) ++
        ((compile hiddenSeparatorRules).fold (.ofLines ["", "", "c"])).map (.later 1) := by
  decide +kernel

end RuleSet

end Foldmark
