import Foldmark.Rule.Set

/-! What of a rule concerns matching. Neither the kind of a rule's ranges nor whether they hold the last line plays a
part when rules are compiled: rules that differ in nothing else are accepted and rejected alike, for the same
reasons and with the same pattern. -/
namespace Foldmark

def Rule.relook (lastLine : Bool → Bool) (kind : Kind → Kind) (r : Rule) : Rule :=
  { r with foldLastLine := lastLine r.foldLastLine, kind := kind r.kind }

def CompiledRule.relook (lastLine : Bool → Bool) (kind : Kind → Kind) (c : CompiledRule) : CompiledRule :=
  { c with foldLastLine := lastLine c.foldLastLine, kind := kind c.kind }

def RuleSet.relook (lastLine : Bool → Bool) (kind : Kind → Kind) (set : RuleSet) : RuleSet :=
  { set with rules := set.rules.map (.relook lastLine kind) }

abbrev Rule.plain : Rule → Rule := relook (fun _ => true) fun _ => .region

abbrev CompiledRule.plain : CompiledRule → CompiledRule := relook (fun _ => true) fun _ => .region

abbrev Rule.kindless : Rule → Rule := relook id fun _ => .region

abbrev CompiledRule.kindless : CompiledRule → CompiledRule := relook id fun _ => .region

abbrev Rule.endedBy (lastLine : Bool) : Rule → Rule := relook (fun _ => lastLine) id

abbrev CompiledRule.endedBy (lastLine : Bool) : CompiledRule → CompiledRule :=
  relook (fun _ => lastLine) id

variable {lastLine : Bool → Bool} {kind : Kind → Kind}

@[simp] theorem CompiledRule.findUnnested_relook (r : CompiledRule) :
    (r.relook lastLine kind).findUnnested = r.findUnnested := rfl

theorem Rule.compile_relook (r : Rule) :
    (r.relook lastLine kind).compile = r.compile.map (.relook lastLine kind) := by
  have markers : (r.relook lastLine kind).compileMatchers = r.compileMatchers := rfl
  rw [compile, compile, markers]
  cases r.compileMatchers <;> rfl

theorem Master.build_relook (rules : List CompiledRule) :
    build (rules.map (.relook lastLine kind)) = build rules := by
  have same : sources (rules.map (.relook lastLine kind)) = sources rules := by
    refine congrArg List.flatten (List.mapIdx_eq_iff.mpr fun index => ?_)
    rw [List.getElem?_map, List.getElem?_mapIdx, Option.map_map]
    rfl
  rw [build, build, same, List.length_map]

namespace RuleSet

theorem separate_relook (position : Nat) (rules : List Rule) :
    separate position (rules.map (.relook lastLine kind)) =
      ((separate position rules).1.map (Prod.map id (.relook lastLine kind)),
        (separate position rules).2) := by
  induction rules generalizing position with
  | nil => rfl
  | cons r rest ih =>
    rw [List.map_cons, separate, separate, ih, Rule.compile_relook]
    cases r.compile <;> rfl

theorem combine_relook (accepted : List CompiledRule) (master : Option Master)
    (usable : List (Nat × CompiledRule)) :
    combine (accepted.map (.relook lastLine kind)) master
        (usable.map (Prod.map id (.relook lastLine kind))) =
      (combine accepted master usable).relook lastLine kind := by
  induction usable generalizing accepted master with
  | nil => rfl
  | cons first rest ih =>
    obtain ⟨position, c⟩ := first
    have added : accepted.map (.relook lastLine kind) ++ [c.relook lastLine kind] =
        (accepted ++ [c]).map (.relook lastLine kind) := by
      simp
    rw [List.map_cons, Prod.map_apply, combine, combine, added, Master.build_relook]
    cases Master.build (accepted ++ [c]) with
    | ok m => exact ih _ _
    | error reason =>
      simp only [ih]
      rfl

theorem compile_relook (rules : List Rule) :
    compile (rules.map (.relook lastLine kind)) = (compile rules).relook lastLine kind := by
  have usable : ((separate 0 rules).1.map (Prod.map id (CompiledRule.relook lastLine kind))).map (·.2) =
      ((separate 0 rules).1.map (·.2)).map (.relook lastLine kind) := by
    rw [List.map_map, List.map_map]
    rfl
  have nothing := @combine_relook lastLine kind [] none (separate 0 rules).1
  simp only [compile, separate_relook, usable, Master.build_relook, List.isEmpty_map]
  cases Master.build ((separate 0 rules).1.map (·.2)) with
  | ok m => rfl
  | error reason =>
    simp only [List.map_nil] at nothing
    simp only [nothing]
    rfl

/-- Rules that differ in their looks alone are accepted and rejected alike, with the same pattern. -/
theorem compile_alike {rules others : List Rule}
    (same : others.map (Rule.relook lastLine kind) = rules.map (Rule.relook lastLine kind)) :
    (compile others).rejected = (compile rules).rejected ∧
      (compile others).master = (compile rules).master ∧
      (compile others).rules.map (CompiledRule.relook lastLine kind) =
        (compile rules).rules.map (CompiledRule.relook lastLine kind) := by
  have sets : (compile others).relook lastLine kind = (compile rules).relook lastLine kind := by
    rw [← compile_relook, ← compile_relook, same]
  rw [relook, relook, RuleSet.mk.injEq] at sets
  exact ⟨sets.2.2, sets.2.1, sets.1⟩

end RuleSet

end Foldmark
