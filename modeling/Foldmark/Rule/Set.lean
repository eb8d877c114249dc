import Foldmark.Rule.Master

/-! Rules compiled for use together. Compiling never fails: rules that cannot be used are left out, and
what was wrong with them is kept. -/
namespace Foldmark

structure Rejection where
  position : Nat
  reason : RuleError
deriving DecidableEq, Repr

structure RuleSet where
  rules : List CompiledRule
  master : Option Master
  rejected : List Rejection

namespace RuleSet

/-- The rules that compile on their own, with their positions, and the others. -/
def separate : Nat → List Rule → List (Nat × CompiledRule) × List Rejection
  | _, [] => ([], [])
  | position, r :: rest =>
    let (usable, rejected) := separate (position + 1) rest
    match r.compile with
    | .ok compiled => ((position, compiled) :: usable, rejected)
    | .error reason => (usable, ⟨position, reason⟩ :: rejected)

/-- Adds rules one by one to those that are accepted, and leaves out each one that does not combine
with them. -/
def combine (accepted : List CompiledRule) (master : Option Master) :
    List (Nat × CompiledRule) → RuleSet
  | [] => ⟨accepted, master, []⟩
  | (position, r) :: rest =>
    match Master.build (accepted ++ [r]) with
    | .ok built => combine (accepted ++ [r]) (some built) rest
    | .error reason =>
      let set := combine accepted master rest
      { set with rejected := ⟨position, .masterConflict reason⟩ :: set.rejected }

def mergeRejected (a b : List Rejection) : List Rejection :=
  (a ++ b).mergeSort fun r s => r.position ≤ s.position

def compile (rules : List Rule) : RuleSet :=
  let (usable, rejected) := separate 0 rules
  let compiled := usable.map (·.2)
  match Master.build compiled with
  | .ok master => ⟨compiled, if compiled.isEmpty then none else some master, rejected⟩
  | .error _ =>
    let set := combine [] none usable
    { set with rejected := mergeRejected rejected set.rejected }

end RuleSet

end Foldmark
