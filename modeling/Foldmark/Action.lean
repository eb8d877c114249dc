import Foldmark.Failure
import Foldmark.Store

/-! What is done with files, step by step. An action that fails leaves files, too: those that it has come to,
whatever it has written. -/
namespace Foldmark

/-- An answer, or why there is none, and the files that are left in either case. -/
abbrev Action (α : Type) := ExceptT Failure (StateM Store) α

namespace Action

variable {α : Type}

def runOn (action : Action α) (s : Store) : Except Failure α × Store := action.run.run s

def result (action : Action α) (s : Store) : Except Failure (Store × α) :=
  match action.runOn s with
  | (.ok x, left) => .ok (left, x)
  | (.error e, _) => .error e

def write (path text : String) (fault : Failure) : Action Unit := do
  match (← get).write? path (some text) with
  | some s => set s
  | none => throw fault

end Action

end Foldmark
