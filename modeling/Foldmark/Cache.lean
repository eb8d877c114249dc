import Foldmark.Config.Basic
import Foldmark.Rule.Set

/-! Compiled rules, kept for every language that was asked for. Each compilation has a stamp of its own,
so that two answers with one stamp are one and the same rule set. -/
namespace Foldmark

structure Compilation where
  stamp : Nat
  rules : RuleSet

structure Cache where
  kept : List (String × Compilation) := []
  /-- The stamp of the next compilation. -/
  next : Nat := 0

namespace Cache

/-- The rule set of a language, compiled from a configuration unless it is kept already. -/
def get (c : Cache) (language : String) (config : Config) : Cache × Compilation :=
  match c.kept.lookup language with
  | some found => (c, found)
  | none =>
    let fresh : Compilation := ⟨c.next, RuleSet.compile (config.rulesFor language)⟩
    (⟨(language, fresh) :: c.kept, c.next + 1⟩, fresh)

def invalidate (c : Cache) : Cache := { c with kept := [] }

def size (c : Cache) : Nat := c.kept.length

def isEmpty (c : Cache) : Bool := c.kept.isEmpty

end Cache

end Foldmark
