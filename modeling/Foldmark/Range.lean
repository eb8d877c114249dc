/-! Folding ranges: blocks of lines that an editor may fold away. -/
namespace Foldmark

inductive Kind
  | comment | region
deriving DecidableEq, Repr

def Kind.name : Kind → String
  | .comment => "comment"
  | .region => "region"

def Kind.ofName? : String → Option Kind
  | "comment" => some .comment
  | "region" => some .region
  | _ => none

theorem Kind.ofName?_name (kind : Kind) : Kind.ofName? kind.name = some kind := by
  cases kind <;> rfl

/-- The lines from `start` to `stop`, both included and counted from zero. -/
structure Range where
  start : Nat
  stop : Nat
  kind : Kind
deriving DecidableEq, Repr

namespace Range

def wordSize : Nat := Nat.pow 2 64

/-- The number of lines, counted in words, so that it is defined also for a range that ends before
it starts. -/
def lineCount (r : Range) : Nat := (r.stop + wordSize - r.start + 1) % wordSize

def contains (r s : Range) : Bool := r.start ≤ s.start && s.stop ≤ r.stop

def toText (r : Range) : String := s!"[{r.start}, {r.stop}] {r.kind.name}"

end Range

end Foldmark
