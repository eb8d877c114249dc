import Foldmark.Pattern.Outcome

/-! Repetition. What is repeated is known only by the outcomes it has at each place. The search passes
from copy to copy in order of preference and enters no copy twice at one place, so it ends also when
a copy covers nothing. -/
namespace Foldmark.Pattern

/-- How often something is repeated, and whether more is preferred. -/
structure Loop where
  min : Nat
  max : Option Nat
  greedy : Bool
deriving DecidableEq, Repr

namespace Loop

/-- What is still to be tried: to go on after `done` copies, or to end the repetition. -/
inductive Task
  | pass (done : Nat) (so_far : Outcome)
  | leave (so_far : Outcome)

/-- The number of copies; without an upper bound the last one is entered again and again. -/
def copies (l : Loop) : Nat := l.max.getD (Nat.max l.min 1)

/-- What has been visited: a number of copies done and a place. -/
structure Visited where
  width : Nat
  cells : Array Bool

namespace Visited

def has (v : Visited) (done place : Nat) : Bool := v.cells[done * v.width + place]?.getD false

def mark (v : Visited) (done place : Nat) : Visited :=
  { v with cells := v.cells.setIfInBounds (done * v.width + place) true }

end Visited

/-- Whether one more copy may be entered. The last copy of an unbounded repetition is the same for
all who enter it, so it is not entered where it was entered from the copy before. -/
def mayEnter (l : Loop) (v : Visited) (done place : Nat) : Bool :=
  done < l.copies || (l.max.isNone && !v.has (done - 1) place)

def choices (l : Loop) (body : Nat → List Outcome) (v : Visited) (done : Nat) (o : Outcome) :
    List Task :=
  let enter :=
    if l.mayEnter v done o.stop then
      (body o.stop).map fun next => .pass (Nat.min (done + 1) l.copies) (o.extend next)
    else []
  let leave := if l.min ≤ done then [.leave o] else []
  if l.greedy then enter ++ leave else leave ++ enter

/-- Works through the tasks, adding to the outcomes found so far (newest first). -/
def explore (l : Loop) (body : Nat → List Outcome) :
    Nat → Visited → List Outcome → List Task → List Outcome
  | 0, _, found, _ => found.reverse
  | _ + 1, _, found, [] => found.reverse
  | fuel + 1, v, found, .leave o :: tasks => explore l body fuel v (o :: found) tasks
  | fuel + 1, v, found, .pass done o :: tasks =>
    if v.has done o.stop then explore l body fuel v found tasks
    else explore l body fuel (v.mark done o.stop) found (l.choices body v done o ++ tasks)

/-- Every way to repeat a body with `groups` groups from a place on. Each of the cells is visited
once, and leaves at most one task for each place and one more. -/
def outcomes (l : Loop) (size groups : Nat) (body : Nat → List Outcome) (place : Nat) :
    List Outcome :=
  let width := size + 1
  let cells := (l.copies + 1) * width
  Outcome.distinct size <|
    explore l body (cells * (width + 1) + 2) ⟨width, Array.replicate cells false⟩ []
      [.pass 0 ⟨place, List.replicate groups none⟩]

end Loop

end Foldmark.Pattern
