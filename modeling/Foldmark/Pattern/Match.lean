import Foldmark.Pattern.Loop
import Foldmark.Pattern.Node

/-! Matching: the outcomes of a node at a place, in order of preference, and the search for the first
place where it has one. -/
namespace Foldmark.Pattern

structure Found where
  start : Nat
  stop : Nat
  groups : List (Option Span)
deriving DecidableEq, Repr

namespace Found

/-- What the group with a number covers; the number 0 stands for the whole match. -/
def group? (f : Found) : Nat → Option Span
  | 0 => some ⟨f.start, f.stop⟩
  | number + 1 => (f.groups[number]?).join

end Found

/-- Every way in which a node can match from a place on, best first. -/
def Node.outcomes (text : Array Char) : Node → Nat → List Outcome
  | .empty, place => [⟨place, []⟩]
  | .void groups, place => [⟨place, List.replicate groups none⟩]
  | .char c, place => if text[place]? = some c then [⟨place + 1, []⟩] else []
  | .set s, place =>
    match text[place]? with
    | some c => if s.contains c then [⟨place + 1, []⟩] else []
    | none => []
  | .look kind, place => if kind.holds text place then [⟨place, []⟩] else []
  | .group _ body, place =>
    (body.outcomes text place).map fun o => ⟨o.stop, some ⟨place, o.stop⟩ :: o.groups⟩
  | .cat a b, place =>
    Outcome.distinct text.size <|
      (a.outcomes text place).flatMap fun first =>
        (b.outcomes text first.stop).map fun second => first.append second
  | .alt a b, place =>
    Outcome.distinct text.size <|
      (a.outcomes text place).map (Outcome.pad 0 b.groupCount) ++
        (b.outcomes text place).map (Outcome.pad a.groupCount 0)
  | .loop body min max greedy, place =>
    Loop.outcomes ⟨min, max, greedy⟩ text.size body.groupCount (body.outcomes text) place

def Node.matchAt (node : Node) (text : Array Char) (place : Nat) : Option Found :=
  (node.outcomes text place).head?.map fun o => ⟨place, o.stop, o.groups⟩

def Node.searchFrom (node : Node) (text : Array Char) : Nat → Nat → Option Found
  | 0, _ => none
  | count + 1, place =>
    match node.matchAt text place with
    | some found => some found
    | none => node.searchFrom text count (place + 1)

/-- The best match at the first place from `start` on that has one. -/
def Node.search (node : Node) (text : Array Char) (start : Nat) : Option Found :=
  node.searchFrom text (text.size + 1 - start) start

end Foldmark.Pattern
