import Foldmark.Text.CharClass

/-! Patterns with their flags settled: what has to stand at a place for a match. Groups are numbered
by the order in which they occur, counted anew in every node, so a node means the same wherever it
is put. -/
namespace Foldmark.Pattern

inductive WordLook
  | boundary | inside | start | stop | startHalf | stopHalf
deriving DecidableEq, Repr

/-- Conditions on a place in a line. Lines are ended by `\n`, or by `\r\n` and both its characters in
the forms named after them. -/
inductive Look
  | textStart | textEnd | lineStart | lineEnd | crlfStart | crlfEnd
  | word (ascii : Bool) (kind : WordLook)
deriving DecidableEq, Repr

namespace Look

def wordAt (text : Array Char) (ascii : Bool) (index : Nat) : Bool :=
  match text[index]? with
  | some c => if ascii then CharSet.asciiWord.contains c else isWordChar c
  | none => false

def before? (text : Array Char) (place : Nat) : Option Char :=
  if place = 0 then none else text[place - 1]?

def wordHolds (kind : WordLook) (before after : Bool) : Bool :=
  match kind with
  | .boundary => before != after
  | .inside => before == after
  | .start => !before && after
  | .stop => before && !after
  | .startHalf => !before
  | .stopHalf => !after

/-- Whether a condition holds before the character with index `place`. -/
def holds (text : Array Char) (place : Nat) : Look → Bool
  | .textStart => place = 0
  | .textEnd => place = text.size
  | .lineStart => place = 0 || before? text place = some '\n'
  | .lineEnd => place = text.size || text[place]? = some '\n'
  | .crlfStart =>
    place = 0 || before? text place = some '\n' ||
      (before? text place = some '\r' && text[place]? != some '\n')
  | .crlfEnd =>
    place = text.size || text[place]? = some '\r' ||
      (text[place]? = some '\n' && before? text place != some '\r')
  | .word ascii kind =>
    wordHolds kind (place ≠ 0 && wordAt text ascii (place - 1)) (wordAt text ascii place)

end Look

inductive Node
  /-- Matches everywhere. -/
  | empty
  /-- Matches everywhere; none of its groups ever takes part. -/
  | void (groups : Nat)
  | char (c : Char)
  | set (s : CharSet)
  | look (kind : Look)
  | group (name : Option String) (body : Node)
  | cat (first second : Node)
  /-- Prefers the first alternative. -/
  | alt (first second : Node)
  /-- Repeats; prefers more if `greedy`, and fewer otherwise. -/
  | loop (body : Node) (min : Nat) (max : Option Nat) (greedy : Bool)
deriving DecidableEq, Repr

namespace Node

def groupCount : Node → Nat
  | .void groups => groups
  | .group _ body => body.groupCount + 1
  | .cat a b => a.groupCount + b.groupCount
  | .alt a b => a.groupCount + b.groupCount
  | .loop body _ _ _ => body.groupCount
  | _ => 0

/-- The groups in order: `none` for a group that never takes part, otherwise its name if it has
one. -/
def groups : Node → List (Option (Option String))
  | .void groups => List.replicate groups none
  | .group name body => some name :: body.groups
  | .cat a b => a.groups ++ b.groups
  | .alt a b => a.groups ++ b.groups
  | .loop body _ _ _ => body.groups
  | _ => []

theorem length_groups (node : Node) : node.groups.length = node.groupCount := by
  induction node <;> simp_all [groups, groupCount]

def lastGroup (node : Node) : Nat := (node.groups.reverse.dropWhile Option.isNone).length

/-- The fewest characters that a match covers, if the node can match at all. -/
def minLength? : Node → Option Nat
  | .char _ => some 1
  | .set s => if s.isEmpty then none else some 1
  | .group _ body => body.minLength?
  | .cat a b => do return (← a.minLength?) + (← b.minLength?)
  | .alt a b => do return min (← a.minLength?) (← b.minLength?)
  | .loop body min _ _ => body.minLength?.map (· * min)
  | _ => some 0

def advances (node : Node) : Bool :=
  match node.minLength? with
  | some n => decide (0 < n)
  | none => false

def isZeroWidth : Node → Bool
  | .char _ => false
  | .set _ => false
  | .group _ body => body.isZeroWidth
  | .cat a b => a.isZeroWidth && b.isZeroWidth
  | .alt a b => a.isZeroWidth && b.isZeroWidth
  | .loop body _ max _ => body.isZeroWidth && max.isSome
  | _ => true

/-- A repetition. What covers no character is not worth repeating; no times is no match of the body
at all, and once is the body. -/
def repeated (body : Node) (min : Nat) (max : Option Nat) (greedy : Bool) : Node :=
  let min := if body.isZeroWidth then Nat.min min 1 else min
  let max := if body.isZeroWidth then some (Nat.min (max.getD 1) 1) else max
  if min = 0 ∧ max = some 0 then .void body.groupCount
  else if min = 1 ∧ max = some 1 then body
  else .loop body min max greedy

end Node

end Foldmark.Pattern
