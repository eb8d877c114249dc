import Foldmark.Pattern.Node

/-! The form of a node from which automata are made. Sequences and alternatives are flat there, alternatives
of one character each are a set, and what all alternatives begin with stands in front of them. -/
namespace Foldmark.Pattern.Node

def isChar : Node → Bool
  | .char _ => true
  | _ => false

def isSet : Node → Bool
  | .set _ => true
  | _ => false

/-- The members of a sequence, without those that match everywhere. -/
def parts : Node → List Node
  | .empty => []
  | .void _ => []
  | .cat a b => a.parts ++ b.parts
  | node => [node]

/-- The members of a sequence, where characters in a row are one text. -/
def runs (node : Node) : List (List Node) := node.parts.splitBy fun a b => a.isChar && b.isChar

def sequence : List Node → Node
  | [] => .empty
  | [node] => node
  | node :: rest => .cat node (sequence rest)

def branches : Node → List Node
  | .alt a b => a.branches ++ b.branches
  | node => [node]

def choice : List Node → Node
  | [] => .empty
  | [node] => node
  | node :: rest => .alt node (choice rest)

def ofSet (s : CharSet) : Node :=
  match s.ranges with
  | [r] => if r.lo = r.hi then .char (Char.ofNat r.lo) else .set s
  | _ => .set s

def members : Node → List CodeRange
  | .char c => (CharSet.singleton c).ranges
  | .set s => s.ranges
  | _ => []

/-- Alternatives as one set, if all of them are characters, or all of them are sets. -/
def oneSet? (nodes : List Node) : Option Node :=
  if nodes.all isChar || nodes.all isSet then some (ofSet (.ofRanges (nodes.flatMap members))) else none

/-- The number of elements that two lists have in common at their beginnings. -/
def commonLength {α : Type} [DecidableEq α] : List α → List α → Nat
  | a :: as, b :: bs => if a = b then commonLength as bs + 1 else 0
  | _, _ => 0

/-- How many members several sequences have in common at their beginnings. Groups differ by their numbers. -/
def sharedLength : List (List (List Node)) → Nat
  | [] => 0
  | first :: others =>
    if (first :: others).all (2 ≤ ·.length) then
      let bare := first.takeWhile fun run => run.all (·.groupCount = 0)
      others.foldl (fun shared other => min shared (commonLength bare other)) bare.length
    else 0

def merge (nodes : List Node) : Node :=
  match nodes with
  | [] => .empty
  | [node] => node
  | first :: _ =>
    let all := nodes.map runs
    let shared := sharedLength all
    if shared = 0 then (oneSet? nodes).getD (choice nodes)
    else
      let rests := all.map fun run => sequence (run.drop shared).flatten
      sequence ((first.runs.take shared).flatten ++ [(oneSet? rests).getD (choice rests)])

def mergedBranches : Node → List Node
  | .alt a b => (merge a.mergedBranches).branches ++ b.mergedBranches
  | .cat a b => [sequence ((merge a.mergedBranches).parts ++ (merge b.mergedBranches).parts)]
  | .group name body => [.group name (merge body.mergedBranches)]
  | .loop body min max greedy => [.loop (merge body.mergedBranches) min max greedy]
  | .set s => [ofSet s]
  | node => [node]

def merged (node : Node) : Node := merge node.mergedBranches

end Foldmark.Pattern.Node
