import Foldmark.Pattern.Merging

/-! How much memory an automaton for a node would take, which bounds the patterns that are accepted. The
automaton reads UTF-8 bytes; there is one for each reading direction, and the one that reads
backwards has no groups. -/
namespace Foldmark.Pattern

/-- The most that an automaton may take. -/
def sizeLimit : Nat := 10 * Nat.pow 2 20

/-- Splits the codes from `lo` to `hi`, written with `trail` bytes of six bits after the first one,
into products of byte ranges. -/
def byteRanges : Nat → Nat → Nat → List (List CodeRange)
  | 0, lo, hi => [[⟨lo, hi⟩]]
  | trail + 1, lo, hi =>
    let unit := Nat.pow 64 (trail + 1)
    let first := lo / unit
    let last := hi / unit
    if first = last then
      (byteRanges trail (lo % unit) (hi % unit)).map (⟨first, first⟩ :: ·)
    else
      let cutLow := lo % unit ≠ 0
      let cutHigh := hi % unit ≠ unit - 1
      let low :=
        if cutLow then (byteRanges trail (lo % unit) (unit - 1)).map (⟨first, first⟩ :: ·) else []
      let high :=
        if cutHigh then (byteRanges trail 0 (hi % unit)).map (⟨last, last⟩ :: ·) else []
      let start := if cutLow then first + 1 else first
      let stop := if cutHigh then last - 1 else last
      let middle :=
        if start ≤ stop then [⟨start, stop⟩ :: List.replicate (trail + 1) ⟨0, 63⟩] else []
      low ++ middle ++ high

/-- The codes that are written with one, two, three and four bytes, by the number of bytes after the
first; three bytes leave out the codes that are no characters. -/
def byteClasses : List (Nat × CodeRange) :=
  [(0, ⟨0, 0x7F⟩), (1, ⟨0x80, 0x7FF⟩), (2, ⟨0x800, 0xD7FF⟩), (2, ⟨0xE000, 0xFFFF⟩),
    (3, ⟨0x10000, CharSet.top⟩)]

/-- The number of different beginnings that some lists have, where lists with a common beginning
stand side by side. -/
def beginningCount (previous : List CodeRange) : List (List CodeRange) → Nat
  | [] => 0
  | next :: rest => next.length - Node.commonLength previous next + beginningCount next rest

/-- The products of byte ranges that make up a set, and the number of their beginnings. -/
def CharSet.byteCounts (s : CharSet) : Nat × Nat :=
  byteClasses.foldl (fun (products, beginnings) (trail, span) =>
      let all := s.ranges.flatMap fun r =>
        let lo := max r.lo span.lo
        let hi := min r.hi span.hi
        if lo ≤ hi then byteRanges trail lo hi else []
      (products + all.length, beginnings + beginningCount [] all))
    (0, 0)

def stateWeight : Nat := 32

def targetWeight : Nat := 4

def transitionWeight : Nat := 8

def branchWeight : Nat := stateWeight + 2 * targetWeight

def weightSum : List Nat → Nat
  | [] => 0
  | weight :: rest => weight + weightSum rest

def CharSet.weight (forward : Bool) (s : CharSet) : Nat :=
  if s.isAscii then 2 * stateWeight + transitionWeight * s.ranges.length
  else
    let (products, beginnings) := CharSet.byteCounts s
    if forward then
      (beginnings - products + 2) * stateWeight + beginnings * transitionWeight
    else (beginnings + 2) * stateWeight + products * targetWeight

def repeatWeight (body : Nat) (advances : Bool) (min : Nat) : Option Nat → Nat
  | some max =>
    if min = max then max * body + (if max = 0 then stateWeight else 0)
    else max * body + (max - min) * branchWeight + stateWeight
  | none =>
    if min = 0 then
      if advances then body + branchWeight else body + 2 * branchWeight + stateWeight
    else min * body + branchWeight

def Node.text? (node : Node) : Option (List Char) :=
  if node.parts = [] then none
  else node.parts.mapM fun part =>
    match part with
    | .char c => some c
    | _ => none

def encode (forward : Bool) (texts : List (List Char)) : List (List UInt8) :=
  texts.map fun text =>
    let bytes := text.flatMap String.utf8EncodeChar
    if forward then bytes else bytes.reverse

/-- The weight of the tree of some words, which are shorter than `depth`. A state of the tree has a part for the
words between two that end there, and parts with one successor are lighter. -/
def treeWeight : Nat → List (List UInt8) → Nat
  | 0, _ => 0
  | depth + 1, words =>
    let sections := words.splitOnP List.isEmpty
    let occupied := sections.filter (· ≠ [])
    let weights := occupied.map fun part =>
      let firsts := (part.filterMap List.head?).eraseDups
      let further := firsts.map fun byte =>
        let behind := (part.filter (·.head? = some byte)).map List.tail
        if behind.all List.isEmpty then 0 else treeWeight depth behind
      stateWeight + (if firsts.length = 1 then 0 else firsts.length * transitionWeight) + weightSum further
    let exits := occupied.length + (sections.length - 1)
    weightSum weights + (if exits = 1 then 0 else stateWeight + exits * targetWeight)

/-- The weight of alternatives, by their own weights; texts share what they begin with. -/
def choiceWeight (forward : Bool) (branches : List Node) : List Nat → Nat
  | [weight] => weight
  | weights =>
    match branches.mapM Node.text? with
    | some texts =>
      let words := encode forward texts
      stateWeight + treeWeight ((words.map List.length).foldr max 0 + 1) words
    | none => weightSum (weights.map (· + targetWeight)) + 2 * stateWeight

def Node.weights (forward : Bool) : Node → List Nat
  | .alt a b => a.weights forward ++ b.weights forward
  | .char c => [c.utf8Size * stateWeight]
  | .set s => [CharSet.weight forward s]
  | .group _ body =>
    [choiceWeight forward body.branches (body.weights forward) + if forward then 2 * stateWeight else 0]
  | .cat a b =>
    [choiceWeight forward a.branches (a.weights forward) +
      choiceWeight forward b.branches (b.weights forward)]
  | .loop body min max _ =>
    [repeatWeight (choiceWeight forward body.branches (body.weights forward)) body.advances min max]
  | _ => [stateWeight]

def Node.weight (forward : Bool) (node : Node) : Nat :=
  choiceWeight forward node.branches (node.weights forward)

/-- The states around the pattern itself: those that let a match begin anywhere, and its end. -/
def frameWeight : Nat := 5 * stateWeight + 2 * targetWeight

/-- Whether the automata for both directions stay within the limit. -/
def Node.fits (node : Node) : Bool :=
  frameWeight + node.merged.weight true ≤ sizeLimit && frameWeight + node.merged.weight false ≤ sizeLimit

end Foldmark.Pattern
