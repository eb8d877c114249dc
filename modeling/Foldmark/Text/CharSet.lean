/-! Sets of characters, kept as ascending lists of code-point ranges. Every operation goes through
`ofRanges`, which sorts and joins, so membership may stop at the first range that lies beyond. -/
namespace Foldmark

/-- The code points from `lo` to `hi`, both included. -/
structure CodeRange where
  lo : Nat
  hi : Nat
deriving Repr, DecidableEq

structure CharSet where
  ranges : List CodeRange
deriving Repr, DecidableEq

namespace CharSet

def top : Nat := 0x10FFFF

def surrogates : CodeRange := ⟨0xD800, 0xDFFF⟩

def within (code : Nat) : List CodeRange → Bool
  | [] => false
  | r :: rest => r.lo ≤ code && (code ≤ r.hi || within code rest)

def contains (s : CharSet) (c : Char) : Bool := within c.toNat s.ranges

/-- Joins a range to the ascending ranges after it, as long as they touch. -/
def join (r : CodeRange) : List CodeRange → List CodeRange
  | [] => [r]
  | next :: rest =>
    if next.lo ≤ r.hi + 1 then join ⟨r.lo, max r.hi next.hi⟩ rest else r :: join next rest

/-- The set of all code points in some ranges, which may come in any order and overlap. -/
def ofRanges (ranges : List CodeRange) : CharSet :=
  match (ranges.filter fun r => r.lo ≤ r.hi).mergeSort fun a b => a.lo ≤ b.lo with
  | [] => ⟨[]⟩
  | r :: rest => ⟨join r rest⟩

def empty : CharSet := ⟨[]⟩

def ofRange (lo hi : Nat) : CharSet := ofRanges [⟨lo, hi⟩]

def singleton (c : Char) : CharSet := ⟨[⟨c.toNat, c.toNat⟩]⟩

def isEmpty (s : CharSet) : Bool := s.ranges.isEmpty

def union (s t : CharSet) : CharSet := ofRanges (s.ranges ++ t.ranges)

/-- The ranges between `start` and `last` that ascending ranges leave out. -/
def gaps (start last : Nat) : List CodeRange → List CodeRange
  | [] => if start ≤ last then [⟨start, last⟩] else []
  | r :: rest =>
    if start < r.lo then ⟨start, r.lo - 1⟩ :: gaps (r.hi + 1) last rest
    else gaps (r.hi + 1) last rest

def complement (s : CharSet) : CharSet :=
  ⟨gaps 0 top (ofRanges (surrogates :: s.ranges)).ranges⟩

def complementByte (s : CharSet) : CharSet := ⟨gaps 0 0xFF s.ranges⟩

def inter (s t : CharSet) : CharSet := complement (union (complement s) (complement t))

def diff (s t : CharSet) : CharSet := inter s (complement t)

def symmDiff (s t : CharSet) : CharSet := union (diff s t) (diff t s)

def all : CharSet := complement empty

def isAscii (s : CharSet) : Bool := s.ranges.all (·.hi ≤ 0x7F)

def ofString (text : String) : CharSet := ofRanges (text.toList.map fun c => ⟨c.toNat, c.toNat⟩)

/-- Reads alternating run lengths, of code points outside and inside a set. -/
def ofRuns (runs : List Nat) : CharSet :=
  let rec walk (start : Nat) : List Nat → List CodeRange
    | out :: inside :: rest =>
      ⟨start + out, start + out + inside - 1⟩ :: walk (start + out + inside) rest
    | _ => []
  ofRanges (walk 0 runs)

end CharSet

end Foldmark
