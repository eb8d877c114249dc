import Foldmark.Rule.Set

/-! Folding: the markers of a document, in reading order, open and close blocks, and blocks that close
become ranges. `State.onMarker` and `State.onUnnested` say what a marker does; `step` looks for the
next marker from a place on and always moves on; `fold` goes through the lines. -/
namespace Foldmark.Fold

structure Block where
  rule : Nat
  start : Nat
  /-- The only closing marker for the block, where that depends on its opening marker. -/
  expected : Option ExpectedEnd := none
  /-- Whether the block is a section begun by a separator. -/
  isSection : Bool := false
  /-- The last line that was seen to continue the block. -/
  continued : Option Nat := none

/-- Which markers are looked for. -/
inductive Mode
  /-- Those of every rule. -/
  | normal
  /-- The middle and closing markers of one rule that does not nest. -/
  | unnested (rule : Nat)
deriving DecidableEq, Repr

/-- How far folding has come: the open blocks, innermost first, and the ranges, newest first. -/
structure State where
  stack : List Block
  ranges : List Range
  mode : Mode

/-- The rules that take part, and the pattern of their markers. -/
structure Grammar where
  rules : List CompiledRule
  master : Master

namespace Grammar

def kind (g : Grammar) (rule : Nat) : Kind :=
  match g.rules[rule]? with
  | some r => r.kind
  | none => .region

def nests (g : Grammar) (rule : Nat) : Bool :=
  match g.rules[rule]? with
  | some r => r.nested
  | none => true

def foldsLastLine (g : Grammar) (rule : Nat) : Bool :=
  match g.rules[rule]? with
  | some r => r.foldLastLine
  | none => true

def isContinuation (g : Grammar) (rule : Nat) : Bool :=
  match g.rules[rule]? with
  | some r => r.isContinuation
  | none => false

/-- The range of a part of a document that ends before a line, unless it has fewer than two lines. -/
def before (g : Grammar) (rule start line : Nat) : List Range :=
  if start + 1 < line then [⟨start, line - 1, g.kind rule⟩] else []

/-- The range of a block whose closing marker stands on a line. -/
def closed (g : Grammar) (b : Block) (line : Nat) : List Range :=
  if g.foldsLastLine b.rule then
    if b.start < line then [⟨b.start, line, g.kind b.rule⟩] else []
  else g.before b.rule b.start line

end Grammar

namespace State

def start : State := ⟨[], [], .normal⟩

def emit (s : State) (ranges : List Range) : State := { s with ranges := ranges.reverse ++ s.ranges }

def push (s : State) (b : Block) : State := { s with stack := b :: s.stack }

/-- Markers may open a block when nothing is open, or when the innermost block belongs to a rule
that nests. -/
def mayOpen (s : State) (g : Grammar) : Bool :=
  match s.stack with
  | [] => true
  | top :: _ => g.nests top.rule

def closeTop (s : State) (g : Grammar) (line : Nat) : State :=
  match s.stack with
  | [] => s
  | top :: below => { s with stack := below }.emit (g.closed top line)

/-- Divides the innermost block: what is before the line becomes a range, and the block begins anew
on the line. -/
def splitTop (s : State) (g : Grammar) (line : Nat) : State :=
  match s.stack with
  | [] => s
  | top :: below =>
    State.emit { s with stack := { top with start := line } :: below }
      (g.before top.rule top.start line)

/-- The innermost block that is no section, if it belongs to a rule. -/
def owner? (s : State) (rule : Nat) : Option Block :=
  match s.stack.dropWhile (·.isSection) with
  | [] => none
  | b :: _ => if b.rule = rule then some b else none

/-- Ends the sections inside the innermost block that is no section. -/
def endSections (s : State) (g : Grammar) (line : Nat) : State :=
  State.emit { s with stack := s.stack.dropWhile (·.isSection) }
    ((s.stack.takeWhile (·.isSection)).flatMap fun b => g.before b.rule b.start line)

/-- Where a closing marker ends that stands at a place, if it closes a block. A block that expects a
closing marker of its own is closed by no other; only then the answer says where to go on. -/
def accepts (b : Block) (line : Line) (place : Nat) : Option (Option Nat) :=
  match b.expected with
  | none => some none
  | some expected => (expected.matchAt line place).map some

/-- Opens the block of an opening marker. A continuation block opens only on a line that is
continued, and not inside one of its own rule. -/
def openBlock (s : State) (g : Grammar) (line : Nat) (text : Line) (found : MarkerMatch) : State :=
  match g.rules[found.rule]? with
  | none => s
  | some r =>
    match r.matchers with
    | .paired _ _ _ _ mirror =>
      let expected := mirror.map fun m =>
        m.expect fun number => (g.master.openingGroup? found number).map fun span =>
          text.slice span.start span.stop
      let s := s.push { rule := found.rule, start := line, expected }
      if r.nested then s else { s with mode := .unnested found.rule }
    | .continuation _ _ =>
      let chained :=
        match s.stack with
        | [] => false
        | top :: _ => top.rule = found.rule
      if !chained && r.continues text then s.push { rule := found.rule, start := line } else s
    | _ => s

/-- Begins the next section of a separator. The lines before the first section of a block form a
section, too. -/
def separate (s : State) (g : Grammar) (line rule : Nat) : State :=
  let fresh : Block := { rule, start := line, isSection := true }
  match s.stack with
  | [] => (s.emit (g.before rule 0 line)).push fresh
  | top :: _ =>
    if top.rule = rule && top.isSection then s.splitTop g line
    else if g.nests top.rule then (s.emit (g.before rule (top.start + 1) line)).push fresh
    else s

/-- What a marker does when all markers are looked for, and where a closing marker that ran past the
match lets the search go on. -/
def onMarker (s : State) (g : Grammar) (line : Nat) (text : Line) (found : MarkerMatch) :
    State × Option Nat :=
  match found.role with
  | .opening => (if s.mayOpen g then s.openBlock g line text found else s, none)
  | .middle =>
    match s.owner? found.rule with
    | some _ => ((s.endSections g line).splitTop g line, none)
    | none => (s, none)
  | .closing =>
    match s.owner? found.rule with
    | none => (s, none)
    | some b =>
      match accepts b text found.start with
      | none => (s, none)
      | some resume => ((s.endSections g line).closeTop g line, resume)
  | .continuation =>
    match s.stack with
    | [] => (s, none)
    | top :: below =>
      if top.rule = found.rule then
        ({ s with stack := { top with continued := some line } :: below }, none)
      else (s, none)
  | .docstring =>
    match s.owner? found.rule with
    | some _ => ((s.endSections g line).closeTop g line, none)
    | none =>
      (if s.mayOpen g then s.push { rule := found.rule, start := line } else s, none)
  | .separator => (s.separate g line found.rule, none)

/-- What a middle or closing marker does inside a block that does not nest. -/
def onUnnested (s : State) (g : Grammar) (line : Nat) (text : Line) (found : UnnestedMatch) :
    State × Option Nat :=
  match s.stack with
  | [] => ({ s with mode := .normal }, none)
  | top :: _ =>
    match found.role with
    | .middle => ({ s.splitTop g line with mode := .unnested top.rule }, none)
    | _ =>
      match accepts top text found.start with
      | some resume => ({ s.closeTop g line with mode := .normal }, resume)
      | none => ({ s with mode := .unnested top.rule }, none)

/-- What the end of a line does: a continuation block on top closes on the first line that does not
continue it. -/
def endLine (s : State) (g : Grammar) (line : Nat) : State :=
  match s.stack with
  | [] => s
  | top :: below =>
    if !g.isContinuation top.rule then s
    else
      match top.continued with
      | some last => if last = line then s else s.closeTop g line
      | none => if top.start = line then s else { s with stack := below }

/-- What the end of the document does: sections run up to it, and other open blocks are dropped. -/
def finish (s : State) (g : Grammar) (lines : Nat) : List Range :=
  (State.emit { s with stack := [] }
    ((s.stack.filter (·.isSection)).flatMap fun b => g.before b.rule b.start lines)).ranges.reverse

end State

/-- Where to go on after a match: behind it, and at least one character on. -/
def nextPlace (start stop : Nat) : Nat := if start < stop then stop else stop + 1

/-- The next marker from a place on: the state after it, and where to go on. -/
def step (g : Grammar) (line : Nat) (text : Line) (s : State) (place : Nat) :
    Option (State × Nat) :=
  match s.mode with
  | .normal => do
    let found ← g.master.findAt text place
    let (s, resume) := s.onMarker g line text found
    return (s, Nat.max (nextPlace found.start found.stop) (resume.getD 0))
  | .unnested rule => do
    let found ← (← g.rules[rule]?).findUnnested text place
    let (s, resume) := s.onUnnested g line text found
    return (s, Nat.max (nextPlace found.start found.stop) (resume.getD 0))

def steps (g : Grammar) (line : Nat) (text : Line) : Nat → State → Nat → State
  | 0, s, _ => s
  | count + 1, s, place =>
    if place ≤ text.size then
      match step g line text s place with
      | some (s, place) => steps g line text count s place
      | none => s
    else s

/-- Reads one line. Each step moves on by a character at least, so there are no more steps than
places. -/
def readLine (g : Grammar) (line : Nat) (text : Line) (s : State) : State :=
  (steps g line text (text.size + 1) s 0).endLine g line

def readLines (g : Grammar) : Nat → Document → State → State
  | _, [], s => s
  | line, text :: rest, s => readLines g (line + 1) rest (readLine g line text s)

/-- The ranges of a document, in the order in which their blocks close. -/
def run (g : Grammar) (document : Document) : List Range :=
  (readLines g 0 document .start).finish g document.length

end Fold

def RuleSet.fold (set : RuleSet) (document : Document) : List Range :=
  match set.master with
  | none => []
  | some master => Fold.run ⟨set.rules, master⟩ document

end Foldmark
