import Foldmark.Pattern.Ast
import Foldmark.Pattern.Escape
import Foldmark.Pattern.Node
import Foldmark.Text.Age
import Foldmark.Text.Segment

/-! What a tree means: flags are carried from left to right through a group and its alternatives,
and end with the group. -/
namespace Foldmark.Pattern

structure Flags where
  ignoreCase : Bool := false
  multiLine : Bool := false
  dotAll : Bool := false
  swapGreed : Bool := false
  unicode : Bool := true
  crlf : Bool := false
deriving DecidableEq, Repr

namespace Flags

def change (f : Flags) (c : FlagChange) : Flags :=
  match c.flag with
  | .ignoreCase => { f with ignoreCase := c.on }
  | .multiLine => { f with multiLine := c.on }
  | .dotAll => { f with dotAll := c.on }
  | .swapGreed => { f with swapGreed := c.on }
  | .unicode => { f with unicode := c.on }
  | .crlf => { f with crlf := c.on }
  | .verbose => f

def changeAll (f : Flags) (changes : List FlagChange) : Flags := changes.foldl change f

def fold (f : Flags) (s : CharSet) : CharSet :=
  if f.ignoreCase then if f.unicode then CaseFold.close s else CaseFold.closeAscii s else s

/-- The members of a set in their other case, or with `negated` all that is not among them. -/
def foldNegate (f : Flags) (negated : Bool) (s : CharSet) : CharSet :=
  let s := f.fold s
  if !negated then s else if f.unicode then s.complement else s.complementByte

end Flags

/-- The characters with a property. A bare name is a property that a character has or has not, a
category or a script, in this order; three short names are categories only. -/
def PropertyQuery.chars? : PropertyQuery → Option CharSet
  | .named name =>
    let loose := looseName name
    let property :=
      if loose = "cf" || loose = "sc" || loose = "lc" then none else Property.named? name
    property.or ((Category.named? name).or (Script.named? name))
  | .valued name value =>
    match looseName name with
    | "gc" | "generalcategory" => Category.named? value
    | "sc" | "script" => Script.named? value
    | "scx" | "scriptextensions" => Script.extended? value
    | "age" => Age.upTo? value
    | "gcb" | "graphemeclusterbreak" => Segment.cluster? value
    | "sb" | "sentencebreak" => Segment.sentence? value
    | "wb" | "wordbreak" => Segment.word? value
    | _ => none

def propertySet (f : Flags) (query : PropertyQuery) (negated : Bool) : Result CharSet :=
  match f.unicode, query.chars? with
  | true, some s => .ok (f.foldNegate negated s)
  | _, _ => .error .unknownClass

def namedSet (f : Flags) (kind : NamedClass) (negated : Bool) : Result CharSet :=
  if f.unicode then
    let s :=
      match kind with
      | .digit => CharSet.digit
      | .blank => CharSet.blank
      | .word => CharSet.word
    .ok (if negated then s.complement else s)
  else
    let s :=
      match kind with
      | .digit => CharSet.asciiDigit
      | .blank => CharSet.asciiBlank
      | .word => CharSet.asciiWord
    if negated then .error .partialCharacter else .ok s

/-- The code of a character in a class, which must fit a byte without Unicode. -/
def memberCode (f : Flags) (lit : Literal) : Result Nat :=
  if f.unicode || lit.byte || lit.char.toNat < 128 then .ok lit.char.toNat
  else .error .unknownClass

def setOf (f : Flags) : SetExpr → Result CharSet
  | .nothing => .ok .empty
  | .range first last => do return CharSet.ofRange (← memberCode f first) (← memberCode f last)
  | .named kind negated => namedSet f kind negated
  | .ascii set negated => .ok (f.foldNegate negated set)
  | .property query negated => propertySet f query negated
  | .bracket negated body => do return f.foldNegate negated (← setOf f body)
  | .union items => setOfAll f items
  | .binary op left right => do
    let left := f.fold (← setOf f left)
    let right := f.fold (← setOf f right)
    match op with
    | .inter => return left.inter right
    | .diff => return left.diff right
    | .symmDiff => return left.symmDiff right
where
  setOfAll (f : Flags) : List SetExpr → Result CharSet
    | [] => .ok .empty
    | item :: rest => do return (← setOf f item).union (← setOfAll f rest)

/-- A single character, with its other case where case is ignored. -/
def literalNode (f : Flags) (lit : Literal) : Result Node :=
  if !f.unicode && lit.byte && 128 ≤ lit.char.toNat then .error .partialCharacter
  else
    let single := CharSet.singleton lit.char
    let s := f.fold single
    .ok (if s = single then .char lit.char else .set s)

def dotNode (f : Flags) : Result Node :=
  if !f.unicode then .error .partialCharacter
  else if f.dotAll then .ok (.set .all)
  else if f.crlf then .ok (.set (CharSet.ofString "\n\r").complement)
  else .ok (.set (CharSet.ofString "\n").complement)

def anchorLook (f : Flags) : Anchor → Look
  | .lineStart => if !f.multiLine then .textStart else if f.crlf then .crlfStart else .lineStart
  | .lineEnd => if !f.multiLine then .textEnd else if f.crlf then .crlfEnd else .lineEnd
  | .textStart => .textStart
  | .textEnd => .textEnd
  | .wordBoundary => .word (!f.unicode) .boundary
  | .notWordBoundary => .word (!f.unicode) .inside
  | .wordStart => .word (!f.unicode) .start
  | .wordEnd => .word (!f.unicode) .stop
  | .wordStartHalf => .word (!f.unicode) .startHalf
  | .wordEndHalf => .word (!f.unicode) .stopHalf

/-- A set, which may hold no part of a character that is longer than a byte. -/
def wholeSet (f : Flags) (s : CharSet) : Result Node :=
  if f.unicode || s.isAscii then .ok (.set s) else .error .partialCharacter

def nodeOf (f : Flags) : Ast → Result (Node × Flags)
  | .empty => .ok (.empty, f)
  | .flags changes => .ok (.empty, f.changeAll changes)
  | .literal lit => do return (← literalNode f lit, f)
  | .dot => do return (← dotNode f, f)
  | .anchor kind => .ok (.look (anchorLook f kind), f)
  | .named kind negated => do return (.set (← namedSet f kind negated), f)
  | .property query negated => do return (.set (← propertySet f query negated), f)
  | .bracket negated body => do
    return (← wholeSet f (f.foldNegate negated (← setOf f body)), f)
  | .repetition body min max greedy => do
    let (node, _) ← nodeOf f body
    return (node.repeated min max (greedy != f.swapGreed), f)
  | .group (.capture name) body => do
    let (node, _) ← nodeOf f body
    return (.group name node, f)
  | .group (.plain changes) body => do
    let (node, _) ← nodeOf (f.changeAll changes) body
    return (node, f)
  | .concat items => sequence f items
  | .alternation branches => alternatives f branches
where
  sequence (f : Flags) : List Ast → Result (Node × Flags)
    | [] => .ok (.empty, f)
    | [item] => nodeOf f item
    | item :: rest => do
      let (first, f) ← nodeOf f item
      let (second, f) ← sequence f rest
      return (.cat first second, f)
  alternatives (f : Flags) : List Ast → Result (Node × Flags)
    | [] => .ok (.empty, f)
    | [branch] => nodeOf f branch
    | branch :: rest => do
      let (first, f) ← nodeOf f branch
      let (second, f) ← alternatives f rest
      return (.alt first second, f)

end Foldmark.Pattern
