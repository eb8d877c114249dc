import Foldmark.Pattern.Escape

/-! Bracketed classes: members, ranges, nested classes, named ASCII classes and the set operators. The
reader keeps the classes that are open, innermost first, and each step consumes a part of the
source. -/
namespace Foldmark.Pattern

/-- A class whose closing bracket has not been read: what stands before its last operator, and the
members since then, newest first. -/
structure OpenClass where
  negated : Bool
  pending : Option (SetOp × SetExpr)
  members : List SetExpr

namespace OpenClass

def body (c : OpenClass) : SetExpr :=
  let right := SetExpr.ofItems c.members.reverse
  match c.pending with
  | none => right
  | some (op, left) => .binary op left right

def add (c : OpenClass) (member : SetExpr) : OpenClass := { c with members := member :: c.members }

def operator (c : OpenClass) (op : SetOp) : OpenClass :=
  { c with pending := some (op, c.body), members := [] }

end OpenClass

/-- Takes hyphens that stand at the start of a class and mean themselves. -/
def leadingHyphens (verbose : Bool) (s : List Char) : List SetExpr × List Char :=
  match s with
  | '-' :: rest =>
    let (more, rest) := leadingHyphens verbose (skip verbose rest)
    (.range ⟨'-', false⟩ ⟨'-', false⟩ :: more, rest)
  | _ => ([], s)
termination_by s.length
decreasing_by
  have := skip_length_le verbose rest
  simp only [List.length_cons]; omega

/-- Reads what means itself only at the start of a class: hyphens, or a closing bracket. -/
def readFirst (verbose negated : Bool) (s : List Char) : OpenClass × List Char :=
  match leadingHyphens verbose s with
  | ([], ']' :: rest) =>
    (⟨negated, none, [.range ⟨']', false⟩ ⟨']', false⟩]⟩, skip verbose rest)
  | (hyphens, rest) => (⟨negated, none, hyphens⟩, rest)

/-- Reads what follows an opening bracket: a caret, then hyphens, or a closing bracket that means
itself. -/
def readOpen (verbose : Bool) (s : List Char) : OpenClass × List Char :=
  match skip verbose s with
  | '^' :: rest => readFirst verbose true (skip verbose rest)
  | s => readFirst verbose false s

def readClassName? (negated : Bool) (s : List Char) : Option (SetExpr × List Char) :=
  match s.dropWhile (· ≠ ':') with
  | ':' :: ']' :: after =>
    (CharSet.ascii? (String.ofList (s.takeWhile (· ≠ ':')))).map fun set =>
      (.ascii set negated, after)
  | _ => none

/-- The named ASCII class that follows an opening bracket, if one does. -/
def readAsciiClass? : List Char → Option (SetExpr × List Char)
  | ':' :: '^' :: rest => readClassName? true rest
  | ':' :: rest => readClassName? false rest
  | _ => none

def readMemberAst (verbose : Bool) (s : List Char) : Result (Ast × List Char) :=
  match s with
  | [] => malformed
  | '\\' :: rest => readEscape verbose rest
  | c :: rest => .ok (.literal ⟨c, false⟩, rest)

def memberOf : Ast → Result SetExpr
  | .literal lit => .ok (.range lit lit)
  | .named kind negated => .ok (.named kind negated)
  | .property query negated => .ok (.property query negated)
  | _ => malformed

/-- The first character after a hyphen, past blanks and one comment sign where those are skipped. -/
def charAfterHyphen (verbose : Bool) (s : List Char) : Option Char :=
  if verbose then
    match s.dropWhile isBlank with
    | '#' :: rest => (rest.dropWhile isBlank).head?
    | rest => rest.head?
  else s.head?

def readMember (verbose : Bool) (s : List Char) : Result (SetExpr × List Char) := do
  let (first, rest) ← readMemberAst verbose s
  match skip verbose rest with
  | [] => malformed
  | '-' :: after =>
    let next := charAfterHyphen verbose after
    if next = some ']' || next = some '-' then
      return (← memberOf first, '-' :: after)
    else
      let (last, rest) ← readMemberAst verbose (skip verbose after)
      match first, last with
      | .literal a, .literal b =>
        if a.char ≤ b.char then return (.range a b, rest) else malformed
      | _, _ => malformed
  | rest => return (← memberOf first, rest)

/-- Reads up to the bracket that closes the outermost class: whether that class is negated, and its
body. -/
def readClass (verbose : Bool) (top : OpenClass) (outer : List OpenClass) (s : List Char) :
    Result ((Bool × SetExpr) × List Char) :=
  let next (top : OpenClass) (outer : List OpenClass) (rest : List Char) :=
    if rest.length < s.length then readClass verbose top outer rest else malformed
  match skip verbose s with
  | [] => malformed
  | '[' :: rest =>
    match readAsciiClass? rest with
    | some (member, rest) => next (top.add member) outer rest
    | none =>
      let (inner, rest) := readOpen verbose rest
      next inner (top :: outer) rest
  | ']' :: rest =>
    match outer with
    | [] => .ok ((top.negated, top.body), rest)
    | parent :: outer => next (parent.add (.bracket top.negated top.body)) outer rest
  | '&' :: '&' :: rest => next (top.operator .inter) outer rest
  | '-' :: '-' :: rest => next (top.operator .diff) outer rest
  | '~' :: '~' :: rest => next (top.operator .symmDiff) outer rest
  | chars =>
    match readMember verbose chars with
    | .ok (member, rest) => next (top.add member) outer rest
    | .error e => .error e
termination_by s.length

/-- Reads a bracketed class whose opening bracket has been taken. -/
def readBracket (verbose : Bool) (s : List Char) : Result (Ast × List Char) := do
  let (top, rest) := readOpen verbose s
  let ((negated, body), rest) ← readClass verbose top [] rest
  return (.bracket negated body, rest)

end Foldmark.Pattern
