import Foldmark.Pattern.Bracket

/-! From the source of a pattern to its tree. `Builder` holds the groups that are open; one `step`
reads one element of the source and touches the innermost group only, so what a group holds does not
depend on what surrounds it. -/
namespace Foldmark.Pattern

/-- A group whose closing parenthesis has not been read, without the group inside it: `verbose` is
the flag that holds again after it, `branches` and `items` are what it was read into. -/
structure OpenGroup where
  kind : GroupKind
  verbose : Bool
  branches : List Ast
  items : List Ast

/-- What has been read: the finished alternatives and the current sequence of the innermost group,
newest first, and the groups around it. -/
structure Builder where
  branches : List Ast
  items : List Ast
  outer : List OpenGroup
  verbose : Bool

namespace Builder

def start : Builder := ⟨[], [], [], false⟩

def body (b : Builder) : Ast :=
  Ast.ofBranches ((Ast.ofItems b.items.reverse :: b.branches).reverse)

def add (b : Builder) (item : Ast) : Builder := { b with items := item :: b.items }

def nextBranch (b : Builder) : Builder :=
  { b with branches := Ast.ofItems b.items.reverse :: b.branches, items := [] }

def enter (b : Builder) (kind : GroupKind) : Builder :=
  let verbose :=
    match kind with
    | .plain changes => (FlagChange.state? changes .verbose).getD b.verbose
    | .capture _ => b.verbose
  ⟨[], [], ⟨kind, b.verbose, b.branches, b.items⟩ :: b.outer, verbose⟩

def leave (b : Builder) : Result Builder :=
  match b.outer with
  | [] => malformed
  | g :: outer => .ok ⟨g.branches, .group g.kind b.body :: g.items, outer, g.verbose⟩

def setFlags (b : Builder) (changes : List FlagChange) : Builder :=
  { b with
    items := .flags changes :: b.items
    verbose := (FlagChange.state? changes .verbose).getD b.verbose }

def repeatLast (b : Builder) (min : Nat) (max : Option Nat) (greedy : Bool) : Result Builder :=
  match b.items with
  | [] | .empty :: _ | .flags _ :: _ => malformed
  | item :: rest => .ok { b with items := .repetition item min max greedy :: rest }

end Builder

def flagOf? : Char → Option Flag
  | 'i' => some .ignoreCase
  | 'm' => some .multiLine
  | 's' => some .dotAll
  | 'U' => some .swapGreed
  | 'u' => some .unicode
  | 'R' => some .crlf
  | 'x' => some .verbose
  | _ => none

/-- Reads flags up to the colon or parenthesis that ends them, and tells whether it was a colon. -/
def readFlags (negated dangling : Bool) (changes : List FlagChange) :
    List Char → Result ((List FlagChange × Bool) × List Char)
  | [] => malformed
  | c :: rest =>
    if c = ':' || c = ')' then
      if dangling || (c = ')' && changes.isEmpty) then malformed
      else .ok ((changes.reverse, c = ':'), rest)
    else if c = '-' then
      if negated then malformed else readFlags true true changes rest
    else
      match flagOf? c with
      | none => malformed
      | some flag =>
        if changes.any (·.flag = flag) then malformed
        else readFlags negated false (⟨flag, !negated⟩ :: changes) rest

/-- The characters of a group's name. Letters and digits of ASCII need no look into the tables. -/
def isNameChar (first : Bool) (c : Char) : Bool :=
  if first then c = '_' || c.isAlpha || CharSet.alphabetic.contains c
  else c = '_' || c.isAlphanum || c = '.' || c = '[' || c = ']' || CharSet.alphanumeric.contains c

def readName (first : Bool) : List Char → Result (List Char × List Char)
  | [] => malformed
  | c :: rest =>
    if c = '>' then if first then malformed else .ok ([], rest)
    else if isNameChar first c then do
      let (more, rest) ← readName false rest
      return (c :: more, rest)
    else malformed

inductive Opening
  | flags (changes : List FlagChange)
  | group (kind : GroupKind)

/-- Reads what follows an opening parenthesis. Conditions on what stands around a place are not
part of the language. -/
def readOpening (verbose : Bool) (s : List Char) : Result (Opening × List Char) := do
  let named (rest : List Char) : Result (Opening × List Char) := do
    let (name, rest) ← readName true rest
    return (.group (.capture (some (String.ofList name))), rest)
  match skip verbose s with
  | '?' :: '=' :: _ | '?' :: '!' :: _ | '?' :: '<' :: '=' :: _ | '?' :: '<' :: '!' :: _ => malformed
  | '?' :: 'P' :: '<' :: rest => named rest
  | '?' :: '<' :: rest => named rest
  | '?' :: rest =>
    let ((changes, colon), rest) ← readFlags false false [] rest
    return (if colon then .group (.plain changes) else .flags changes, rest)
  | rest => return (.group (.capture none), rest)

def countLimit : Nat := Nat.pow 2 32 - 1

/-- Takes the decimal digits in front, and the value they continue. -/
def readDecimalDigits (verbose : Bool) (value : Nat) (s : List Char) : Nat × List Char :=
  match s with
  | c :: rest =>
    if c.isDigit then readDecimalDigits verbose (value * 10 + (c.toNat - 48)) (skip verbose rest)
    else (value, s)
  | [] => (value, s)
termination_by s.length
decreasing_by
  have := skip_length_le verbose rest
  simp only [List.length_cons]; omega

def readCount (verbose : Bool) (s : List Char) : Result (Nat × List Char) :=
  let s := s.dropWhile isBlank
  if (s.head?.map Char.isDigit).getD false then
    let (value, rest) := readDecimalDigits verbose 0 s
    if value ≤ countLimit then .ok (value, rest.dropWhile isBlank) else malformed
  else malformed

/-- Tells whether a repetition prefers more, which a question mark after it denies. -/
def readGreedy : List Char → Bool × List Char
  | '?' :: rest => (false, rest)
  | rest => (true, rest)

/-- Reads what follows an opening brace: the bounds of a repetition. -/
def readBounds (verbose : Bool) (s : List Char) :
    Result ((Nat × Option Nat) × List Char) := do
  let (min, rest) ← readCount verbose (skip verbose s)
  match rest with
  | '}' :: rest => return ((min, some min), rest)
  | ',' :: rest =>
    match skip verbose rest with
    | '}' :: rest => return ((min, none), rest)
    | rest =>
      let (max, rest) ← readCount verbose rest
      match rest with
      | '}' :: rest => if min ≤ max then return ((min, some max), rest) else malformed
      | _ => malformed
  | _ => malformed

def step (b : Builder) (c : Char) (rest : List Char) : Result (Builder × List Char) := do
  match c with
  | '(' =>
    let (opening, rest) ← readOpening b.verbose rest
    match opening with
    | .flags changes => return (b.setFlags changes, rest)
    | .group kind => return (b.enter kind, rest)
  | ')' => return (← b.leave, rest)
  | '|' => return (b.nextBranch, rest)
  | '[' =>
    let (item, rest) ← readBracket b.verbose rest
    return (b.add item, rest)
  | '?' =>
    let (greedy, rest) := readGreedy rest
    return (← b.repeatLast 0 (some 1) greedy, rest)
  | '*' =>
    let (greedy, rest) := readGreedy rest
    return (← b.repeatLast 0 none greedy, rest)
  | '+' =>
    let (greedy, rest) := readGreedy rest
    return (← b.repeatLast 1 none greedy, rest)
  | '{' =>
    let ((min, max), rest) ← readBounds b.verbose rest
    let (greedy, rest) := readGreedy (skip b.verbose rest)
    return (← b.repeatLast min max greedy, rest)
  | '\\' =>
    let (item, rest) ← readEscape b.verbose rest
    return (b.add item, rest)
  | '.' => return (b.add .dot, rest)
  | '^' => return (b.add (.anchor .lineStart), rest)
  | '$' => return (b.add (.anchor .lineEnd), rest)
  | c => return (b.add (.literal ⟨c, false⟩), rest)

def run (b : Builder) (s : List Char) : Result Builder :=
  match skip b.verbose s with
  | [] => .ok b
  | c :: rest =>
    match step b c rest with
    | .error e => .error e
    | .ok (b, rest) => if rest.length < s.length then run b rest else malformed
termination_by s.length

def parse (source : List Char) : Result Ast := do
  let b ← run .start source
  if b.outer.isEmpty then return b.body else malformed

end Foldmark.Pattern
