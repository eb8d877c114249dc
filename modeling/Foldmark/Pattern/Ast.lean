import Foldmark.Text.CharSet

/-! The syntax of patterns as trees. A tree keeps what the source says and settles nothing that
depends on flags; sequences and alternatives have any number of members. -/
namespace Foldmark.Pattern

inductive Flag
  | ignoreCase | multiLine | dotAll | swapGreed | unicode | crlf | verbose
deriving DecidableEq, Repr

structure FlagChange where
  flag : Flag
  on : Bool
deriving DecidableEq, Repr

/-- What a list of changes makes of one flag, if it mentions it. -/
def FlagChange.state? (changes : List FlagChange) (flag : Flag) : Option Bool :=
  (changes.find? (·.flag = flag)).map (·.on)

inductive Anchor
  | lineStart | lineEnd | textStart | textEnd
  | wordBoundary | notWordBoundary | wordStart | wordEnd | wordStartHalf | wordEndHalf
deriving DecidableEq, Repr

/-- A character of the source; `byte` tells a two-digit hexadecimal escape from all other forms. -/
structure Literal where
  char : Char
  byte : Bool
deriving DecidableEq, Repr

inductive NamedClass
  | digit | blank | word
deriving DecidableEq, Repr

inductive PropertyQuery
  | named (name : String)
  | valued (name value : String)
deriving DecidableEq, Repr

inductive SetOp
  | inter | diff | symmDiff
deriving DecidableEq, Repr

/-- What stands between brackets. -/
inductive SetExpr
  | nothing
  | range (first last : Literal)
  | named (kind : NamedClass) (negated : Bool)
  | ascii (set : CharSet) (negated : Bool)
  | property (query : PropertyQuery) (negated : Bool)
  | bracket (negated : Bool) (body : SetExpr)
  | union (items : List SetExpr)
  | binary (op : SetOp) (left right : SetExpr)

inductive GroupKind
  | capture (name : Option String)
  | plain (changes : List FlagChange)
deriving DecidableEq, Repr

inductive Ast
  | empty
  | flags (changes : List FlagChange)
  | literal (lit : Literal)
  | dot
  | anchor (kind : Anchor)
  | named (kind : NamedClass) (negated : Bool)
  | property (query : PropertyQuery) (negated : Bool)
  | bracket (negated : Bool) (body : SetExpr)
  | repetition (body : Ast) (min : Nat) (max : Option Nat) (greedy : Bool)
  | group (kind : GroupKind) (body : Ast)
  | concat (items : List Ast)
  | alternation (branches : List Ast)

/-- A sequence, which is no node of its own when it has fewer than two members. -/
def Ast.ofItems : List Ast → Ast
  | [] => .empty
  | [item] => item
  | items => .concat items

/-- Alternatives, which are no node of their own when there is only one. -/
def Ast.ofBranches : List Ast → Ast
  | [] => .empty
  | [branch] => branch
  | branches => .alternation branches

/-- The members of a bracketed class, which are no node of their own when there are fewer than two. -/
def SetExpr.ofItems : List SetExpr → SetExpr
  | [] => .nothing
  | [item] => item
  | items => .union items

def SetExpr.depth : SetExpr → Nat
  | .bracket _ body => body.depth + 1
  | .union items => depthAll items + 1
  | .binary _ left right => max left.depth right.depth + 1
  | _ => 0
where
  depthAll : List SetExpr → Nat
    | [] => 0
    | item :: rest => max item.depth (depthAll rest)

/-- How deep a pattern nests: repetitions, groups, classes, sequences and alternatives count. -/
def Ast.depth : Ast → Nat
  | .bracket _ body => body.depth + 1
  | .repetition body _ _ _ => body.depth + 1
  | .group _ body => body.depth + 1
  | .concat items => depthAll items + 1
  | .alternation branches => depthAll branches + 1
  | _ => 0
where
  depthAll : List Ast → Nat
    | [] => 0
    | item :: rest => max item.depth (depthAll rest)

/-- The names of the groups, in the order of their opening parentheses. -/
def Ast.groupNames : Ast → List String
  | .repetition body _ _ _ => body.groupNames
  | .group (.capture (some name)) body => name :: body.groupNames
  | .group _ body => body.groupNames
  | .concat items => namesAll items
  | .alternation branches => namesAll branches
  | _ => []
where
  namesAll : List Ast → List String
    | [] => []
    | item :: rest => item.groupNames ++ namesAll rest

end Foldmark.Pattern
