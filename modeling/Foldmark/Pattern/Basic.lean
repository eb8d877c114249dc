import Foldmark.Pattern.Match
import Foldmark.Pattern.Meaning
import Foldmark.Pattern.Parser
import Foldmark.Pattern.Weight

/-! Compiled patterns. A source is compiled by reading it, settling its flags and checking the limits;
two groups may not have one name. -/
namespace Foldmark

open Pattern (Node PatternError Found)

/-- The deepest nesting that is accepted. -/
def Pattern.nestLimit : Nat := 250

structure Pattern where
  source : String
  node : Pattern.Node

namespace Pattern

def compileChars (source : List Char) : Result Node := do
  let ast ← parse source
  if !ast.groupNames.Nodup then throw .duplicateName
  if nestLimit < ast.depth then throw .tooDeep
  let (node, _) ← nodeOf {} ast
  if node.fits then return node else throw .tooLarge

def compile (source : String) : Except PatternError Pattern :=
  match compileChars source.toList with
  | .ok node => .ok ⟨source, node⟩
  | .error e => .error e

def matches? (p : Pattern) (line : Array Char) : Bool := (p.node.search line 0).isSome

def matchesEmpty (p : Pattern) : Bool := p.matches? #[]

def find? (p : Pattern) (line : Array Char) (start : Nat) : Option Found :=
  p.node.search line start

/-- The names of the groups in order, `none` for groups without a name. Group numbers are one more
than positions in this list. -/
def groupNames (p : Pattern) : List (Option String) := p.node.groups.map Option.join

def namedGroup? (p : Pattern) (found : Found) (name : String) : Option Span := do
  let position ← p.groupNames.idxOf? (some name)
  found.group? (position + 1)

def groupCount (p : Pattern) : Nat := p.node.lastGroup

end Pattern

end Foldmark
