import Foldmark.Rule.Compiled

/-! The markers of many rules as one pattern. Each marker is a group whose name tells its role and its
rule, so one search finds the next marker of any rule and says which it is. -/
namespace Foldmark

/-- The group that a marker of a rule stands in. -/
structure MasterGroup where
  number : Nat
  role : Role
  rule : Nat
deriving DecidableEq, Repr

namespace MasterGroup

def namePrefix : String := "__fold_"

def name (role : Role) (rule : Nat) : String := s!"{namePrefix}{role.tag}_{rule}"

def splitLast : List Char → Option (List Char × List Char)
  | [] => none
  | c :: rest =>
    match splitLast rest with
    | some (before, after) => some (c :: before, after)
    | none => if c = '_' then some ([], rest) else none

/-- Reads a decimal number of any number of digits, below `Range.wordSize`. -/
def readIndex? (digits : List Char) : Option Nat :=
  if digits ≠ [] && digits.all Char.isDigit then
    let value := digits.foldl (fun n c => n * 10 + (c.toNat - 48)) 0
    if value < Range.wordSize then some value else none
  else none

def ofName? (name : String) : Option (Role × Nat) := do
  let start := namePrefix.toList
  if !start.isPrefixOf name.toList then none
  let (tag, digits) ← splitLast (name.toList.drop start.length)
  return (← Role.ofTag? (String.ofList tag), ← readIndex? digits)

end MasterGroup

structure MarkerMatch where
  role : Role
  rule : Nat
  found : Pattern.Found

def MarkerMatch.start (m : MarkerMatch) : Nat := m.found.start

def MarkerMatch.stop (m : MarkerMatch) : Nat := m.found.stop

structure Master where
  pattern : Pattern
  groups : List MasterGroup

namespace Master

def sources (rules : List CompiledRule) : List String :=
  (rules.mapIdx fun index r =>
    r.alternatives.map fun (role, p) => nameGroup (MasterGroup.name role index) p.source).flatten

/-- The groups that carry a marker's name and belong to one of `count` rules. -/
def groupsOf (count : Nat) (names : List (Option String)) : List MasterGroup :=
  (names.mapIdx fun index name? => do
    let (role, rule) ← MasterGroup.ofName? (← name?)
    if rule < count then some ⟨index + 1, role, rule⟩ else none).filterMap id

/-- Combines the markers of rules, each of which is known by its position in the list. -/
def build (rules : List CompiledRule) : Except Pattern.PatternError Master := do
  let pattern ← Pattern.compile ("|".intercalate (sources rules))
  return ⟨pattern, groupsOf rules.length pattern.groupNames⟩

def findAt (m : Master) (line : Line) (start : Nat) : Option MarkerMatch := do
  let found ← m.pattern.find? line start
  let group ← m.groups.find? fun g => (found.group? g.number).isSome
  return ⟨group.role, group.rule, found⟩

def openingNumber? (m : Master) (rule : Nat) : Option Nat :=
  (m.groups.findRev? fun g => g.role = .opening && g.rule = rule).map (·.number)

/-- What the group with a number covers, where the groups of the opening marker are counted from
one. -/
def openingGroup? (m : Master) (found : MarkerMatch) (number : Nat) : Option Pattern.Span := do
  found.found.group? ((← m.openingNumber? found.rule) + number)

end Master

end Foldmark
