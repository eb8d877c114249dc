import Foldmark.Rule.Error
import Foldmark.Rule.Mirror

/-! Rules with their markers compiled. Every marker must be a pattern and must not match the empty
text, since such a marker would be found everywhere. -/
namespace Foldmark

/-- The compiled markers of a rule, by its shape. -/
inductive Matchers
  | docstring (delimiter : Pattern)
  /-- `unnested` finds middle and closing markers only; a rule has it if it does not nest. -/
  | paired (opening : Pattern) (middle : Option Pattern) (closing : Pattern)
      (unnested : Option Pattern) (mirror : Option Mirror)
  /-- `suffix` matches at the end of a line only. -/
  | continuation (opening suffix : Pattern)
  | separator (separator : Pattern)

structure CompiledRule where
  matchers : Matchers
  nested : Bool
  foldLastLine : Bool
  kind : Kind

structure UnnestedMatch where
  role : Role
  start : Nat
  stop : Nat
deriving DecidableEq, Repr

/-- The names of the groups that tell a middle marker from a closing one. -/
def unnestedMiddle : String := "__fold_middle"

def unnestedClosing : String := "__fold_end"

def nameGroup (name source : String) : String := s!"(?P<{name}>{source})"

namespace Rule

def compileMarker (role : Role) (source : String) : Except RuleError Pattern := do
  match Pattern.compile source with
  | .error reason => throw (.invalidPattern role reason)
  | .ok p => if p.matchesEmpty then throw (.emptyMatch role) else return p

/-- The source of the pattern that finds middle and closing markers. -/
def unnestedSource (middle : Option Pattern) (closing : Pattern) : String :=
  let closing := nameGroup unnestedClosing closing.source
  match middle with
  | some middle => nameGroup unnestedMiddle middle.source ++ "|" ++ closing
  | none => closing

/-- Compiles a closing marker, which may refer to the groups of the opening one. -/
def compileClosing (opening : Pattern) (source : String) :
    Except RuleError (Pattern × Option Mirror) := do
  match Mirror.ofSource? source with
  | none => return (← compileMarker .closing source, none)
  | some mirror =>
    if opening.groupCount < mirror.maxGroup then
      throw (.unresolvedReference mirror.maxGroup opening.groupCount)
    return (← compileMarker .closing mirror.widened, some mirror)

/-- Compiles a middle marker; one that matches the empty text is left out. -/
def compileMiddle : Option String → Except RuleError (Option Pattern)
  | none => return none
  | some source =>
    match compileMarker .middle source with
    | .ok p => return some p
    | .error (.emptyMatch _) => return none
    | .error e => throw e

def compilePaired (r : Rule) (opening closing : String) : Except RuleError Matchers := do
  let opening ← compileMarker .opening opening
  let (closing, mirror) ← compileClosing opening closing
  let middle ← compileMiddle r.middle.source?
  if r.nested then return .paired opening middle closing none mirror
  match Pattern.compile (unnestedSource middle closing) with
  | .ok unnested => return .paired opening middle closing (some unnested) mirror
  | .error reason => throw (.invalidPattern .closing reason)

def compileContinuation (opening suffix : String) : Except RuleError Matchers := do
  let _ ← compileMarker .continuation suffix
  let opening ← compileMarker .opening opening
  return .continuation opening (← compileMarker .continuation s!"(?:{suffix})$")

def compileMatchers (r : Rule) : Except RuleError Matchers := do
  match r.shape?, r.opening.source?, r.closing.source? with
  | some .docstring, some source, _ => return .docstring (← compileMarker .docstring source)
  | some .paired, some opening, some closing => r.compilePaired opening closing
  | some .continuation, some opening, _ =>
    match r.continuation.source? with
    | some suffix => compileContinuation opening suffix
    | none => throw .missingPattern
  | some .separator, _, _ =>
    match r.separator.source? with
    | some source => return .separator (← compileMarker .separator source)
    | none => throw .missingPattern
  | _, _, _ => throw .missingPattern

def compile (r : Rule) : Except RuleError CompiledRule := do
  return ⟨← r.compileMatchers, r.nested, r.foldLastLine, r.kind⟩

end Rule

namespace CompiledRule

def shape (r : CompiledRule) : Shape :=
  match r.matchers with
  | .docstring _ => .docstring
  | .paired _ _ _ _ _ => .paired
  | .continuation _ _ => .continuation
  | .separator _ => .separator

/-- The markers that can be found anywhere, in the order in which they are tried. A rule that does
not nest shows its opening marker only. -/
def alternatives (r : CompiledRule) : List (Role × Pattern) :=
  match r.matchers with
  | .docstring delimiter => [(.docstring, delimiter)]
  | .paired opening middle closing _ _ =>
    (.opening, opening) ::
      if r.nested then (middle.map fun p => (.middle, p)).toList ++ [(.closing, closing)] else []
  | .continuation opening suffix => [(.opening, opening), (.continuation, suffix)]
  | .separator separator => [(.separator, separator)]

def isContinuation (r : CompiledRule) : Bool := r.shape = .continuation

def continues (r : CompiledRule) (line : Line) : Bool :=
  match r.matchers with
  | .continuation _ suffix => suffix.matches? line
  | _ => false

/-- The first middle or closing marker of a rule that does not nest, at or after a place. -/
def findUnnested (r : CompiledRule) (line : Line) (start : Nat) : Option UnnestedMatch :=
  match r.matchers with
  | .paired _ _ _ (some unnested) _ => do
    let found ← unnested.find? line start
    match unnested.namedGroup? found unnestedMiddle with
    | some span => return ⟨.middle, span.start, span.stop⟩
    | none =>
      let span ← unnested.namedGroup? found unnestedClosing
      return ⟨.closing, span.start, span.stop⟩
  | _ => none

end CompiledRule

end Foldmark
