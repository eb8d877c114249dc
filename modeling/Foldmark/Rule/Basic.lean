import Foldmark.Pattern.Escape
import Foldmark.Range

/-! Folding rules as they are declared. The markers that a rule has decide its shape, and only the
markers that its shape reads take part in folding. -/
namespace Foldmark

/-- What a marker does in the rule it belongs to. -/
inductive Role
  | opening | middle | closing | continuation | docstring | separator
deriving DecidableEq, Repr

namespace Role

def tag : Role → String
  | .opening => "begin"
  | .middle => "middle"
  | .closing => "end"
  | .continuation => "continuation"
  | .docstring => "docstring"
  | .separator => "separator"

def ofTag? : String → Option Role
  | "begin" => some .opening
  | "middle" => some .middle
  | "end" => some .closing
  | "continuation" => some .continuation
  | "docstring" => some .docstring
  | "separator" => some .separator
  | _ => none

theorem ofTag?_tag (role : Role) : ofTag? role.tag = some role := by cases role <;> rfl

end Role

/-- A marker, given as text that it is or as a pattern that it matches. -/
structure Marker where
  text : Option String := none
  regex : Option String := none
deriving DecidableEq, Repr, Inhabited

/-- The source of the pattern that finds the marker. A pattern wins over a text. -/
def Marker.source? (m : Marker) : Option String := m.regex.or (m.text.map Pattern.quoteText)

structure Rule where
  opening : Marker := {}
  middle : Marker := {}
  closing : Marker := {}
  continuation : Marker := {}
  separator : Marker := {}
  /-- Whether the line with the closing marker is part of the range. -/
  foldLastLine : Bool := true
  /-- Whether other markers may open while a block of this rule is open. -/
  nested : Bool := true
  kind : Kind := .region
deriving DecidableEq, Repr, Inhabited

/-- The ways in which markers delimit ranges. -/
inductive Shape
  /-- One marker opens and closes. -/
  | docstring
  /-- Two markers open and close; a third may divide what is between them. -/
  | paired
  /-- A marker opens, and the block goes on while lines end with a suffix. -/
  | continuation
  /-- A marker divides the document into sections. -/
  | separator
deriving DecidableEq, Repr

def Shape.name : Shape → String
  | .docstring => "docstring"
  | .paired => "paired"
  | .continuation => "continuation"
  | .separator => "separator"

namespace Rule

def ofTexts (opening closing : String) : Rule :=
  { opening := { text := some opening }, closing := { text := some closing } }

def ofPatterns (opening closing : String) : Rule :=
  { opening := { regex := some opening }, closing := { regex := some closing } }

def shape? (r : Rule) : Option Shape :=
  match r.opening.source?, r.closing.source? with
  | some opening, some closing => some (if opening = closing then .docstring else .paired)
  | some _, none =>
    if r.continuation.source?.isSome then some .continuation
    else if r.separator.source?.isSome then some .separator
    else none
  | none, _ => if r.separator.source?.isSome then some .separator else none

/-- The markers that are declared but not read by the rule's shape. A closing marker is not among
them. -/
def ignored (r : Rule) : List Role :=
  let shape := r.shape?
  (if shape ≠ some .paired && r.middle.source?.isSome then [.middle] else []) ++
    (if shape ≠ some .continuation && r.continuation.source?.isSome then [.continuation] else []) ++
    (if shape ≠ some .separator && r.separator.source?.isSome then [.separator] else []) ++
    (if shape = some .separator && r.opening.source?.isSome then [.opening] else [])

def padRight (width : Nat) (text : String) : String :=
  text ++ String.ofList (List.replicate (width - text.length) ' ')

def describe (r : Rule) : String :=
  let field (role : Role) (m : Marker) : List String :=
    match m.source? with
    | some source => [s!"{role.tag}: {source}"]
    | none => []
  " | ".intercalate <|
    [padRight 12 (match r.shape? with
      | some shape => shape.name
      | none => "invalid")] ++
    field .opening r.opening ++ field .middle r.middle ++ field .closing r.closing ++
    field .continuation r.continuation ++ field .separator r.separator ++
    (if r.nested then [] else ["not nested"]) ++
    (if r.foldLastLine then [] else ["last line excluded"]) ++
    (if r.kind = .region then [] else [s!"kind: {r.kind.name}"])

end Rule

end Foldmark
