import Foldmark.Rule.Basic
import Foldmark.Value.Basic

/-! Rules and ranges as values of a data format. -/
namespace Foldmark

/-- The field of a record that a text is kept in, if there is a text. -/
def textField (name : String) : Option String → List (String × Value)
  | some s => [(name, .str s)]
  | none => []

namespace Rule

def fieldNames : List String :=
  ["begin", "middle", "end", "continuation", "separator", "beginRegex", "middleRegex", "endRegex",
    "continuationRegex", "separatorRegex", "foldLastLine", "nested", "kind"]

def toValue (r : Rule) : Value :=
  .table <|
    textField "begin" r.opening.text ++ textField "middle" r.middle.text ++
    textField "end" r.closing.text ++ textField "continuation" r.continuation.text ++
    textField "separator" r.separator.text ++ textField "beginRegex" r.opening.regex ++
    textField "middleRegex" r.middle.regex ++ textField "endRegex" r.closing.regex ++
    textField "continuationRegex" r.continuation.regex ++
    textField "separatorRegex" r.separator.regex ++
    [("foldLastLine", .bool r.foldLastLine), ("nested", .bool r.nested),
      ("kind", .str r.kind.name)]

def ofValue? (d : Dialect) (v : Value) : Option Rule := do
  let fields ← v.record? d fieldNames
  let text (name : String) : Option (Option String) :=
    match fields.lookup name with
    | some v => v.textOrNone? d
    | none => some none
  let switch (name : String) : Option Bool :=
    match fields.lookup name with
    | some v => v.bool?
    | none => some true
  let kind ←
    match fields.lookup "kind" with
    | some v => (v.choice? d).bind Kind.ofName?
    | none => some .region
  return {
    opening := ⟨← text "begin", ← text "beginRegex"⟩
    middle := ⟨← text "middle", ← text "middleRegex"⟩
    closing := ⟨← text "end", ← text "endRegex"⟩
    continuation := ⟨← text "continuation", ← text "continuationRegex"⟩
    separator := ⟨← text "separator", ← text "separatorRegex"⟩
    foldLastLine := ← switch "foldLastLine"
    nested := ← switch "nested"
    kind }

end Rule

namespace Range

def toValue (r : Range) : Value :=
  .table [("start", .int r.start), ("end", .int r.stop), ("kind", .str r.kind.name)]

def number? : Value → Option Nat
  | .int n => if 0 ≤ n && n < wordSize then some n.toNat else none
  | _ => none

def ofValue? (d : Dialect) (v : Value) : Option Range := do
  let fields ← v.record? d ["start", "end", "kind"]
  return {
    start := ← (← fields.lookup "start") |> number?
    stop := ← (← fields.lookup "end") |> number?
    kind := ← Kind.ofName? (← (← fields.lookup "kind").choice? d) }

end Range

end Foldmark
