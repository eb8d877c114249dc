import Foldmark.Config.Basic
import Foldmark.Text.CharClass
import Foldmark.Value.Settle

/-! Rules from the settings of an editor. They stand under one key, either as a list or by language, and
under the same key in sections for one language; a bare list of rules is read as well. What is no
usable rule is left out. -/
namespace Foldmark

namespace Settings

def rulesKey : String := "explicitFolding.rules"

end Settings

inductive ImportError
  | unreadable
  | malformed (d : Dialect)
  | notSettings
  | noRules
deriving DecidableEq, Repr

namespace Import

/-- Whether a key is a language in brackets; the length is that of its UTF-8 form. -/
def isSection (key : String) : Bool := 2 < key.utf8ByteSize && key.startsWith "[" && key.endsWith "]"

/-- The language that a key means: without blanks around it, and without brackets. -/
def language (key : String) : String :=
  let key := trim key
  if isSection key then trim (String.ofList ((key.toList.drop 1).dropLast)) else key

def usable? (record : Value) : Option Rule := do
  let r ← Rule.ofValue? .json record
  if r.shape?.isSome then some r else none

def rules : Value → List Rule
  | .list records => records.filterMap usable?
  | .table fields => (usable? (.table fields)).toList
  | _ => []

def add (found : RuleMap) (key : String) (added : List Rule) : RuleMap :=
  found.alter (language key) fun present => present.getD [] ++ added

def entry? : Value → Option Value
  | .table fields => fields.lookup Settings.rulesKey
  | _ => none

/-- The rules of a settings entry, by language or for one language. -/
def ofEntry (asked : Option String) : Value → RuleMap
  | .table languages => languages.foldl (fun found e => add found e.1 (rules e.2)) .empty
  | list => add .empty (asked.getD anyLanguage) (rules list)

def addSections (found : RuleMap) (settings : List (String × Value)) : RuleMap :=
  settings.foldl (fun found e =>
    match entry? e.2 with
    | some list => if isSection e.1 then add found e.1 (rules list) else found
    | none => found) found

def ofSettled (asked : Option String) : Value → Except ImportError RuleMap
  | .list records => finish (add .empty (asked.getD anyLanguage) (rules (.list records)))
  | .table settings =>
    let found :=
      match entry? (.table settings) with
      | some entry => ofEntry asked entry
      | none => .empty
    finish (addSections found settings)
  | _ => .error .notSettings
where
  /-- Leaves out languages without rules; some rule must remain. -/
  finish (found : RuleMap) : Except ImportError RuleMap :=
    let found := found.filter fun _ rules => !rules.isEmpty
    if found.isEmpty then .error .noRules else .ok found

/-- The rules of settings, by language. The language that is asked for holds where none is named. -/
def ofValue (asked : Option String) (v : Value) : Except ImportError RuleMap :=
  ofSettled asked v.settle

end Import

namespace ImportError

def chain : ImportError → List String
  | .unreadable => ["Failed to read import file", "<io>"]
  | .malformed d => [s!"Failed to parse {d.label} import file", d.fault]
  | .notSettings => ["Expected a settings object or a list of rules"]
  | .noRules => ["No folding rules found in import file"]

end ImportError

end Foldmark
