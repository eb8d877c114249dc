import Foldmark.KeyMap
import Foldmark.Rule.Record

/-! Configurations: the rules of every language, and settings for the program's output. -/
namespace Foldmark

inductive OutputFormat
  | text | json | yaml | toml
deriving DecidableEq, Repr

namespace OutputFormat

def name : OutputFormat → String
  | .text => "text"
  | .json => "json"
  | .yaml => "yaml"
  | .toml => "toml"

def ofName? : String → Option OutputFormat
  | "text" => some .text
  | "json" => some .json
  | "yaml" => some .yaml
  | "toml" => some .toml
  | _ => none

theorem ofName?_name (f : OutputFormat) : ofName? f.name = some f := by cases f <;> rfl

end OutputFormat

/-- The language whose rules hold for every language that has none of its own. -/
def anyLanguage : String := "*"

structure Settings where
  defaultLanguage : String := anyLanguage
  outputFormat : OutputFormat := .text
  verbose : Bool := false
deriving DecidableEq, Repr

abbrev RuleMap := KeyMap (List Rule)

structure Config where
  version : String
  rules : RuleMap
  settings : Settings

namespace Config

def currentVersion : String := "1.0"

def initial : Config :=
  { version := currentVersion
    rules := KeyMap.empty.insert anyLanguage
      [.ofTexts "\x7b\x7b\x7b" "\x7d\x7d\x7d", .ofPatterns "#region\\b" "#endregion\\b"]
    settings := {} }

/-- The rules of a language, or those of every language where it has none. -/
def rulesFor (c : Config) (language : String) : List Rule :=
  match c.rules.get? language with
  | some (r :: rest) => r :: rest
  | _ => (c.rules.get? anyLanguage).getD []

def addRules (c : Config) (language : String) (rules : List Rule) : Config :=
  { c with rules := c.rules.alter language fun present => present.getD [] ++ rules }

def merge (c : Config) (incoming : RuleMap) : Config :=
  incoming.entries.foldl (fun c e => c.addRules e.1 e.2) c

def ruleCount (rules : RuleMap) : Nat := rules.entries.foldl (fun n e => n + e.2.length) 0

def settingsValue (s : Settings) : Value :=
  .table [("default_language", .str s.defaultLanguage), ("output_format", .str s.outputFormat.name),
    ("verbose", .bool s.verbose)]

def rulesValue (rules : RuleMap) : Value :=
  .table (rules.entries.map fun e => (e.1, .list (e.2.map Rule.toValue)))

def toValue (c : Config) : Value :=
  .table [("version", .str c.version), ("rules", rulesValue c.rules),
    ("global_settings", settingsValue c.settings)]

def settingsOfValue? (d : Dialect) (v : Value) : Option Settings := do
  let fields ← v.record? d ["default_language", "output_format", "verbose"]
  let initial : Settings := {}
  return {
    defaultLanguage := ←
      match fields.lookup "default_language" with
      | some v => v.text? d
      | none => some initial.defaultLanguage
    outputFormat := ←
      match fields.lookup "output_format" with
      | some v => (v.choice? d).bind OutputFormat.ofName?
      | none => some initial.outputFormat
    verbose := ←
      match fields.lookup "verbose" with
      | some v => v.bool?
      | none => some initial.verbose }

def rulesOfValue? (d : Dialect) (v : Value) : Option RuleMap := do
  let entries ← (← v.fields? d).mapM fun (language, list) => do
    return (language, ← (← list.items? d).mapM (Rule.ofValue? d))
  return KeyMap.ofList entries

def ofValue? (d : Dialect) (v : Value) : Option Config := do
  let fields ← v.record? d ["version", "rules", "global_settings"]
  return {
    version := ← (← fields.lookup "version").text? d
    rules := ←
      match fields.lookup "rules" with
      | some v => rulesOfValue? d v
      | none => some KeyMap.empty
    settings := ←
      match fields.lookup "global_settings" with
      | some v => settingsOfValue? d v
      | none => some {} }

end Config

end Foldmark
