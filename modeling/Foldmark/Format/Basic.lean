import Foldmark.Config.Import
import Foldmark.Format.Json
import Foldmark.Format.Toml.Document
import Foldmark.Format.Toml.Printer
import Foldmark.Format.Yaml.Node
import Foldmark.Format.Yaml.Printer
import Foldmark.Language
import Foldmark.Report

/-! Configurations, reports and imported settings as texts in the data formats. -/
namespace Foldmark

namespace Dialect

def read? : Dialect → String → Option Value
  | .json => Json.read?
  | .yaml => Yaml.read?
  | .toml => Toml.read?

def write : Dialect → Value → String
  | .json => Json.write
  | .yaml => Yaml.write
  | .toml => Toml.write

end Dialect

def OutputFormat.dialect : OutputFormat → Dialect
  | .text => .toml
  | .json => .json
  | .yaml => .yaml
  | .toml => .toml

namespace Config

/-- The format that a configuration is read in. Whatever is not called JSON or YAML is TOML. -/
def readFormat (path : String) : Dialect :=
  match Path.lowerExtension? path with
  | some "json" => .json
  | some "yaml" | some "yml" => .yaml
  | _ => .toml

def parse? (text path : String) : Option Config := do
  Config.ofValue? (readFormat path) (← (readFormat path).read? text)

/-- The causes in a message about a configuration that cannot be read. -/
def parseFault (d : Dialect) : List String := [s!"Failed to parse {d.label} config", d.fault]

def render (c : Config) (d : Dialect) : String := d.write c.toValue

end Config

def Report.render? (r : Report) (format : OutputFormat) : Option String :=
  let fits := r.ranges.all fun range => range.start ≤ Toml.largestInt && range.stop ≤ Toml.largestInt
  match format with
  | .text | .json => some (Json.write r.toValue)
  | .yaml => some (Yaml.write r.toValue)
  | .toml => if fits then some (Toml.write r.toValue) else none

namespace Import

def nestLimit : Dialect → Nat
  | .yaml => 128
  | _ => 127

/-- The format of a settings file. Only the two extensions of YAML in lower-case letters tell it from
JSON. -/
def formatFor (path : String) : Dialect :=
  match Path.extension? path with
  | some "yaml" | some "yml" => .yaml
  | _ => .json

def parse (text path : String) (asked : Option String) : Except ImportError RuleMap :=
  let format := formatFor path
  match format.read? text with
  | some v =>
    if v.depth ≤ nestLimit format && v.isPlainData then ofValue asked v
    else .error (.malformed format)
  | none => .error (.malformed format)

end Import

end Foldmark
