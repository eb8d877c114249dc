import Foldmark.Config.Basic
import Foldmark.Rule.Set

/-! What is wrong with a configuration, and what is probably not meant. Problems keep rules from being
used; warnings are about configurations that work. -/
namespace Foldmark

inductive Problem
  | unsupportedVersion (version : String)
  | unusableRule (language : String) (position : Nat) (reason : RuleError)
deriving DecidableEq, Repr

def Problem.message : Problem → String
  | .unsupportedVersion version => s!"Unsupported config version: {version}"
  | .unusableRule language position reason => s!"[{language}] rule #{position}: {reason.message}"

inductive Warning
  | noRules (language : String)
  | ignoredMarker (language : String) (position : Nat) (role : Role) (shape : Shape)
  /-- The opening marker matches every line. -/
  | opensEverywhere (language : String) (position : Nat)
  | noFallback
  | defaultWithoutRules (language : String)
deriving DecidableEq, Repr

def Warning.message : Warning → String
  | .noRules language => s!"[{language}] no rules configured"
  | .ignoredMarker language position role shape =>
    s!"[{language}] rule #{position}: '{role.tag}' is ignored by a {shape.name} rule"
  | .opensEverywhere language position =>
    s!"[{language}] rule #{position}: begin pattern '.*' opens a block on every line"
  | .noFallback => s!"No '{anyLanguage}' rules: languages without their own rules fold nothing"
  | .defaultWithoutRules language => s!"Default language '{language}' has no rules configured"

structure Validation where
  problems : List Problem
  warnings : List Warning
deriving DecidableEq, Repr

namespace Validation

def isClean (v : Validation) : Bool := v.problems.isEmpty && v.warnings.isEmpty

/-- The warnings about one rule: markers that are not read, and an opening marker that matches every
line of a rule that is used. -/
def ofRule (language : String) (position : Nat) (r : Rule) : List Warning :=
  (match r.shape? with
    | some shape => r.ignored.map fun role => .ignoredMarker language position role shape
    | none => []) ++
  (if r.compile.isOk && r.opening.source? = some ".*" then [.opensEverywhere language position]
    else [])

/-- What is to be said about the rules of one language. They are compiled together, as for folding. -/
def ofRules (language : String) (rules : List Rule) : Validation :=
  if rules.isEmpty then ⟨[], [.noRules language]⟩
  else
    ⟨(RuleSet.compile rules).rejected.map fun r => .unusableRule language r.position r.reason,
      (rules.mapIdx (ofRule language)).flatten⟩

/-- What is to be said about a configuration, its languages in the order of their names. -/
def ofConfig (c : Config) : Validation :=
  let languages := c.rules.entries.map fun e => ofRules e.1 e.2
  let version :=
    if c.version = Config.currentVersion then [] else [.unsupportedVersion c.version]
  let fallback :=
    if !c.rules.isEmpty && !c.rules.contains anyLanguage then [.noFallback] else []
  let language := c.settings.defaultLanguage
  let default :=
    if language ≠ anyLanguage && !c.rules.contains language then [.defaultWithoutRules language]
    else []
  ⟨version ++ languages.flatMap (·.problems), languages.flatMap (·.warnings) ++ fallback ++ default⟩

end Validation

end Foldmark
