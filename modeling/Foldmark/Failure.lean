import Foldmark.Format.Basic
import Foldmark.Rule.Error

/-! Why a command fails. -/
namespace Foldmark

inductive Failure
  | unreadableConfig
  | invalidConfig (path : String) (d : Dialect)
  | unwritableConfig
  /-- A rule that cannot be used is not added. -/
  | refusedRule (language : String) (reason : RuleError)
  | noRules (language : String)
  | noSuchRule (language : String) (index count : Nat)
  | importFailed (file : String) (reason : ImportError)
  | importInto (file : String) (reason : Failure)
  | unwritableExport
  | unreadableFile (file : String)
  | unwritableReport
  | validationFailed
deriving Repr

namespace Failure

/-- What stands in a message for a fault of the file system, which has no fixed wording. -/
def fileFault : String := "<io>"

def chain : Failure → List String
  | .unreadableConfig => ["Failed to read config file", fileFault]
  | .invalidConfig path d => s!"Invalid config file {path}" :: Config.parseFault d
  | .unwritableConfig => ["Failed to write config file", fileFault]
  | .refusedRule language reason =>
    [s!"Refusing marker rule for '{language}'", reason.message]
  | .noRules language => [s!"No rules configured for '{language}'"]
  | .noSuchRule language index count =>
    [s!"Rule index {index} out of range, '{language}' has {count} rule(s)"]
  | .importFailed file reason => s!"Failed to import rules from {file}" :: reason.chain
  | .importInto file reason => s!"Failed to import rules from {file}" :: reason.chain
  | .unwritableExport => ["Failed to write export file", fileFault]
  | .unreadableFile file => [s!"Failed to read {file}", fileFault]
  | .unwritableReport => [s!"Failed to serialize to {Dialect.toml.label}", Dialect.toml.fault]
  | .validationFailed => ["Configuration validation failed."]

def message (f : Failure) : String := ": ".intercalate f.chain

end Failure

end Foldmark
