import Foldmark.Config.File
import Foldmark.Config.Validation
import Foldmark.Fold

/-! The commands of the program: what each one does to the files, what it prints, and how it fails. -/
namespace Foldmark

inductive Command
  | init
  | fold (file : String) (language : Option String) (format : Option OutputFormat)
  | validate
  | list
  | add (language : String) (rule : Rule)
  | remove (language : String) (index : Nat)
  | exportTo (file : String) (format : Option OutputFormat)
  | importFrom (file : String) (language : Option String)
deriving DecidableEq, Repr

/-- The files after a command, what it has printed, and why it failed if it did. -/
structure Outcome where
  store : Store
  out : String
  failure : Option Failure

namespace Command

def success (colours : Bool) (text : String) : String :=
  Style.paint .green colours "✓" ++ " " ++ text ++ "\n"

/-- The outcome of an action: the text about its success comes behind what was printed before. -/
def outcome (s : Store) (before : String) (action : Action String) : Outcome :=
  match action.runOn s with
  | (.ok text, left) => ⟨left, before ++ text, none⟩
  | (.error e, left) => ⟨left, before, some e⟩

def listing (colours : Bool) (c : Config) : String :=
  if c.rules.isEmpty then "No folding rules configured.\n"
  else
    String.join (c.rules.entries.map fun (language, rules) =>
      "\n" ++ Style.paint .bold colours "Language:" ++ " " ++ Style.paint .cyan colours language ++
        "\n" ++
        String.join (rules.mapIdx fun index r => s!"  [{index}] {r.describe}\n"))

def verdict (colours : Bool) (v : Validation) : String :=
  String.join (v.warnings.map fun w =>
    "  " ++ Style.paint .yellow colours "warning:" ++ " " ++ w.message ++ "\n") ++
  if v.problems.isEmpty then success colours "Configuration is valid."
  else
    Style.paint .red colours "✗" ++ " Found issues in configuration:\n" ++
      String.join (v.problems.map fun p => s!"  - {p.message}\n")

def folding (colours : Bool) (s : Store) (config : Config) (file : String)
    (language : Option String) (format : Option OutputFormat) : Except Failure String := do
  match s.read? file with
  | none => throw (.unreadableFile file)
  | some text =>
    let document := Document.ofText text
    let language := resolveLanguage language file config.settings
    let ranges := (RuleSet.compile (config.rulesFor language)).fold document
    let report : Report := { file, language, ranges }
    match format.getD config.settings.outputFormat with
    | .text => return report.listing colours config.settings.verbose document
    | format =>
      match report.render? format with
      | some text => return text ++ "\n"
      | none => throw .unwritableReport

def runAt (colours : Bool) (path : String) (s : Store) : Command → Outcome
  | .init =>
    outcome s "" do
      Action.create path
      return success colours s!"Initialized explicit folding rules in {path}" ++
        "Run 'explicit-folding fold <FILE>' to see the folding ranges of a file\n"
  | .fold file language format =>
    outcome s "" do ofExcept (folding colours (← get) (← Action.load path) file language format)
  | .validate =>
    match ConfigFile.load s path with
    | .error e => ⟨s, "", some e⟩
    | .ok c =>
      let v := Validation.ofConfig c
      ⟨s, verdict colours v, if v.problems.isEmpty then none else some .validationFailed⟩
  | .list => outcome s "" do return listing colours (← Action.load path)
  | .add language r =>
    outcome s s!"Adding rule for '{language}': {r.describe}\n" do
      Action.addRule path language r
      return success colours "Rule added"
  | .remove language index =>
    outcome s "" do
      let _ ← Action.removeRule path language index
      return success colours s!"Removed rule #{index} of '{language}'"
  | .exportTo file format =>
    let d :=
      match format with
      | some f => f.dialect
      | none => formatFor file
    outcome s "" do
      Action.exportTo path file d
      return success colours s!"Exported configuration to {file}"
  | .importFrom file language =>
    outcome s "" do
      let count ← Action.importRules path file language
      return success colours s!"Imported {count} rule(s) from {file}"

/-- Runs a command with a given configuration file or the nearest one. -/
def run (colours : Bool) (config : Option String) (s : Store) (c : Command) : Outcome :=
  c.runAt colours (ConfigFile.path s config) s

end Command

end Foldmark
