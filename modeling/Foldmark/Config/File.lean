import Foldmark.Action
import Foldmark.Rule.Compiled

/-! The file that a configuration is kept in. Every change reads the file, changes the configuration and
writes it back, in this order. -/
namespace Foldmark

def Import.fromFile (s : Store) (file : String) (asked : Option String) : Except ImportError RuleMap :=
  match s.read? file with
  | none => .error .unreadable
  | some text => parse text file asked

namespace ConfigFile

/-- The name of the file that is looked for where none is given. -/
def fileName : String := ".explicit-folding.toml"

/-- The path of the configuration file: the one given, or the nearest one, or one that could be made
in the present directory. -/
def path (s : Store) (given : Option String) : String :=
  given.getD (s.pathOf ((s.nearest? fileName).getD (s.here.loc ++ [fileName])))

def root (path : String) : String := Path.parent path

/-- The configuration in a file, and the initial one where there is no file. -/
def load (s : Store) (path : String) : Except Failure Config :=
  if !s.holds path then .ok .initial
  else
    match s.read? path with
    | none => .error .unreadableConfig
    | some text =>
      match Config.parse? text path with
      | some c => .ok c
      | none => .error (.invalidConfig path (Config.readFormat path))

end ConfigFile

namespace Action

def load (path : String) : Action Config := do ofExcept (ConfigFile.load (← get) path)

def save (path : String) (c : Config) : Action Unit :=
  write path (c.render (formatFor path)) .unwritableConfig

def create (path : String) : Action Unit := do
  if !(← get).holds path then save path .initial

def addRule (path language : String) (r : Rule) : Action Unit := do
  match r.compile with
  | .error reason => throw (.refusedRule language reason)
  | .ok _ => save path ((← load path).addRules language [r])

/-- Removes a rule by its position, and with the last rule of a language the language. -/
def removeRule (path language : String) (index : Nat) : Action Rule := do
  let c ← load path
  match c.rules.get? language with
  | none => throw (.noRules language)
  | some rules =>
    match rules[index]? with
    | none => throw (.noSuchRule language index rules.length)
    | some removed =>
      let rest := rules.eraseIdx index
      let kept := if rest.isEmpty then c.rules.erase language else c.rules.insert language rest
      save path { c with rules := kept }
      return removed

/-- Adds the rules of a settings file, and tells how many they are. -/
def importRules (path file : String) (asked : Option String) : Action Nat := do
  match Import.fromFile (← get) file asked with
  | .error reason => throw (.importFailed file reason)
  | .ok found =>
    ExceptT.adapt (.importInto file) do save path ((← load path).merge found)
    return Config.ruleCount found

def exportTo (path file : String) (d : Dialect) : Action Unit := do
  write file ((← load path).render d) .unwritableExport

end Action

namespace ConfigFile

def save (s : Store) (path : String) (c : Config) : Except Failure Store :=
  ((Action.save path c).result s).map (·.1)

def removeRule (s : Store) (path language : String) (index : Nat) : Except Failure (Store × Rule) :=
  (Action.removeRule path language index).result s

end ConfigFile

end Foldmark
