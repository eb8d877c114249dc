import Foldmark.Config.Basic
import Foldmark.Path

/-! The language of a file, and the format of a file that holds a configuration. -/
namespace Foldmark

/-- The language that a file extension in lower-case letters stands for. -/
def languageOfExtension? : String → Option String
  | "rs" => some "rust"
  | "py" | "pyi" => some "python"
  | "c" | "h" => some "c"
  | "cpp" | "cc" | "cxx" | "hpp" | "hh" => some "cpp"
  | "cs" => some "csharp"
  | "js" | "mjs" | "cjs" => some "javascript"
  | "ts" | "mts" => some "typescript"
  | "md" | "markdown" => some "markdown"
  | "sh" | "bash" | "zsh" => some "shellscript"
  | "yaml" | "yml" => some "yaml"
  | "toml" => some "toml"
  | "html" | "htm" => some "html"
  | "xml" => some "xml"
  | "lua" => some "lua"
  | "go" => some "go"
  | "java" => some "java"
  | "rb" => some "ruby"
  | _ => none

def detectLanguage? (path : String) : Option String :=
  (Path.lowerExtension? path).bind languageOfExtension?

/-- The language of a file: the one that is asked for, then the one of its extension, then the
default. -/
def resolveLanguage (explicit : Option String) (path : String) (settings : Settings) : String :=
  (explicit.or (detectLanguage? path)).getD settings.defaultLanguage

def formatFor (path : String) : Dialect :=
  match Path.lowerExtension? path with
  | some "json" => .json
  | some "yaml" | some "yml" => .yaml
  | _ => .toml

end Foldmark
