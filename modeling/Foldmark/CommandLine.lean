import Foldmark.Command
import Foldmark.Rule.Master

/-! The command line: from the program's arguments to a command. -/
namespace Foldmark.CommandLine

inductive Arity
  | switch | value
deriving DecidableEq, Repr

structure Opt where
  name : String
  letter : Option Char
  arity : Arity
deriving DecidableEq, Repr

def configOption : Opt := ⟨"config", none, .value⟩

def languageOption : Opt := ⟨"language", some 'l', .value⟩

def formatOption : Opt := ⟨"format", some 'f', .value⟩

def indexOption : Opt := ⟨"index", some 'i', .value⟩

def valueOption (name : String) : Opt := ⟨name, none, .value⟩

def switchOption (name : String) : Opt := ⟨name, none, .switch⟩

def optionsOf? : String → Option (List Opt)
  | "init" => some []
  | "fold" => some [languageOption, formatOption]
  | "validate" => some []
  | "list" => some []
  | "add" => some [languageOption, valueOption "begin", valueOption "middle", valueOption "end",
      valueOption "continuation", valueOption "separator", switchOption "regex",
      switchOption "not-nested", switchOption "exclude-last-line", valueOption "kind"]
  | "remove" => some [languageOption, indexOption]
  | "export" => some [formatOption]
  | "import" => some [languageOption]
  | _ => none

/-- What has been read: options by name with their values, and arguments, newest first. -/
structure Given where
  options : List (String × String) := []
  arguments : List String := []

namespace Given

def add (g : Given) (o : Opt) (value : String) : Option Given :=
  if (g.options.lookup o.name).isSome then none
  else some { g with options := (o.name, value) :: g.options }

def addArgument (g : Given) (argument : String) : Given :=
  { g with arguments := argument :: g.arguments }

def option? (g : Given) (name : String) : Option String := g.options.lookup name

def has (g : Given) (name : String) : Bool := (g.option? name).isSome

end Given

def isOption (word : String) : Bool := word.startsWith "-" && word ≠ "-"

/-- What an option's word says: the option, and the value that is part of the word. -/
def readOption (known : List Opt) (word : String) : Option (Opt × Option String) :=
  match word.toList with
  | '-' :: '-' :: rest => do
    let name := String.ofList (rest.takeWhile (· ≠ '='))
    let o ← known.find? (·.name = name)
    match rest.dropWhile (· ≠ '=') with
    | '=' :: value => return (o, some (String.ofList value))
    | _ => return (o, none)
  | '-' :: letter :: rest => do
    let o ← known.find? (·.letter = some letter)
    match rest with
    | [] => return (o, none)
    | '=' :: value => return (o, some (String.ofList value))
    | value => return (o, some (String.ofList value))
  | _ => none

/-- Reads the words of a command. After two hyphens, all words are arguments. -/
def readWords (known : List Opt) (g : Given) : List String → Option Given
  | [] => some g
  | word :: rest =>
    if word = "--" then some (rest.foldl Given.addArgument g)
    else if isOption word then
      match readOption known word with
      | none => none
      | some (o, attached) =>
        match o.arity, attached, rest with
        | .switch, none, rest => (g.add o "").bind fun g => readWords known g rest
        | .switch, some _, _ => none
        | .value, some value, rest => (g.add o value).bind fun g => readWords known g rest
        | .value, none, value :: rest =>
          if isOption value then none else (g.add o value).bind fun g => readWords known g rest
        | .value, none, [] => none
    else readWords known (g.addArgument word) rest

def readLeading (g : Given) : List String → Option (Given × String × List String)
  | [] => none
  | word :: rest =>
    if isOption word then
      match readOption [configOption] word, rest with
      | some (o, some value), rest => (g.add o value).bind fun g => readLeading g rest
      | some (o, none), value :: rest =>
        if isOption value then none else (g.add o value).bind fun g => readLeading g rest
      | _, _ => none
    else some (g, word, rest)

def choice? {α : Type} (ofName? : String → Option α) : Option String → Option (Option α)
  | none => some none
  | some name => (ofName? name).map some

def path? (p : String) : Option String := if p.isEmpty then none else some p

def index? (s : String) : Option Nat :=
  match s.toList with
  | '+' :: digits => MasterGroup.readIndex? digits
  | digits => MasterGroup.readIndex? digits

def ruleOf? (g : Given) : Option Rule := do
  let kind ← choice? Kind.ofName? (g.option? "kind")
  let marker (name : String) : Marker :=
    if g.has "regex" then { regex := g.option? name } else { text := g.option? name }
  return {
    opening := marker "begin"
    middle := marker "middle"
    closing := marker "end"
    continuation := marker "continuation"
    separator := marker "separator"
    foldLastLine := !g.has "exclude-last-line"
    nested := !g.has "not-nested"
    kind := kind.getD .region }

def commandOf? (name : String) (g : Given) : Option Command := do
  let language := g.option? "language"
  match name, g.arguments with
  | "init", [] => return .init
  | "validate", [] => return .validate
  | "list", [] => return .list
  | "fold", [file] =>
    return .fold (← path? file) language (← choice? OutputFormat.ofName? (g.option? "format"))
  | "export", [file] =>
    return .exportTo (← path? file) (← choice? OutputFormat.ofName? (g.option? "format"))
  | "import", [file] => return .importFrom (← path? file) language
  | "add", [] => return .add (language.getD anyLanguage) (← ruleOf? g)
  | "remove", [] => return .remove (← language) (← index? (← g.option? "index"))
  | _, _ => none

/-- The configuration file and the command that words ask for, if they are used rightly. What is given
behind the name of the command wins. -/
def parse? (words : List String) : Option (Option String × Command) := do
  let (leading, name, rest) ← readLeading {} words
  let known ← optionsOf? name
  let g ← readWords (configOption :: known) {} rest
  let command ← commandOf? name g
  let early ←
    match leading.option? "config" with
    | some p => (path? p).map some
    | none => some none
  let late ←
    match g.option? "config" with
    | some p => (path? p).map some
    | none => some none
  return (late.or early, command)

end Foldmark.CommandLine
