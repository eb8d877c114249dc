import Foldmark.CommandLine

/-! The program: it reads the files that a command may need into a store, runs the command, prints what it
says, and writes back what it has changed. -/
open Foldmark

def addFromDisk (s : Store) (location : Location) : IO Store := do
  let path := s.pathOf location
  try
    if ← (← IO.FS.realPath path).isDir then return s.put location .directory
    return s.put location (.file (String.fromUTF8? (← IO.FS.readBinFile path)))
  catch _ => return s

def addAlong (s : Store) (directory : Location) : List String → IO Store
  | [] => return s
  | part :: rest => do
    if part = "" || part = "." then addAlong s directory rest
    else if part = ".." then addAlong s directory.dropLast rest
    else addAlong (← addFromDisk s (directory ++ [part])) (directory ++ [part]) rest

def addPath (s : Store) (path : String) : IO Store :=
  match s.startOf? path with
  | some (directory, parts) => addAlong s directory parts
  | none => return s

def namedFiles : Command → List String
  | .fold file _ _ => [file]
  | .exportTo file _ => [file]
  | .importFrom file _ => [file]
  | _ => []

def storeFor (config : Option String) (command : Command) : IO Store := do
  let parts := (Path.split (← IO.currentDir).toString.toList).map String.ofList
  let here : Directory :=
    { loc := parts.filter (Path.IsName ·)
      names := fun _ member => of_decide_eq_true (List.mem_filter.mp member).2 }
  let mut s : Store := { base := "", here }
  s ← addAlong s [] here.loc
  for directory in Store.ancestors here.loc do
    s ← addFromDisk s (directory ++ [ConfigFile.fileName])
  for path in config.toList ++ namedFiles command do
    s ← addPath s path
  return s

def writeChanges (old new : Store) : IO Unit := do
  for (location, entry) in new.entries do
    match entry with
    | .file (some text) =>
      if old.entry? location ≠ some entry then IO.FS.writeFile (new.pathOf location) text
    | _ => pure ()

/-- Whether a variable of the environment is set, and not to zero. -/
def isOn (name : String) : IO Bool := do
  match ← IO.getEnv name with
  | some value => return value != "0"
  | none => return false

def showsColours : IO Bool := do
  if ← isOn "CLICOLOR_FORCE" then return true
  if (← IO.getEnv "NO_COLOR").isSome then return false
  if (← IO.getEnv "CLICOLOR") = some "0" then return false
  (← IO.getStdout).isTty

def usage : String :=
  "Usage: explicit-folding [--config <CONFIG>] " ++
    "<init|fold|validate|list|add|remove|export|import> [OPTIONS]"

def main (words : List String) : IO UInt32 := do
  match CommandLine.parse? words with
  | none =>
    IO.eprintln usage
    return 2
  | some (config, command) =>
    let s ← storeFor config command
    let outcome := command.run (← showsColours) config s
    writeChanges s outcome.store
    IO.print outcome.out
    match outcome.failure with
    | none => return 0
    | some e =>
      IO.eprintln ("Error: " ++ e.message)
      return 1
