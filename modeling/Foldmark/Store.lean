import Foldmark.Path

/-! Files in directories. A store knows the files below one directory, `base`, by the parts of their
paths; the present directory is one of those below. What it does not know is taken for missing. -/
namespace Foldmark

/-- What a path leads to. A file whose bytes are no text has no text. -/
inductive Entry
  | directory
  | file (text : Option String)
deriving DecidableEq, Repr

abbrev Location := List String

structure Directory where
  loc : Location
  names : ∀ part ∈ loc, Path.IsName part

def Directory.base : Directory := ⟨[], nofun⟩

structure Store where
  /-- The absolute path of the topmost directory, without a slash at its end. -/
  base : String
  entries : List (Location × Entry) := []
  here : Directory := .base

namespace Store

def entry? (s : Store) (loc : Location) : Option Entry :=
  if loc = [] then some .directory else s.entries.lookup loc

def isDirectory (s : Store) (loc : Location) : Bool := s.entry? loc = some .directory

def pathOf (s : Store) (loc : Location) : String :=
  s.base ++ String.join (loc.map ("/" ++ ·))

/-- Follows the parts of a path from a directory. All but the last must be directories. -/
def follow (s : Store) (directory : Location) : List String → Option Location
  | [] => some directory
  | part :: rest =>
    if !s.isDirectory directory then none
    else if part = "" || part = "." then s.follow directory rest
    else if part = ".." then
      if directory = [] then none else s.follow directory.dropLast rest
    else s.follow (directory ++ [part]) rest

/-- The parts of a path that are to be followed, and the directory to begin with. A path that leads
elsewhere has none. -/
def startOf? (s : Store) (path : String) : Option (Location × List String) :=
  let base := s.base.toList ++ ['/']
  let parts (chars : List Char) := (Path.split chars).map String.ofList
  if base.isPrefixOf path.toList then some ([], parts (path.toList.drop base.length))
  else if path.startsWith "/" || path.isEmpty then none
  else some (s.here.loc, parts path.toList)

/-- The location that a path leads to, whether or not anything stands there. A path that ends with a
slash leads to a directory. -/
def locate? (s : Store) (path : String) : Option Location := do
  let (directory, parts) ← s.startOf? path
  s.follow directory parts

variable {s : Store} {found : Location}

/-- Only names are added when parts without slashes are followed. -/
theorem names_follow {directory : Location} {parts : List String} (whole : ∀ part ∈ parts, '/' ∉ part.toList)
    (names : ∀ part ∈ directory, Path.IsName part) (followed : s.follow directory parts = some found) :
    ∀ part ∈ found, Path.IsName part := by
  induction parts generalizing directory with
  | nil =>
    cases followed
    exact names
  | cons part rest ih =>
    obtain ⟨own, others⟩ := List.forall_mem_cons.mp whole
    rw [follow] at followed
    split at followed
    · cases followed
    · split at followed
      · exact ih others names followed
      · rename_i counts
        split at followed
        · split at followed
          · cases followed
          · exact ih others (fun part member => names part (List.dropLast_subset _ member)) followed
        · rename_i inward
          refine ih others (fun other member => ?_) followed
          rcases List.mem_append.mp member with old | new
          · exact names other old
          · cases List.mem_singleton.mp new
            simp only [Bool.or_eq_true, decide_eq_true_eq, not_or] at counts
            exact ⟨counts.1, counts.2, inward, own⟩

/-- What a path leads to has names as its parts, as the present directory has. -/
theorem names_locate? {path : String} (located : s.locate? path = some found) :
    ∀ part ∈ found, Path.IsName part := by
  have whole (chars : List Char) : ∀ part ∈ (Path.split chars).map String.ofList, '/' ∉ part.toList := by
    intro part member
    obtain ⟨part, inside, rfl⟩ := List.mem_map.mp member
    rw [String.toList_ofList]
    exact Path.whole_split chars part inside
  rw [locate?, Option.bind_eq_bind, Option.bind_eq_some_iff] at located
  obtain ⟨⟨directory, rest⟩, start, followed⟩ := located
  rw [startOf?] at start
  split at start
  · cases start
    exact names_follow (whole _) (List.forall_mem_nil _) followed
  · split at start
    · cases start
    · cases start
      exact names_follow (whole _) s.here.names followed

def holds (s : Store) (path : String) : Bool := ((s.locate? path).bind s.entry?).isSome

def read? (s : Store) (path : String) : Option String := do
  match ← s.entry? (← s.locate? path) with
  | .file text => text
  | .directory => none

def put (s : Store) (loc : Location) (e : Entry) : Store :=
  { s with entries := (loc, e) :: s.entries.filter fun old => old.1 ≠ loc }

/-- Writes a file. Its directory must be there, and no directory may stand in its place. -/
def write? (s : Store) (path : String) (text : Option String) : Option Store := do
  let loc ← s.locate? path
  match s.entry? loc with
  | some .directory => none
  | _ => if s.isDirectory loc.dropLast then some (s.put loc (.file text)) else none

/-- Makes directories along parts, as far as none of them is a file. -/
def makeDirectories (s : Store) (directory : Location) : List String → Store
  | [] => s
  | part :: rest =>
    if part = "" || part = "." then s.makeDirectories directory rest
    else if part = ".." then s.makeDirectories directory.dropLast rest
    else
      let next := directory ++ [part]
      match s.entry? next with
      | none => (s.put next .directory).makeDirectories next rest
      | some .directory => s.makeDirectories next rest
      | some (.file _) => s

def makeDirectory (s : Store) (path : String) : Store :=
  match s.startOf? path with
  | some (directory, parts) => s.makeDirectories directory parts
  | none => s

def enter (s : Store) (path : String) : Store :=
  match located : s.locate? path with
  | some loc => if s.isDirectory loc then { s with here := ⟨loc, names_locate? located⟩ } else s
  | none => s

/-- The present directory and those it lies in, innermost first. -/
def ancestors : Location → List Location
  | [] => [[]]
  | part :: rest => (ancestors rest).map (part :: ·) ++ [[]]

/-- The nearest location with a name, in the present directory or one that it lies in. -/
def nearest? (s : Store) (name : String) : Option Location :=
  ((ancestors s.here.loc).map (· ++ [name])).find? fun loc => (s.entry? loc).isSome

end Store

end Foldmark
