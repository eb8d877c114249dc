/-! Paths of files, as texts whose parts are separated by slashes. A part that is empty or a single
point does not count, unless it stands at the beginning. -/
namespace Foldmark.Path

/-- The parts between slashes; there is always one more than there are slashes. -/
def split : List Char → List (List Char)
  | [] => [[]]
  | c :: rest =>
    if c = '/' then [] :: split rest
    else
      match split rest with
      | [] => [[c]]
      | first :: more => (c :: first) :: more

theorem whole_split (chars : List Char) : ∀ part ∈ split chars, '/' ∉ part := by
  induction chars with
  | nil => simp [split]
  | cons c rest ih =>
    rw [split]
    split
    · exact List.forall_mem_cons.mpr ⟨List.not_mem_nil, ih⟩
    · rename_i other
      split
      · simp [Ne.symm other]
      · rename_i first more parts
        rw [parts] at ih
        obtain ⟨own, others⟩ := List.forall_mem_cons.mp ih
        refine List.forall_mem_cons.mpr ⟨?_, others⟩
        rw [List.mem_cons, not_or]
        exact ⟨Ne.symm other, own⟩

structure IsName (part : String) : Prop where
  occupied : part ≠ ""
  counts : part ≠ "."
  inward : part ≠ ".."
  whole : '/' ∉ part.toList

instance (part : String) : Decidable (IsName part) :=
  decidable_of_iff (part ≠ "" ∧ part ≠ "." ∧ part ≠ ".." ∧ '/' ∉ part.toList)
    ⟨fun ⟨occupied, counts, inward, whole⟩ => ⟨occupied, counts, inward, whole⟩,
      fun h => ⟨h.occupied, h.counts, h.inward, h.whole⟩⟩

def isIdle (part : List Char) : Bool := part = [] || part = ['.']

def trail (path : String) : List (List Char) :=
  match split path.toList with
  | ['.'] :: rest => (rest.filter (!isIdle ·)).reverse ++ [['.']]
  | parts => (parts.filter (!isIdle ·)).reverse

def fileName? (path : String) : Option (List Char) :=
  match trail path with
  | [] => none
  | name :: _ => if name = ['.', '.'] || name = ['.'] then none else some name

/-- What follows the last point of a file name, where something stands before that point. -/
def extensionOf? (name : List Char) : Option (List Char) :=
  let last := name.reverse.takeWhile (· ≠ '.')
  match name.reverse.dropWhile (· ≠ '.') with
  | '.' :: _ :: _ => some last.reverse
  | _ => none

def extension? (path : String) : Option String :=
  ((fileName? path).bind extensionOf?).map String.ofList

/-- The extension in lower-case letters, as far as they are ASCII letters. -/
def lowerExtension? (path : String) : Option String :=
  (extension? path).map fun e => String.ofList (e.toList.map Char.toLower)

/-- Drops the parts at the end that do not count, except the first one; parts stand last first. -/
def dropIdle : List (List Char) → List (List Char)
  | [] => []
  | [first] => [first]
  | part :: rest => if isIdle part then dropIdle rest else part :: rest

def parent (path : String) : String :=
  match dropIdle (split path.toList).reverse with
  | [] => ""
  | [_] => ""
  | _ :: rest =>
    match dropIdle rest with
    | [[]] => "/"
    | parts => String.ofList (['/'].intercalate parts.reverse)

def join (directory path : String) : String :=
  if path.startsWith "/" || directory.isEmpty then path
  else if directory.endsWith "/" then directory ++ path
  else directory ++ "/" ++ path

end Foldmark.Path
