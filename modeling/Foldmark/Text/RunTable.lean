import Foldmark.Text.CharSet

/-! Tables that assign a key to every code point, written as runs, and the loose spelling of the
names they use. -/
namespace Foldmark

namespace RunTable

/-- Reads a word of a table: a key, then the number of code points in the run unless it is one. -/
def readWord (word : String) : String × Nat :=
  let key := word.toList.takeWhile fun c => !c.isDigit
  let count := word.toList.dropWhile fun c => !c.isDigit
  (String.ofList key, ((String.ofList count).toNat?).getD 1)

def read (text : String) : List (String × Nat) := (text.splitOn " ").map readWord

def select (runs : List (String × Nat)) (wanted : String → Bool) : CharSet :=
  let rec walk (start : Nat) : List (String × Nat) → List CodeRange
    | [] => []
    | (key, count) :: rest =>
      if wanted key then ⟨start, start + count - 1⟩ :: walk (start + count) rest
      else walk (start + count) rest
  CharSet.ofRanges (walk 0 runs)

end RunTable

/-- A name without case, blanks, hyphens, underscores and a leading "is", so that all usual
spellings agree. -/
def looseName (name : String) : String :=
  let chars := name.toList
  let stripped :=
    match chars with
    | i :: s :: rest => if i.toLower = 'i' && s.toLower = 's' then some rest else none
    | _ => none
  let squeeze (cs : List Char) : List Char :=
    (cs.filter fun c => c ≠ ' ' && c ≠ '_' && c ≠ '-' && c.toNat < 128).map Char.toLower
  match stripped with
  | none => String.ofList (squeeze chars)
  | some rest => if squeeze rest = ['c'] then "isc" else String.ofList (squeeze rest)

/-- The first of the names of something that may be given by any of its names in any spelling. -/
def RunTable.short? (names : List (List String)) (name : String) : Option String :=
  let loose := looseName name
  (names.find? fun entry => entry.any (looseName · = loose)).bind List.head?

end Foldmark
