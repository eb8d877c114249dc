/-! Lines of text. Places in a line are counted in characters; those who speak to the outside count the
bytes of the UTF-8 form, and `byteOffset` and `place?` go between the two. -/
namespace Foldmark

abbrev Line := Array Char

abbrev Document := List Line

namespace Line

def ofString (text : String) : Line := text.toList.toArray

def text (line : Line) : String := String.ofList line.toList

def slice (line : Line) (start stop : Nat) : List Char := (line.toList.drop start).take (stop - start)

def byteCount : List Char → Nat
  | [] => 0
  | c :: rest => c.utf8Size + byteCount rest

def byteOffset (line : Line) (place : Nat) : Nat := byteCount (line.toList.take place)

/-- The place in front of which a number of bytes stand, unless that is inside a character or beyond
the end. -/
def place? (line : Line) (bytes : Nat) : Option Nat :=
  let rec walk : List Char → Nat → Nat → Option Nat
    | [], left, place => if left = 0 then some place else none
    | c :: rest, left, place =>
      if left = 0 then some place
      else if left < c.utf8Size then none
      else walk rest (left - c.utf8Size) (place + 1)
  walk line.toList bytes 0

end Line

def splitFeeds : List Char → List (List Char)
  | [] => [[]]
  | c :: rest =>
    if c = '\n' then [] :: splitFeeds rest
    else
      match splitFeeds rest with
      | [] => [[c]]
      | first :: more => (c :: first) :: more

def dropReturn : List Char → List Char
  | [] => []
  | ['\r'] => []
  | c :: rest => c :: dropReturn rest

/-- The lines of a text. Every line feed ends a line, together with a carriage return directly before
it, and one more line follows the last of them, from which a carriage return at its end is dropped
as well. -/
def splitLines (text : String) : List String :=
  (splitFeeds text.toList).map fun line => String.ofList (dropReturn line)

def Document.ofLines (lines : List String) : Document := lines.map Line.ofString

def Document.ofText (text : String) : Document := .ofLines (splitLines text)

end Foldmark
