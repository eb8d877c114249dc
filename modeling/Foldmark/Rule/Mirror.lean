import Foldmark.Pattern.Basic
import Foldmark.Text.Line

/-! Closing markers that repeat what the opening marker captured. A back-reference is a backslash and a
group number; the pieces between are patterns. -/
namespace Foldmark

inductive MirrorPart
  | source (chars : List Char)
  /-- The text of a group of the opening marker. -/
  | group (number : Nat)
deriving DecidableEq, Repr

structure Mirror where
  parts : List MirrorPart
deriving DecidableEq, Repr

namespace Mirror

/-- Puts a character in front of the parts, into a piece of source. -/
def push (c : Char) : List MirrorPart → List MirrorPart
  | .source chars :: rest => .source (c :: chars) :: rest
  | parts => .source [c] :: parts

def isReferenceStart (c : Char) : Bool := '1' ≤ c && c ≤ '9'

/-- Divides a source at its back-references, each a backslash and one or two digits of which the first
is not zero. A backslash before anything else stays with the character that it escapes. -/
def divide : List Char → List MirrorPart
  | [] => []
  | '\\' :: c :: rest =>
    if isReferenceStart c then
      match rest with
      | d :: rest =>
        if d.isDigit then .group ((c.toNat - 48) * 10 + (d.toNat - 48)) :: divide rest
        else .group (c.toNat - 48) :: divide (d :: rest)
      | [] => [.group (c.toNat - 48)]
    else push '\\' (push c (divide rest))
  | c :: rest => push c (divide rest)
termination_by s => s.length

def isGroup : MirrorPart → Bool
  | .group _ => true
  | .source _ => false

def ofSource? (source : String) : Option Mirror :=
  let parts := divide source.toList
  if parts.any isGroup then some ⟨parts⟩ else none

/-- The source with a pattern in the place of every back-reference. -/
def fill (m : Mirror) (group : Nat → List Char) : List Char :=
  m.parts.flatMap fun
    | .source chars => chars
    | .group number => group number

def widened (m : Mirror) : String := String.ofList (m.fill fun _ => "(?:.*?)".toList)

def maxGroup (m : Mirror) : Nat :=
  m.parts.foldl (fun most part =>
    match part with
    | .group number => Nat.max most number
    | .source _ => most) 0

end Mirror

/-- The one closing marker of a block: a back-reference stands for the text that the opening marker
captured. -/
structure ExpectedEnd where
  source : List Char
  node : Option Pattern.Node

namespace ExpectedEnd

/-- Encloses a source, so that it stands for itself whatever surrounds it. -/
def enclose (source : List Char) : List Char := "(?:".toList ++ source ++ [')']

def ofSource (source : List Char) : ExpectedEnd :=
  ⟨source, (Pattern.compileChars (enclose source)).toOption⟩

/-- Where the marker ends if it stands exactly at a place. A source that is no pattern stands for its
own text. -/
def matchAt (e : ExpectedEnd) (line : Line) (start : Nat) : Option Nat :=
  match e.node with
  | some node =>
    match node.search line start with
    | some found => if found.start = start then some found.stop else none
    | none => none
  | none =>
    if e.source.isPrefixOf (line.toList.drop start) then some (start + e.source.length) else none

end ExpectedEnd

/-- The marker expected after an opening marker with these groups; a group that took no part stands
for the empty text. -/
def Mirror.expect (m : Mirror) (group : Nat → Option (List Char)) : ExpectedEnd :=
  .ofSource (m.fill fun number =>
    ExpectedEnd.enclose (Pattern.quote ((group number).getD [])))

end Foldmark
