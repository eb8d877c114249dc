/-! A place in a YAML text. Lines end with any of five breaks; all but two of them are read as line
feeds. -/
namespace Foldmark.Yaml

def isBreak (c : Char) : Bool :=
  c = '\n' || c = '\r' || c.toNat = 0x85 || c.toNat = 0x2028 || c.toNat = 0x2029

def isBlank (c : Char) : Bool := c = ' ' || c = '\t'

def isAllowed (c : Char) : Bool :=
  let n := c.toNat
  n = 0x09 || n = 0x0A || n = 0x0D || (0x20 ≤ n && n ≤ 0x7E) || n = 0x85 ||
    (0xA0 ≤ n && n ≤ 0xFFFD) || 0x10000 ≤ n

structure Cursor where
  rest : List Char
  index : Nat := 0
  line : Nat := 0
  column : Nat := 0

namespace Cursor

def head? (c : Cursor) : Option Char := c.rest.head?

def peek? (c : Cursor) (distance : Nat) : Option Char := c.rest[distance]?

/-- Whether a blank, a break or the end stands some characters further on. -/
def isEndOfWord (c : Cursor) (distance : Nat) : Bool :=
  match c.peek? distance with
  | none => true
  | some ch => isBlank ch || isBreak ch

def skip (c : Cursor) (count : Nat) : Cursor :=
  { c with rest := c.rest.drop count, index := c.index + count, column := c.column + count }

def readBreak (c : Cursor) : List Char × Cursor :=
  let after (rest : List Char) (count : Nat) : Cursor := ⟨rest, c.index + count, c.line + 1, 0⟩
  match c.rest with
  | '\r' :: '\n' :: rest => (['\n'], after rest 2)
  | ch :: rest =>
    if ch.toNat = 0x2028 || ch.toNat = 0x2029 then ([ch], after rest 1)
    else if isBreak ch then (['\n'], after rest 1)
    else ([], c)
  | [] => ([], c)

/-- Whether a mark of three characters stands alone at the beginning of a line. -/
def isAtMark (c : Cursor) (mark : List Char) : Bool :=
  c.column = 0 && mark.isPrefixOf c.rest && c.isEndOfWord 3

def isAtDocumentMark (c : Cursor) : Bool :=
  c.isAtMark ['-', '-', '-'] || c.isAtMark ['.', '.', '.']

def skipLine (c : Cursor) : Cursor := c.skip (c.rest.takeWhile (!isBreak ·)).length

end Cursor

end Foldmark.Yaml
