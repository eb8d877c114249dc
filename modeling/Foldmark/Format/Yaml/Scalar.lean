import Foldmark.Format.Yaml.Cursor
import Foldmark.Text.CaseFold

/-! Scalars of YAML: words in a row, quoted texts, and blocks. Between words, a break counts as a blank
unless more breaks follow it. Readers that may run on to the end of the text carry fuel, which is
enough if it exceeds the length of the text. -/
namespace Foldmark.Yaml

structure Gap where
  blanks : List Char
  /-- The first break, and those after it. -/
  first : List Char
  more : List Char
  broken : Bool

namespace Gap

def none : Gap := ⟨[], [], [], false⟩

def text (g : Gap) : List Char :=
  if !g.broken then g.blanks
  else
    match g.first with
    | '\n' :: _ => if g.more.isEmpty then [' '] else g.more
    | first => first ++ g.more

end Gap

/-- Reads blanks and breaks. In a plain scalar no tab may stand before column `indent` of a line. -/
def readGap (indent : Nat) : Nat → Gap → Cursor → Option (Gap × Cursor)
  | 0, _, _ => none
  | fuel + 1, g, c =>
    match c.head? with
    | none => some (g, c)
    | some ch =>
      if isBlank ch then
        if g.broken then
          if c.column < indent && ch = '\t' then none else readGap indent fuel g (c.skip 1)
        else readGap indent fuel { g with blanks := g.blanks ++ [ch] } (c.skip 1)
      else if isBreak ch then
        let (text, c) := c.readBreak
        if g.broken then readGap indent fuel { g with more := g.more ++ text } c
        else readGap indent fuel { g with first := text, broken := true } c
      else some (g, c)

def isFlowIndicator (c : Char) : Bool := c = ',' || c = '[' || c = ']' || c = '{' || c = '}'

/-- Whether a plain scalar ends here, at a character that is neither blank nor break. -/
def endsPlain (inFlow : Bool) (c : Cursor) : Bool :=
  match c.head? with
  | none => true
  | some ch => (ch = ':' && c.isEndOfWord 1) || (inFlow && isFlowIndicator ch)

/-- The characters that may not follow a colon directly in a bracketed collection. -/
def isRefused (c : Char) : Bool := isFlowIndicator c || c = '?'

/-- Reads the characters of one word of a plain scalar, adding to those read before (newest
first). -/
def readPlainWord (inFlow : Bool) : Nat → List Char → Cursor → Option (List Char × Cursor)
  | 0, _, _ => none
  | fuel + 1, done, c =>
    if c.isEndOfWord 0 then some (done, c)
    else if inFlow && c.head? = some ':' && ((c.peek? 1).map isRefused).getD false then none
    else if endsPlain inFlow c then some (done, c)
    else
      match c.head? with
      | none => some (done, c)
      | some ch => readPlainWord inFlow fuel (ch :: done) (c.skip 1)

/-- Reads a plain scalar whose lines stand at column `indent` or further on. Gives the text, the place
after the blanks that follow, and whether a break is among these. -/
def readPlain (inFlow : Bool) (indent : Nat) :
    Nat → List Char → Gap → Cursor → Option (String × Cursor × Bool)
  | 0, _, _, _ => none
  | fuel + 1, done, gap, c => do
    let finish (gap : Gap) (c : Cursor) := some (String.ofList done.reverse, c, gap.broken)
    if c.isAtDocumentMark || c.head? = some '#' then finish gap c
    else
      let (word, after) ← readPlainWord inFlow (fuel + 1) [] c
      if word.isEmpty then finish gap c
      else
        let done := word ++ gap.text.reverse ++ done
        let (gap, next) ← readGap indent (fuel + 1) .none after
        if gap.blanks.isEmpty && !gap.broken || (!inFlow && next.column < indent) then
          some (String.ofList done.reverse, next, gap.broken)
        else readPlain inFlow indent fuel done gap next

def escaped? : Char → Option Char
  | '0' => some (Char.ofNat 0)
  | 'a' => some (Char.ofNat 7)
  | 'b' => some (Char.ofNat 8)
  | 't' => some '\t'
  | '\t' => some '\t'
  | 'n' => some '\n'
  | 'v' => some (Char.ofNat 11)
  | 'f' => some (Char.ofNat 12)
  | 'r' => some '\r'
  | 'e' => some (Char.ofNat 27)
  | ' ' => some ' '
  | '"' => some '"'
  | '/' => some '/'
  | '\\' => some '\\'
  | 'N' => some (Char.ofNat 0x85)
  | '_' => some (Char.ofNat 0xA0)
  | 'L' => some (Char.ofNat 0x2028)
  | 'P' => some (Char.ofNat 0x2029)
  | _ => none

/-- The number of hexadecimal digits that follow a letter after a backslash. -/
def codeLength? : Char → Option Nat
  | 'x' => some 2
  | 'u' => some 4
  | 'U' => some 8
  | _ => none

def codeChar? (digits : List Char) : Option Char := do
  let code ← digits.foldlM (fun n c => (CaseFold.hexDigit? c).map (n * 16 + ·)) 0
  if (0xD800 ≤ code && code ≤ 0xDFFF) || 0x10FFFF < code then none else some (Char.ofNat code)

def readEscape (c : Cursor) : Option (Char × Cursor) := do
  let letter ← c.head?
  match codeLength? letter with
  | some count =>
    let digits := (c.rest.drop 1).take count
    if digits.length < count then none
    else return (← codeChar? digits, c.skip (count + 1))
  | none => return (← escaped? letter, c.skip 1)

/-- Reads a quoted text after its opening quote; `done` holds what was read, newest first. -/
def readQuoted (single : Bool) : Nat → List Char → Cursor → Option (String × Cursor)
  | 0, _, _ => none
  | fuel + 1, done, c => do
    let ch ← c.head?
    if c.isAtDocumentMark then none
    else if single && ch = '\'' then
      if c.peek? 1 = some '\'' then readQuoted single fuel ('\'' :: done) (c.skip 2)
      else some (String.ofList done.reverse, c.skip 1)
    else if !single && ch = '"' then some (String.ofList done.reverse, c.skip 1)
    else if !single && ch = '\\' then
      if ((c.peek? 1).map isBreak).getD false then
        let (_, c) := (c.skip 1).readBreak
        let (gap, c) ← readGap 0 (fuel + 1) ⟨[], [], [], true⟩ c
        readQuoted single fuel ((gap.first ++ gap.more).reverse ++ done) c
      else
        let (ch, c) ← readEscape (c.skip 1)
        readQuoted single fuel (ch :: done) c
    else if isBlank ch || isBreak ch then
      let (gap, c) ← readGap 0 (fuel + 1) .none c
      readQuoted single fuel (gap.text.reverse ++ done) c
    else readQuoted single fuel (ch :: done) (c.skip 1)

inductive Chomping
  | strip | clip | keep
deriving DecidableEq, Repr

/-- Reads blank lines of a block, up to the given column, or, where the column is not known yet, to
the furthest one. Gives the column and the breaks. -/
def readBlockBreaks (least : Nat) :
    Nat → Option Nat → Nat → List Char → Cursor → Option (Nat × List Char × Cursor)
  | 0, _, _, _, _ => none
  | fuel + 1, indent, furthest, breaks, c =>
    let spaces := (c.rest.takeWhile (· = ' ')).length
    let c := c.skip <|
      match indent with
      | some column => Nat.min spaces (column - c.column)
      | none => spaces
    let furthest := Nat.max furthest c.column
    let inside :=
      match indent with
      | some column => decide (c.column < column)
      | none => true
    match c.head? with
    | some '\t' => if inside then none else some (indent.getD (Nat.max furthest least), breaks, c)
    | some ch =>
      if isBreak ch then
        let (text, c) := c.readBreak
        readBlockBreaks least fuel indent furthest (breaks ++ text) c
      else some (indent.getD (Nat.max furthest least), breaks, c)
    | none => some (indent.getD (Nat.max furthest least), breaks, c)

/-- What has been read of a block: its text (newest first), the last break, the breaks of the blank
lines after it, and whether the last line began with a blank. -/
structure Block where
  done : List Char
  last : List Char
  breaks : List Char
  blank : Bool

def readBlockLines (literal : Bool) (indent : Nat) :
    Nat → Block → Cursor → Option (Block × Cursor)
  | 0, _, _ => none
  | fuel + 1, b, c => do
    match c.head? with
    | none => some (b, c)
    | some ch =>
      if c.column ≠ indent then some (b, c)
      else
        let blank := isBlank ch
        let folded := !literal && b.last = ['\n'] && !b.blank && !blank
        let joint :=
          if folded then if b.breaks.isEmpty then [' '] else b.breaks else b.last ++ b.breaks
        let line := c.rest.takeWhile (!isBreak ·)
        let (last, c) := (c.skip line.length).readBreak
        let (_, breaks, c) ← readBlockBreaks 0 (fuel + 1) (some indent) 0 [] c
        readBlockLines literal indent fuel
          ⟨line.reverse ++ joint.reverse ++ b.done, last, breaks, blank⟩ c

/-- Reads the signs after the character that begins a block: how to chomp it, and how far it is
indented. -/
def readBlockHeader (c : Cursor) : Option (Chomping × Option Nat × Cursor) :=
  let chomping? : Char → Option Chomping
    | '+' => some .keep
    | '-' => some .strip
    | _ => none
  let digit? (ch : Char) : Option Nat := if ch.isDigit then some (ch.toNat - 48) else none
  let valid (indent : Nat) (result : Chomping × Option Nat × Cursor) :=
    if indent = 0 then none else some result
  match (c.peek? 0).bind chomping?, (c.peek? 0).bind digit? with
  | some chomping, _ =>
    match (c.peek? 1).bind digit? with
    | some indent => valid indent (chomping, some indent, c.skip 2)
    | none => some (chomping, none, c.skip 1)
  | none, some indent =>
    match (c.peek? 1).bind chomping? with
    | some chomping => valid indent (chomping, some indent, c.skip 2)
    | none => valid indent (.clip, some indent, c.skip 1)
  | none, none => some (.clip, none, c)

/-- Reads a block after the character that begins it; `parent` is the column of what it belongs to,
and −1 at the outermost level. -/
def readBlock (literal : Bool) (parent : Int) (fuel : Nat) (c : Cursor) :
    Option (String × Cursor) := do
  let (chomping, increment, c) ← readBlockHeader c
  let c := c.skip (c.rest.takeWhile isBlank).length
  let c := if c.head? = some '#' then c.skipLine else c
  if !(((c.head?).map isBreak).getD true) then none
  let (_, c) := c.readBreak
  let given := increment.map fun n => if 0 ≤ parent then parent.toNat + n else n
  let least := Nat.max (parent + 1).toNat 1
  let (indent, breaks, c) ← readBlockBreaks least fuel given 0 [] c
  let (b, c) ← readBlockLines literal indent fuel ⟨[], [], breaks, false⟩ c
  let tail :=
    match chomping with
    | .strip => []
    | .clip => b.last
    | .keep => b.last ++ b.breaks
  return (String.ofList (b.done.reverse ++ tail), c)

end Foldmark.Yaml
