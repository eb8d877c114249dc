import Foldmark.Format.Yaml.Scalar

/-! YAML as a list of tokens. Indentation becomes tokens of its own: a collection begins where a line is
indented further than the one it belongs to, and ends where a line is indented less. What precedes a
colon turns out to be a key only there, so the place of every possible key is remembered. -/
namespace Foldmark.Yaml

inductive Token
  | documentStart | documentEnd
  /-- The line before a document that tells the version of the format. -/
  | version
  /-- A line before a document that tells what the handle of a type means. -/
  | handle (name meaning : String)
  | sequenceStart | mappingStart | blockEnd
  | openList | closeList | openTable | closeTable
  | entry | comma | key | value
  | alias (name : String)
  | anchor (name : String)
  /-- The type of a node: a handle, and what follows it. -/
  | tag (handle suffix : String)
  | scalar (text : String) (plain : Bool)
deriving DecidableEq, Repr

structure KeyMark where
  /-- Whether nothing but a key may stand here. -/
  needed : Bool
  /-- The number of tokens before it. -/
  position : Nat
  start : Cursor

def keyReach : Nat := 1024

structure Scanner where
  cursor : Cursor
  /-- The number of brackets and braces that are open. -/
  flow : Nat := 0
  indent : Int := -1
  /-- The indentations that hold again when the present one ends, innermost first. -/
  outer : List Int := []
  mayStartKey : Bool := true
  /-- The possible key at every level of brackets, innermost first. -/
  keys : List (Option KeyMark) := [none]
  tokens : Array Token := #[]

namespace Scanner

def push (s : Scanner) (t : Token) : Scanner := { s with tokens := s.tokens.push t }

def skip (s : Scanner) (count : Nat) : Scanner := { s with cursor := s.cursor.skip count }

/-- Forgets keys whose colon can no longer follow, which must not be needed. -/
def dropStaleKeys (s : Scanner) : Option Scanner := do
  let keys ← s.keys.mapM fun
    | none => some none
    | some k =>
      if k.start.line < s.cursor.line || k.start.index + keyReach < s.cursor.index then
        if k.needed then none else some none
      else some (some k)
  return { s with keys }

/-- Forgets the key at the present level, which must not be needed. -/
def dropKey (s : Scanner) : Option Scanner :=
  match s.keys with
  | some k :: outer => if k.needed then none else some { s with keys := none :: outer }
  | _ => some s

def markKey (s : Scanner) : Option Scanner :=
  if s.mayStartKey then do
    let s ← s.dropKey
    let needed := s.flow = 0 && s.indent = s.cursor.column
    return { s with keys := some ⟨needed, s.tokens.size, s.cursor⟩ :: s.keys.drop 1 }
  else some s

/-- Ends the collections that are indented further than a column; the rest is in `outer`. -/
def closedBy (column : Int) (indent : Int) : List Int → Int × List Int × Nat
  | [] => (indent, [], 0)
  | parent :: outer =>
    if column < indent then
      let (indent, outer, count) := closedBy column parent outer
      (indent, outer, count + 1)
    else (indent, parent :: outer, 0)

def unroll (s : Scanner) (column : Int) : Scanner :=
  if s.flow ≠ 0 then s
  else
    let (indent, outer, count) := closedBy column s.indent s.outer
    { s with indent, outer, tokens := s.tokens ++ Array.replicate count .blockEnd }

/-- Begins a collection where a column is indented further; its token goes to a position. -/
def roll (s : Scanner) (column position : Nat) (t : Token) : Scanner :=
  if s.flow = 0 && s.indent < column then
    { s with
      indent := column
      outer := s.indent :: s.outer
      tokens := s.tokens.insertIdxIfInBounds position t }
  else s

/-- Skips blanks, comments and breaks. A tab may not be part of an indentation. -/
def toNextToken : Nat → Scanner → Scanner
  | 0, s => s
  | fuel + 1, s =>
    match s.cursor.head? with
    | some ' ' => toNextToken fuel (s.skip 1)
    | some '\t' => if s.flow ≠ 0 || !s.mayStartKey then toNextToken fuel (s.skip 1) else s
    | some '#' => toNextToken fuel { s with cursor := s.cursor.skipLine }
    | some ch =>
      if isBreak ch then
        toNextToken fuel
          { s with
            cursor := s.cursor.readBreak.2
            mayStartKey := s.mayStartKey || s.flow = 0 }
      else s
    | none => s

/-- A bracket or brace that begins a collection, which may be a key. -/
def openFlow (s : Scanner) (t : Token) : Option Scanner := do
  let s ← s.markKey
  return { s with keys := none :: s.keys, flow := s.flow + 1, mayStartKey := true }.push t |>.skip 1

def closeFlow (s : Scanner) (t : Token) : Option Scanner := do
  let s ← s.dropKey
  let keys := if s.flow = 0 then s.keys else s.keys.drop 1
  return { s with keys, flow := s.flow - 1, mayStartKey := false }.push t |>.skip 1

def comma (s : Scanner) : Option Scanner := do
  let s ← s.dropKey
  return { s with mayStartKey := true }.push .comma |>.skip 1

def entry (s : Scanner) : Option Scanner := do
  if s.flow = 0 && !s.mayStartKey then none
  let s ← (s.roll s.cursor.column s.tokens.size .sequenceStart).dropKey
  return { s with mayStartKey := true }.push .entry |>.skip 1

def explicitKey (s : Scanner) : Option Scanner := do
  if s.flow = 0 && !s.mayStartKey then none
  let s ← (s.roll s.cursor.column s.tokens.size .mappingStart).dropKey
  return { s with mayStartKey := s.flow = 0 }.push .key |>.skip 1

/-- The colon before a value: what was remembered becomes a key. -/
def value (s : Scanner) : Option Scanner := do
  match s.keys with
  | some k :: outer =>
    let s := { s with tokens := s.tokens.insertIdxIfInBounds k.position .key }
    let s := s.roll k.start.column k.position .mappingStart
    return { s with keys := none :: outer, mayStartKey := false }.push .value |>.skip 1
  | _ =>
    if s.flow = 0 && !s.mayStartKey then none
    let s := s.roll s.cursor.column s.tokens.size .mappingStart
    return { s with mayStartKey := s.flow = 0 }.push .value |>.skip 1

def documentMark (s : Scanner) (t : Token) (length : Nat) : Option Scanner := do
  let s ← (s.unroll (-1)).dropKey
  return { s with mayStartKey := false }.push t |>.skip length

def isNameChar (c : Char) : Bool := c.isAlphanum || c = '_' || c = '-'

def endsName (c : Cursor) : Bool :=
  c.isEndOfWord 0 || ((c.head?).map fun ch => "?:,]\x7d%@`".toList.contains ch).getD false

def named (s : Scanner) (t : String → Token) : Option Scanner := do
  let s ← s.markKey
  let name := (s.cursor.rest.drop 1).takeWhile isNameChar
  let s := s.skip (1 + name.length)
  if name.isEmpty || !endsName s.cursor then none
  return { s with mayStartKey := false }.push (t (String.ofList name))

def isTypeChar (c : Char) : Bool := isNameChar c || ";/?:@&=+$.!~*'()%".toList.contains c

/-- Reads the type of a node after its exclamation mark: in angle brackets, after a handle that ends
with an exclamation mark, or after the mark alone. Gives the handle, what follows it, and the number
of characters. -/
def readType (s : List Char) : Option (String × String × Nat) :=
  match s with
  | '<' :: rest =>
    let name := rest.takeWhile fun c => isTypeChar c || c = ',' || c = '[' || c = ']'
    if name.isEmpty || rest[name.length]? ≠ some '>' then none
    else some ("", String.ofList name, name.length + 2)
  | s =>
    let name := s.takeWhile isNameChar
    match s.drop name.length with
    | '!' :: rest =>
      let suffix := rest.takeWhile isTypeChar
      if suffix.isEmpty then none
      else
        some ("!" ++ String.ofList name ++ "!", String.ofList suffix, name.length + 1 + suffix.length)
    | _ =>
      let suffix := s.takeWhile isTypeChar
      some ("!", String.ofList suffix, suffix.length)

def tag (s : Scanner) : Option Scanner := do
  let s ← s.markKey
  let (handle, suffix, length) ← readType (s.cursor.rest.drop 1)
  let s := s.skip (1 + length)
  if !s.cursor.isEndOfWord 0 && (s.flow = 0 || s.cursor.head? ≠ some ',') then none
  return { s with mayStartKey := false }.push (.tag handle suffix)

def wordsOf (s : List Char) : List String :=
  (((String.ofList s).split isBlank).toList.map (·.toString)).filter (· ≠ "")
    |>.takeWhile fun word => !word.startsWith "#"

def directive? (s : List Char) : Option Token :=
  match wordsOf s with
  | ["YAML", "1.1"] => some .version
  | ["YAML", "1.2"] => some .version
  | ["TAG", name, meaning] => some (.handle name meaning)
  | _ => none

def block (s : Scanner) (literal : Bool) (fuel : Nat) : Option Scanner := do
  let s ← s.dropKey
  let (text, cursor) ← readBlock literal s.indent fuel (s.cursor.skip 1)
  return { s with cursor, mayStartKey := true }.push (.scalar text false)

def quoted (s : Scanner) (single : Bool) (fuel : Nat) : Option Scanner := do
  let s ← s.markKey
  let (text, cursor) ← readQuoted single fuel [] (s.cursor.skip 1)
  return { s with cursor, mayStartKey := false }.push (.scalar text false)

def plain (s : Scanner) (fuel : Nat) : Option Scanner := do
  let s ← s.markKey
  let (text, cursor, broken) ←
    readPlain (s.flow ≠ 0) (s.indent + 1).toNat fuel [] .none s.cursor
  return { s with cursor, mayStartKey := broken }.push (.scalar text true)

def mayStartPlain (s : Scanner) (ch : Char) : Bool :=
  let isIndicator := "-?:,[]\x7b\x7d#&*!|>'\"%@`".toList.contains ch
  !(isBlank ch || isIndicator) || (ch = '-' && !((s.cursor.peek? 1).map isBlank).getD false) ||
    (s.flow = 0 && (ch = '?' || ch = ':') && !s.cursor.isEndOfWord 1)

def fetch (s : Scanner) (ch : Char) (fuel : Nat) : Option Scanner :=
  let c := s.cursor
  if c.column = 0 && ch = '%' then do
    let s ← (s.unroll (-1)).dropKey
    let token ← directive? ((c.rest.drop 1).takeWhile (!isBreak ·))
    return { s with cursor := c.skipLine, mayStartKey := false }.push token
  else if c.isAtMark ['-', '-', '-'] then s.documentMark .documentStart 3
  else if c.isAtMark ['.', '.', '.'] then s.documentMark .documentEnd 3
  else if ch = '[' then s.openFlow .openList
  else if ch = '{' then s.openFlow .openTable
  else if ch = ']' then s.closeFlow .closeList
  else if ch = '}' then s.closeFlow .closeTable
  else if ch = ',' then s.comma
  else if ch = '-' && c.isEndOfWord 1 then s.entry
  else if ch = '?' && c.isEndOfWord 1 then s.explicitKey
  else if ch = ':' && (s.flow ≠ 0 || c.isEndOfWord 1) then s.value
  else if ch = '*' then s.named .alias
  else if ch = '&' then s.named .anchor
  else if ch = '!' then s.tag
  else if ch = '|' && s.flow = 0 then s.block true fuel
  else if ch = '>' && s.flow = 0 then s.block false fuel
  else if ch = '\'' then s.quoted true fuel
  else if ch = '"' then s.quoted false fuel
  else if s.mayStartPlain ch then s.plain fuel
  else none

def run (limit : Nat) : Nat → Scanner → Option (Array Token)
  | 0, _ => none
  | fuel + 1, s => do
    let s ← (toNextToken limit s).dropStaleKeys
    let s := s.unroll s.cursor.column
    match s.cursor.head? with
    | none =>
      let s ← (s.unroll (-1)).dropKey
      return s.tokens
    | some ch => run limit fuel (← s.fetch ch limit)

end Scanner

/-- The tokens of a text. A mark of the byte order in front is no part of it. -/
def tokens? (text : String) : Option (List Token) := do
  let chars :=
    match text.toList with
    | c :: rest => if c.toNat = 0xFEFF then rest else c :: rest
    | [] => []
  if !chars.all isAllowed then none
  let limit := chars.length + 2
  let tokens ← Scanner.run limit limit { cursor := { rest := chars } }
  return tokens.toList

end Foldmark.Yaml
