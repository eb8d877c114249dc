import Foldmark.Format.Toml.Scalar

/-! Values as TOML: the fields of a table that are no tables, then its tables, each under a header. A text
is written in the first kind of quotes that can hold it as it is. -/
namespace Foldmark.Toml

def longestRun (quote : Char) (run longest : Nat) : List Char → Nat
  | [] => longest
  | c :: rest =>
    let run := if c = quote then run + 1 else 0
    longestRun quote run (Nat.max longest run) rest

def upperHex (n : Nat) : Char := if n < 10 then Char.ofNat (48 + n) else Char.ofNat (55 + n)

/-- How a character is written between quotes, where `feeds` tells whether a line feed may stand as it
is. -/
def escape (feeds : Bool) (c : Char) : List Char :=
  if c = '\\' then ['\\', '\\']
  else if c = '\t' then ['\\', 't']
  else if c = '\n' then if feeds then ['\n'] else ['\\', 'n']
  else if c = '\r' then ['\\', 'r']
  else if c.toNat = 8 then ['\\', 'b']
  else if c.toNat = 12 then ['\\', 'f']
  else if isControl c then
    ['\\', 'u', '0', '0', upperHex (c.toNat / 16), upperHex (c.toNat % 16)]
  else [c]

/-- The characters of a text between quotes; a quote is escaped where `most` stand before it. -/
def escapeAll (feeds : Bool) (most : Nat) (run : Nat) : List Char → List Char
  | [] => []
  | '"' :: rest =>
    if run < most then '"' :: escapeAll feeds most (run + 1) rest
    else '\\' :: '"' :: escapeAll feeds most 0 rest
  | c :: rest => escape feeds c ++ escapeAll feeds most 0 rest

/-- A text between single quotes or between double ones, on one line or over many. -/
def basic (s : List Char) : List Char := '"' :: escapeAll false 0 0 s ++ ['"']

def literal (s : List Char) : List Char := '\'' :: s ++ ['\'']

/-- The break after the opening quotes, which is no part of the text. -/
def leadingBreak (s : List Char) : List Char := if s.contains '\n' then ['\n'] else []

def basicLines (s : List Char) : List Char :=
  ['"', '"', '"'] ++ leadingBreak s ++ escapeAll true 2 0 s ++ ['"', '"', '"']

def literalLines (s : List Char) : List Char :=
  ['\'', '\'', '\''] ++ leadingBreak s ++ s ++ ['\'', '\'', '\'']

def textChars (s : List Char) : List Char :=
  let controls := s.any fun c => isControl c && c ≠ '\n'
  let feeds := s.contains '\n'
  let doubles := longestRun '"' 0 0 s
  let singles := longestRun '\'' 0 0 s
  if !controls && !s.contains '\\' && doubles = 0 && !feeds then basic s
  else if !controls && singles = 0 && !feeds then literal s
  else if !controls && !s.contains '\\' && doubles ≤ 2 then basicLines s
  else if !controls && singles ≤ 2 then literalLines s
  else if feeds then basicLines s
  else basic s

def text (s : String) : String := String.ofList (textChars s.toList)

def keyPart (name : String) : String :=
  let s := name.toList
  if !s.isEmpty && s.all isBareKey then name
  else
    let controls := s.any isControl
    String.ofList <|
      if !controls && !s.contains '\\' && !s.contains '"' then basic s
      else if !controls && !s.contains '\'' then literal s
      else basic s

def isTable : Value → Bool
  | .table _ => true
  | _ => false

def hasHeader : Value → Bool
  | .table _ => true
  | .list (item :: items) => (item :: items).all isTable
  | _ => false

def inline : Value → String
  | .bool b => if b then "true" else "false"
  | .int n => toString n
  | .str s => text s
  | .plain s => text s
  | .list items => "[" ++ ", ".intercalate (inlineItems items) ++ "]"
  | .table [] => "\x7b\x7d"
  | .table fields => "\x7b " ++ ", ".intercalate (inlineFields fields) ++ " \x7d"
  | .null => text ""
  | .other => text ""
  | .invalid => text ""
  | .tagged _ v => inline v
where
  inlineItems : List Value → List String
    | [] => []
    | item :: rest => inline item :: inlineItems rest
  inlineFields : List (String × Value) → List String
    | [] => []
    | (name, value) :: rest =>
      (keyPart name ++ " = " ++ inline value) :: inlineFields rest

def fieldLines (fields : List (String × Value)) : String :=
  String.join ((fields.filter fun e => !hasHeader e.2).map fun e =>
    keyPart e.1 ++ " = " ++ inline e.2 ++ "\n")

def pathText (path : List String) : String := ".".intercalate (path.map keyPart)

/-- The table of a path with its header. A table that holds nothing but further tables needs none. -/
def tableLines (path : List String) (fields : List (String × Value)) : List String :=
  if fields.isEmpty || fields.any fun e => !hasHeader e.2 then
    ["[" ++ pathText path ++ "]\n" ++ fieldLines fields]
  else []

mutual

/-- The parts of a document that stand under headers, in their order. -/
def sections (path : List String) : List (String × Value) → List String
  | [] => []
  | (name, .table fields) :: rest =>
    tableLines (path ++ [name]) fields ++ sections (path ++ [name]) fields ++ sections path rest
  | (name, .list items) :: rest =>
    (if hasHeader (.list items) then tablesSections (path ++ [name]) items else []) ++
      sections path rest
  | _ :: rest => sections path rest

/-- The tables that stand under one header in two brackets each. -/
def tablesSections (path : List String) : List Value → List String
  | [] => []
  | .table fields :: rest =>
    (("[[" ++ pathText path ++ "]]\n" ++ fieldLines fields) :: sections path fields) ++
      tablesSections path rest
  | _ :: rest => tablesSections path rest

end

def write : Value → String
  | .table fields =>
    let first := fieldLines fields
    "\n".intercalate ((if first.isEmpty then [] else [first]) ++ sections [] fields)
  | _ => ""

end Foldmark.Toml
