import Foldmark.Format.Yaml.Cursor
import Foldmark.Value.Settle

/-! Values as YAML: one field or item on a line, collections by indentation. A text is written plainly if
it reads back as itself, and otherwise in quotes or as a block of lines. -/
namespace Foldmark.Yaml

inductive Form
  | plain | single | double | literal
deriving DecidableEq, Repr

def isPrintable (c : Char) : Bool :=
  let n := c.toNat
  n = 0x0A || (0x20 ≤ n && n ≤ 0x7E) || (0xA0 ≤ n && n ≠ 0xFEFF && n ≠ 0xFFFE && n ≠ 0xFFFF)

def isBlankOrEnd : Option Char → Bool
  | none => true
  | some c => isBlank c || isBreak c

/-- Whether a character means something else than itself between two others in a plain text. -/
def isIndicator (before : Option Char) (c : Char) (after : Option Char) : Bool :=
  match before with
  | none =>
    "#,[]\x7b\x7d&*!|>'\"%@`".toList.contains c ||
      ((c = '?' || c = ':' || c = '-') && isBlankOrEnd after)
  | some b => (c = ':' && isBlankOrEnd after) || (c = '#' && (isBlank b || isBreak b))

/-- Whether a condition holds for some character and its neighbours. -/
def anyBetween (p : Option Char → Char → Option Char → Bool) (before : Option Char) :
    List Char → Bool
  | [] => false
  | c :: rest => p before c rest.head? || anyBetween p (some c) rest

structure Traits where
  hasBreaks : Bool
  plain : Bool
  single : Bool
  literal : Bool

def Traits.ofChars (s : List Char) : Traits :=
  let any (p : Option Char → Char → Option Char → Bool) : Bool := anyBetween p none s
  let hasBreaks := s.any isBreak
  let isEdge (c : Option Char) : Bool := (c.map fun c => c = ' ' || isBreak c).getD false
  let special := !s.all isPrintable
  let breakSpace := any fun before c _ => c = ' ' && (before.map isBreak).getD false
  let spaceBreak := any fun before c _ => isBreak c && before = some ' '
  let marked := ['-', '-', '-'].isPrefixOf s || ['.', '.', '.'].isPrefixOf s
  { hasBreaks
    plain := !(hasBreaks || isEdge s.head? || isEdge s.getLast? || special || marked ||
      any isIndicator)
    single := !(breakSpace || spaceBreak || special)
    literal := !(s.isEmpty || s.getLast? = some ' ' || spaceBreak || special) }

/-- The form of a text; `simple` tells whether it is a key that stands before its colon. -/
def formOf (simple : Bool) (text : String) : Form :=
  let s := text.toList
  let traits := Traits.ofChars s
  if s.contains '\n' then
    if traits.literal && !simple then .literal else .double
  else if simple && traits.hasBreaks then .double
  else if Scalar.isText text && !Scalar.isPaddedDigits s && traits.plain then .plain
  else if traits.single then .single
  else .double

def spaces (count : Nat) : List Char := List.replicate count ' '

def upperHex (n : Nat) : Char := if n < 10 then Char.ofNat (48 + n) else Char.ofNat (55 + n)

def hexDigits : Nat → Nat → List Char
  | 0, _ => []
  | count + 1, n => hexDigits count (n / 16) ++ [upperHex (n % 16)]

def escape (c : Char) : List Char :=
  let n := c.toNat
  if c = '"' || c = '\\' then ['\\', c]
  else if isPrintable c && !isBreak c then [c]
  else
    match n with
    | 0x00 => ['\\', '0']
    | 0x07 => ['\\', 'a']
    | 0x08 => ['\\', 'b']
    | 0x09 => ['\\', 't']
    | 0x0A => ['\\', 'n']
    | 0x0B => ['\\', 'v']
    | 0x0C => ['\\', 'f']
    | 0x0D => ['\\', 'r']
    | 0x1B => ['\\', 'e']
    | 0x85 => ['\\', 'N']
    | 0x2028 => ['\\', 'L']
    | 0x2029 => ['\\', 'P']
    | _ =>
      if n ≤ 0xFF then '\\' :: 'x' :: hexDigits 2 n
      else if n ≤ 0xFFFF then '\\' :: 'u' :: hexDigits 4 n
      else '\\' :: 'U' :: hexDigits 8 n

/-- The characters of a text with every line after a break indented. -/
def indentLines (indent : Nat) (afterBreak : Bool) : List Char → List Char
  | [] => []
  | c :: rest =>
    if isBreak c then c :: indentLines indent true rest
    else (if afterBreak then spaces indent else []) ++ c :: indentLines indent false rest

/-- The signs after the bar of a block: where its first line begins with a blank or is empty, how far
it is indented, and what is kept of the breaks at its end. -/
def blockSigns (s : List Char) : List Char :=
  let first :=
    match s.head? with
    | some c => if c = ' ' || isBreak c then ['2'] else []
    | none => []
  let last :=
    match s.reverse with
    | [] => ['-']
    | c :: before =>
      if !isBreak c then ['-']
      else
        match before with
        | [] => ['+']
        | b :: _ => if isBreak b then ['+'] else []
  first ++ last

/-- A text in some form, without the break of its last line; further lines are indented. -/
def formText (form : Form) (indent : Nat) (text : String) : String :=
  let s := text.toList
  match form with
  | .plain => text
  | .single =>
    let doubled := s.flatMap fun c => if c = '\'' then ['\'', '\''] else [c]
    let final := if (s.getLast?.map isBreak).getD false then spaces indent else []
    String.ofList ('\'' :: indentLines indent false doubled ++ final ++ ['\''])
  | .double => String.ofList ('"' :: s.flatMap escape ++ ['"'])
  | .literal =>
    let body := if s.getLast? = some '\n' then s.dropLast else s
    String.ofList ('|' :: blockSigns s ++ '\n' :: indentLines indent true body)

/-- A scalar on the lines after an indentation, without the break of its last line. -/
def scalarText (indent : Nat) : Value → String
  | .bool b => if b then "true" else "false"
  | .int n => toString n
  | .str s => formText (formOf false s) (indent + 2) s
  | .plain s => s
  | .list _ => "[]"
  | .table _ => "\x7b\x7d"
  | _ => "null"

def pad (indent : Nat) : String := String.ofList (spaces indent)

/-- Whether a key can stand before its colon: it is one line, and not a long one. -/
def isSimpleKey (name : String) : Bool := !name.toList.any isBreak && name.utf8ByteSize ≤ 128

/-- Lines that begin at an indentation, the first of which is already indented. -/
def lines (indent : Nat) (parts : List String) : String := (pad indent).intercalate parts

mutual

/-- What follows a hyphen or a colon on its line and on the lines after it, where further fields or
items stand at an indentation. -/
def nodeText (indent : Nat) : Value → String
  | .list (item :: items) => lines indent (itemTexts indent (item :: items))
  | .table (field :: fields) => lines indent (fieldTexts indent (field :: fields))
  | v => scalarText (indent - 2) v ++ "\n"

/-- What follows the colon of a field at an indentation. Items stand at the indentation of their
field, and fields further on. -/
def valueText (indent : Nat) : Value → String
  | .list (item :: items) =>
    "\n" ++ pad indent ++ lines indent (itemTexts indent (item :: items))
  | .table (field :: fields) =>
    "\n" ++ pad (indent + 2) ++ lines (indent + 2) (fieldTexts (indent + 2) (field :: fields))
  | v => " " ++ scalarText indent v ++ "\n"

def itemTexts (indent : Nat) : List Value → List String
  | [] => []
  | item :: rest => ("- " ++ nodeText (indent + 2) item) :: itemTexts indent rest

def fieldTexts (indent : Nat) : List (String × Value) → List String
  | [] => []
  | (name, value) :: rest =>
    (if isSimpleKey name then
      formText (formOf true name) (indent + 2) name ++ ":" ++ valueText indent value
    else
      "? " ++ formText (formOf false name) (indent + 2) name ++ "\n" ++ pad indent ++ ": " ++
        nodeText (indent + 2) value) :: fieldTexts indent rest

end

def write : Value → String
  | .list (item :: items) => lines 0 (itemTexts 0 (item :: items))
  | .table (field :: fields) => lines 0 (fieldTexts 0 (field :: fields))
  | v => scalarText 0 v ++ "\n"

end Foldmark.Yaml
