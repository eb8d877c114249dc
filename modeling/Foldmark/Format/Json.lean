import Foldmark.Text.CaseFold
import Foldmark.Text.Number
import Foldmark.Value.Basic

/-! JSON. The reader takes exactly the grammar and keeps repeated fields. Numbers that no double can hold
and texts with half of a surrogate pair are read as invalid, which matters only where they are used.
The printers write fields on lines of their own, or everything on one line. -/
namespace Foldmark.Json

open CaseFold (hexDigit?)

def isBlank (c : Char) : Bool := c = ' ' || c = '\t' || c = '\n' || c = '\r'

def skipBlanks (s : List Char) : List Char := s.dropWhile isBlank

def readUnit (a b c d : Char) : Option Nat := do
  return (((← hexDigit? a) * 16 + (← hexDigit? b)) * 16 + (← hexDigit? c)) * 16 + (← hexDigit? d)

def isHighSurrogate (unit : Nat) : Bool := 0xD800 ≤ unit && unit < 0xDC00

def isLowSurrogate (unit : Nat) : Bool := 0xDC00 ≤ unit && unit < 0xE000

def escaped? : Char → Option Char
  | '"' => some '"'
  | '\\' => some '\\'
  | '/' => some '/'
  | 'b' => some (Char.ofNat 8)
  | 'f' => some (Char.ofNat 12)
  | 'n' => some '\n'
  | 'r' => some '\r'
  | 't' => some '\t'
  | _ => none

/-- The unit that an escape at the front writes, if it is the second one of a pair. -/
def lowSurrogate? : List Char → Option Nat
  | '\\' :: 'u' :: a :: b :: c :: d :: _ => (readUnit a b c d).filter isLowSurrogate
  | _ => none

/-- Reads the rest of a text up to the quote that ends it. What was read is in `done`, newest first,
unless there is half of a surrogate pair in it, which leaves no text. -/
def readText (done : Option (List Char)) : List Char → Option (Option String × List Char)
  | [] => none
  | '"' :: rest => some (done.map fun chars => String.ofList chars.reverse, rest)
  | '\\' :: 'u' :: a :: b :: c :: d :: rest => do
    let unit ← readUnit a b c d
    if isHighSurrogate unit then
      match lowSurrogate? rest with
      | some low =>
        let c := Char.ofNat (0x10000 + (unit - 0xD800) * 0x400 + (low - 0xDC00))
        readText (done.map (c :: ·)) (rest.drop 6)
      | none => readText none rest
    else if isLowSurrogate unit then readText none rest
    else readText (done.map (Char.ofNat unit :: ·)) rest
  | '\\' :: c :: rest => do
    let c ← escaped? c
    readText (done.map (c :: ·)) rest
  | c :: rest => if c.toNat < 0x20 then none else readText (done.map (c :: ·)) rest
termination_by s => s.length

def textValue : Option String → Value
  | some text => .str text
  | none => .invalid

/-- The whole numbers that are kept as such; others become doubles. -/
def isWord (n : Int) : Bool := -Nat.pow 2 63 ≤ n && n < Nat.pow 2 64

def readExponent (s : List Char) : Option (Option Int × List Char) :=
  match s with
  | e :: rest =>
    if e = 'e' || e = 'E' then
      let digits := Number.dropSign rest
      if (digits.takeWhile Char.isDigit).isEmpty then none
      else
        let sign := rest.take (rest.length - digits.length)
        some (some (Number.ofExponent (sign ++ digits.takeWhile Char.isDigit)),
          digits.dropWhile Char.isDigit)
    else some (none, s)
  | [] => some (none, [])

def readFraction (s : List Char) : Option (Option (List Char) × List Char) :=
  match s with
  | '.' :: rest =>
    let digits := rest.takeWhile Char.isDigit
    if digits.isEmpty then none else some (some digits, rest.dropWhile Char.isDigit)
  | _ => some (none, s)

def readNumber (s : List Char) : Option (Value × List Char) := do
  let (negative, s) :=
    match s with
    | '-' :: rest => (true, rest)
    | _ => (false, s)
  let whole := s.takeWhile Char.isDigit
  if whole.isEmpty || (whole.head? = some '0' && 1 < whole.length) then none
  let (fraction, rest) ← readFraction (s.dropWhile Char.isDigit)
  let (exponent, rest) ← readExponent rest
  let digits := Number.ofDigits (whole ++ fraction.getD [])
  let scale := exponent.getD 0 - ((fraction.getD []).length : Int)
  if Number.exceedsDouble digits scale then return (.invalid, rest)
  let value : Int := if negative then -digits else digits
  let isWhole := fraction.isNone && exponent.isNone && isWord value && !(negative && digits = 0)
  return (if isWhole then .int value else .other, rest)

mutual

def readValue : Nat → List Char → Option (Value × List Char)
  | 0, _ => none
  | fuel + 1, s =>
    match skipBlanks s with
    | '"' :: rest => (readText (some []) rest).map fun (text, rest) => (textValue text, rest)
    | '[' :: rest =>
      match skipBlanks rest with
      | ']' :: rest => some (.list [], rest)
      | rest => readItems fuel [] rest
    | '{' :: rest =>
      match skipBlanks rest with
      | '}' :: rest => some (.table [], rest)
      | rest => readFields fuel [] rest
    | 'n' :: 'u' :: 'l' :: 'l' :: rest => some (.null, rest)
    | 't' :: 'r' :: 'u' :: 'e' :: rest => some (.bool true, rest)
    | 'f' :: 'a' :: 'l' :: 's' :: 'e' :: rest => some (.bool false, rest)
    | rest => readNumber rest

/-- Reads the rest of a list, which has one more item; `done` holds the items read, newest first. -/
def readItems : Nat → List Value → List Char → Option (Value × List Char)
  | 0, _, _ => none
  | fuel + 1, done, s => do
    let (item, rest) ← readValue fuel s
    match skipBlanks rest with
    | ',' :: rest => readItems fuel (item :: done) rest
    | ']' :: rest => some (.list (item :: done).reverse, rest)
    | _ => none

/-- Reads the rest of a table, which has one more field; `done` holds the fields read, newest
first. -/
def readFields : Nat → List (Option String × Value) → List Char → Option (Value × List Char)
  | 0, _, _ => none
  | fuel + 1, done, s =>
    match skipBlanks s with
    | '"' :: rest => do
      let (name, rest) ← readText (some []) rest
      match skipBlanks rest with
      | ':' :: rest =>
        let (value, rest) ← readValue fuel rest
        match skipBlanks rest with
        | ',' :: rest => readFields fuel ((name, value) :: done) rest
        | '}' :: rest => some (.ofFields ((name, value) :: done).reverse, rest)
        | _ => none
      | _ => none
    | _ => none

end

/-- Reads a document. Of two calls in a row one has consumed a character. -/
def read? (text : String) : Option Value := do
  let s := text.toList
  let (value, rest) ← readValue (2 * s.length + 1) s
  if (skipBlanks rest).isEmpty then some value else none

def hexChar (n : Nat) : Char := if n < 10 then Char.ofNat (48 + n) else Char.ofNat (87 + n)

def escape (c : Char) : List Char :=
  if c = '"' then ['\\', '"']
  else if c = '\\' then ['\\', '\\']
  else if c = '\n' then ['\\', 'n']
  else if c = '\r' then ['\\', 'r']
  else if c = '\t' then ['\\', 't']
  else if c.toNat = 8 then ['\\', 'b']
  else if c.toNat = 12 then ['\\', 'f']
  else if c.toNat < 0x20 then ['\\', 'u', '0', '0', hexChar (c.toNat / 16), hexChar (c.toNat % 16)]
  else [c]

def quote (text : String) : String :=
  String.ofList ('"' :: text.toList.flatMap escape ++ ['"'])

def indentation (depth : Nat) : String := String.ofList (List.replicate (2 * depth) ' ')

def pretty (depth : Nat) : Value → String
  | .null => "null"
  | .other => "null"
  | .invalid => "null"
  | .bool b => if b then "true" else "false"
  | .int n => toString n
  | .plain s => quote s
  | .str s => quote s
  | .list [] => "[]"
  | .list items =>
    "[\n" ++ ",\n".intercalate (prettyItems (depth + 1) items) ++ "\n" ++ indentation depth ++ "]"
  | .table [] => "\x7b\x7d"
  | .table fields =>
    "\x7b\n" ++ ",\n".intercalate (prettyFields (depth + 1) fields) ++ "\n" ++ indentation depth ++
      "\x7d"
  | .tagged _ v => pretty depth v
where
  prettyItems (depth : Nat) : List Value → List String
    | [] => []
    | item :: rest => (indentation depth ++ pretty depth item) :: prettyItems depth rest
  prettyFields (depth : Nat) : List (String × Value) → List String
    | [] => []
    | (name, value) :: rest =>
      (indentation depth ++ quote name ++ ": " ++ pretty depth value) :: prettyFields depth rest

def write (v : Value) : String := pretty 0 v

def writeLine : Value → String
  | .null => "null"
  | .other => "null"
  | .invalid => "null"
  | .bool b => if b then "true" else "false"
  | .int n => toString n
  | .plain s => quote s
  | .str s => quote s
  | .list items => "[" ++ ",".intercalate (lineItems items) ++ "]"
  | .table fields => "\x7b" ++ ",".intercalate (lineFields fields) ++ "\x7d"
  | .tagged _ v => writeLine v
where
  lineItems : List Value → List String
    | [] => []
    | item :: rest => writeLine item :: lineItems rest
  lineFields : List (String × Value) → List String
    | [] => []
    | (name, value) :: rest => (quote name ++ ":" ++ writeLine value) :: lineFields rest

end Foldmark.Json
