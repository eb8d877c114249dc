import Foldmark.Text.CaseFold
import Foldmark.Text.Number
import Foldmark.Value.Basic

/-! Scalars and keys of TOML: the four kinds of quoted text, bare keys, numbers, switches, dates and
times. -/
namespace Foldmark.Toml

def isBlank (c : Char) : Bool := c = ' ' || c = '\t'

def skipBlanks (s : List Char) : List Char := s.dropWhile isBlank

/-- A control character, which may not stand as it is in a text or a comment. -/
def isControl (c : Char) : Bool := (c.toNat < 0x20 && c ≠ '\t') || c.toNat = 0x7F

def isBareKey (c : Char) : Bool := c.isAlphanum || c = '_' || c = '-'

def escaped? : Char → Option Char
  | 'b' => some (Char.ofNat 8)
  | 't' => some '\t'
  | 'n' => some '\n'
  | 'f' => some (Char.ofNat 12)
  | 'r' => some '\r'
  | '"' => some '"'
  | '\\' => some '\\'
  | _ => none

def codeChar? (digits : List Char) : Option Char := do
  let code ← digits.foldlM (fun n c => (CaseFold.hexDigit? c).map (n * 16 + ·)) 0
  if (0xD800 ≤ code && code ≤ 0xDFFF) || 0x10FFFF < code then none else some (Char.ofNat code)

def readCode (count : Nat) (s : List Char) : Option (Char × List Char) := do
  let digits := s.take count
  if digits.length < count then none else return (← codeChar? digits, s.drop count)

def readEscape : List Char → Option (Char × List Char)
  | 'u' :: rest => readCode 4 rest
  | 'U' :: rest => readCode 8 rest
  | c :: rest => (escaped? c).map fun ch => (ch, rest)
  | [] => none

/-- Reads a text on one line after its opening quote; `done` holds what was read, newest first. -/
def readBasic : Nat → List Char → List Char → Option (String × List Char)
  | 0, _, _ => none
  | fuel + 1, done, s =>
    match s with
    | [] => none
    | '"' :: rest => some (String.ofList done.reverse, rest)
    | '\\' :: rest => do
      let (ch, rest) ← readEscape rest
      readBasic fuel (ch :: done) rest
    | c :: rest => if isControl c then none else readBasic fuel (c :: done) rest

/-- Reads a text without escapes on one line after its opening quote. -/
def readLiteral (s : List Char) : Option (String × List Char) :=
  let text := s.takeWhile fun c => c ≠ '\'' && !isControl c
  match s.drop text.length with
  | '\'' :: rest => some (String.ofList text, rest)
  | _ => none

def readBreak? : List Char → Option (List Char)
  | '\n' :: rest => some rest
  | '\r' :: '\n' :: rest => some rest
  | _ => none

def quoteRun (quote : Char) (s : List Char) : Nat := (s.takeWhile (· = quote)).length

def dropSpace : List Char → List Char
  | [] => []
  | '\r' :: '\n' :: rest => dropSpace rest
  | c :: rest => if isBlank c || c = '\n' then dropSpace rest else c :: rest

/-- Reads a text over many lines after its opening quotes. Three to five quotes end it, of which the
last three are its end. A backslash at the end of a line drops the space that follows, and every line
break counts as a line feed. -/
def readLines (quote : Char) : Nat → List Char → List Char → Option (String × List Char)
  | 0, _, _ => none
  | fuel + 1, done, s =>
    let run := quoteRun quote s
    if 3 ≤ run then
      if 5 < run then none
      else
        some (String.ofList (done.reverse ++ List.replicate (run - 3) quote), s.drop run)
    else if 0 < run then readLines quote fuel (List.replicate run quote ++ done) (s.drop run)
    else
      match s with
      | [] => none
      | '\r' :: '\n' :: rest => readLines quote fuel ('\n' :: done) rest
      | '\n' :: rest => readLines quote fuel ('\n' :: done) rest
      | c :: rest =>
        if quote = '"' && c = '\\' then
          if (readBreak? (skipBlanks rest)).isSome then readLines quote fuel done (dropSpace rest)
          else do
            let (ch, rest) ← readEscape rest
            readLines quote fuel (ch :: done) rest
        else if isControl c then none
        else readLines quote fuel (c :: done) rest

/-- Reads a quoted text; `lines` tells whether it may span lines. -/
def readText (lines : Bool) (fuel : Nat) : List Char → Option (String × List Char)
  | '"' :: '"' :: '"' :: rest =>
    if lines then readLines '"' fuel [] ((readBreak? rest).getD rest)
    else some ("", '"' :: rest)
  | '\'' :: '\'' :: '\'' :: rest =>
    if lines then readLines '\'' fuel [] ((readBreak? rest).getD rest)
    else some ("", '\'' :: rest)
  | '"' :: rest => readBasic fuel [] rest
  | '\'' :: rest => readLiteral rest
  | _ => none

def readKeyPart (fuel : Nat) (s : List Char) : Option (String × List Char) :=
  match s with
  | '"' :: _ => readText false fuel s
  | '\'' :: _ => readText false fuel s
  | _ =>
    let name := s.takeWhile isBareKey
    if name.isEmpty then none else some (String.ofList name, s.drop name.length)

def readKey (limit : Nat) : Nat → List Char → Option (List String × List Char)
  | 0, _ => none
  | fuel + 1, s => do
    let (name, rest) ← readKeyPart limit (skipBlanks s)
    match skipBlanks rest with
    | '.' :: rest =>
      let (names, rest) ← readKey limit fuel rest
      return (name :: names, rest)
    | rest => return ([name], rest)

def digitsOf? (isDigit : Char → Bool) (s : List Char) : Option (List Char) :=
  let rec check (afterDigit : Bool) : List Char → Bool
    | [] => afterDigit
    | c :: rest => if c = '_' then afterDigit && check false rest else isDigit c && check true rest
  if check false s then some (s.filter (· ≠ '_')) else none

def baseValue (base : Nat) (digits : List Char) : Nat :=
  digits.foldl (fun n c => n * base + (CaseFold.hexDigit? c).getD 0) 0

def largestInt : Nat := Nat.pow 2 63 - 1

/-- The whole numbers that can be read: those that fit 128 bits, with or without a sign. -/
def isReadable (n : Int) : Bool := -Nat.pow 2 127 ≤ n && n < Nat.pow 2 128

def basedInt? (base : Nat) (isDigit : Char → Bool) (s : List Char) : Option Value := do
  let n : Int := baseValue base (← digitsOf? isDigit s)
  if isReadable n then some (.int n) else none

def wholeDigits? (s : List Char) : Option (List Char) := do
  let digits ← digitsOf? Char.isDigit s
  if digits.head? = some '0' && 1 < digits.length then none else some digits

def decimal? (s : List Char) : Option Value := do
  let isMark (c : Char) : Bool := c = 'e' || c = 'E'
  let bare := Number.dropSign s
  let mantissa := bare.takeWhile (!isMark ·)
  let whole ← wholeDigits? (mantissa.takeWhile (· ≠ '.'))
  let fraction ←
    match mantissa.dropWhile (· ≠ '.') with
    | [] => some []
    | _ :: rest => digitsOf? Char.isDigit rest
  let exponent ←
    match bare.dropWhile (!isMark ·) with
    | [] => some []
    | _ :: rest => digitsOf? Char.isDigit (Number.dropSign rest)
  if fraction.isEmpty && exponent.isEmpty then
    let n : Int := Number.ofDigits whole
    let n := if s.head? = some '-' then -n else n
    if isReadable n then some (.int n) else none
  else
    let sign := (((bare.dropWhile (!isMark ·)).drop 1).head?).toList.filter (· = '-')
    let scale := Number.ofExponent (sign ++ exponent) - fraction.length
    if Number.exceedsDouble (Number.ofDigits (whole ++ fraction)) scale then none else some .other

def takeTwo : List Char → Option (Nat × List Char)
  | a :: b :: rest => if a.isDigit && b.isDigit then some (Number.ofDigits [a, b], rest) else none
  | _ => none

def afterChar? (c : Char) : List Char → Option (List Char)
  | d :: rest => if c = d then some rest else none
  | [] => none

def afterTime? (s : List Char) : Option (List Char) := do
  let (hour, s) ← takeTwo s
  let (minute, s) ← takeTwo (← afterChar? ':' s)
  let (second, s) ← takeTwo (← afterChar? ':' s)
  if 23 < hour || 59 < minute || 60 < second then none
  else
    match s with
    | '.' :: rest =>
      let digits := rest.takeWhile Char.isDigit
      if digits.isEmpty then none else some (rest.drop digits.length)
    | s => some s

def daysOf (year month : Nat) : Nat :=
  if month = 2 then if year % 4 = 0 && (year % 100 ≠ 0 || year % 400 = 0) then 29 else 28
  else if month = 4 || month = 6 || month = 9 || month = 11 then 30
  else 31

def afterDate? (s : List Char) : Option (List Char) := do
  let (century, s) ← takeTwo s
  let (year, s) ← takeTwo s
  let (month, s) ← takeTwo (← afterChar? '-' s)
  let (day, s) ← takeTwo (← afterChar? '-' s)
  if month = 0 || 12 < month || day = 0 || daysOf (century * 100 + year) month < day then none
  else some s

/-- Whether a text is the offset of a time from the universal one. -/
def isOffset (s : List Char) : Bool :=
  match s with
  | ['Z'] => true
  | ['z'] => true
  | sign :: rest =>
    let valid := do
      let (hour, rest) ← takeTwo rest
      let (minute, rest) ← takeTwo (← afterChar? ':' rest)
      some (rest.isEmpty && hour ≤ 23 && minute ≤ 59)
    (sign = '+' || sign = '-') && valid.getD false
  | [] => false

def isMoment (s : List Char) : Bool :=
  match afterDate? s with
  | some [] => true
  | some (separator :: rest) =>
    (separator = 'T' || separator = 't' || separator = ' ') &&
      match afterTime? rest with
      | some [] => true
      | some offset => isOffset offset
      | none => false
  | none => afterTime? s = some []

def isScalarChar (c : Char) : Bool := c.isAlphanum || "_+-.:".toList.contains c

/-- Reads a scalar that is not quoted. Between a date and a time one blank may stand. -/
def readBareScalar (s : List Char) : Option (Value × List Char) := do
  let first := s.takeWhile isScalarChar
  let rest := s.drop first.length
  let (text, rest) :=
    match rest with
    | ' ' :: a :: more =>
      if a.isDigit && afterDate? first = some [] then
        let second := (a :: more).takeWhile isScalarChar
        (first ++ ' ' :: second, (a :: more).drop second.length)
      else (first, rest)
    | _ => (first, rest)
  let value ←
    match text with
    | ['t', 'r', 'u', 'e'] => some (Value.bool true)
    | ['f', 'a', 'l', 's', 'e'] => some (.bool false)
    | '0' :: 'x' :: digits => basedInt? 16 (fun c => (CaseFold.hexDigit? c).isSome) digits
    | '0' :: 'o' :: digits => basedInt? 8 (fun c => '0' ≤ c && c ≤ '7') digits
    | '0' :: 'b' :: digits => basedInt? 2 (fun c => c = '0' || c = '1') digits
    | text =>
      if Number.dropSign text = ['i', 'n', 'f'] || Number.dropSign text = ['n', 'a', 'n'] then
        some .other
      else if isMoment text then some .other
      else decimal? text
  return (value, rest)

end Foldmark.Toml
