import Foldmark.Pattern.Ast
import Foldmark.Text.CaseFold
import Foldmark.Text.CharClass

/-! Escapes: how a backslash and the characters after it are read, and how a text is written so that
a pattern means it literally. Every reader takes the rest of the source and gives what it read with
what is left. -/
namespace Foldmark.Pattern

inductive PatternError
  /-- The source does not follow the grammar. -/
  | malformed
  /-- Two groups have one name. -/
  | duplicateName
  /-- The pattern nests deeper than `nestLimit`. -/
  | tooDeep
  /-- A class or property is not known, or not available without Unicode. -/
  | unknownClass
  /-- The pattern could match part of a character. -/
  | partialCharacter
  /-- The compiled pattern would exceed `sizeLimit`. -/
  | tooLarge
deriving DecidableEq, Repr

/-- What a reader gives: a value and the rest of the source, or the fault. -/
abbrev Result (α : Type) := Except PatternError α

def malformed {α : Type} : Result α := .error .malformed

def isMeta (c : Char) : Bool :=
  c ∈ ['\\', '.', '+', '*', '?', '(', ')', '|', '[', ']', '{', '}', '^', '$', '#', '&', '-', '~']

/-- The characters that may stand for themselves after a backslash. -/
def isEscapable (c : Char) : Bool :=
  isMeta c || (c.toNat < 128 && !c.isAlphanum && c ≠ '<' && c ≠ '>')

def quote : List Char → List Char
  | [] => []
  | c :: rest => if isMeta c then '\\' :: c :: quote rest else c :: quote rest

def quoteText (text : String) : String := String.ofList (quote text.toList)

def dropComment : List Char → List Char
  | [] => []
  | c :: rest => if c = '\n' then rest else dropComment rest

theorem dropComment_length_le (s : List Char) : (dropComment s).length ≤ s.length := by
  induction s with
  | nil => simp [dropComment]
  | cons c rest ih =>
    simp only [dropComment]; split
    · simp
    · simp only [List.length_cons]; omega

def dropLayout : List Char → List Char
  | [] => []
  | c :: rest =>
    if isBlank c then dropLayout rest
    else if c = '#' then dropLayout (dropComment rest)
    else c :: rest
termination_by s => s.length
decreasing_by
  · simp
  · have := dropComment_length_le rest
    simp only [List.length_cons]; omega

def skip (verbose : Bool) (s : List Char) : List Char := if verbose then dropLayout s else s

theorem dropLayout_length_le (s : List Char) : (dropLayout s).length ≤ s.length := by
  fun_induction dropLayout s with
  | case1 => simp
  | case2 c rest _ ih => simp only [List.length_cons]; omega
  | case3 rest _ ih =>
    have := dropComment_length_le rest
    simp only [List.length_cons]; omega
  | case4 => simp

theorem skip_length_le (verbose : Bool) (s : List Char) : (skip verbose s).length ≤ s.length := by
  unfold skip; split
  · exact dropLayout_length_le s
  · exact Nat.le_refl _

def char? (code : Nat) : Option Char :=
  if code ≤ CharSet.top && !(CharSet.surrogates.lo ≤ code && code ≤ CharSet.surrogates.hi) then
    some (Char.ofNat code)
  else none

def readDigits (verbose : Bool) : Nat → Nat → List Char → Result (Nat × List Char)
  | 0, value, s => .ok (value, s)
  | count + 1, value, c :: s =>
    match CaseFold.hexDigit? c with
    | some d => readDigits verbose count (value * 16 + d) (if count = 0 then s else skip verbose s)
    | none => malformed
  | _ + 1, _, [] => malformed

/-- Takes the characters before the next closing brace, and what stands after it. -/
def readBraced (verbose : Bool) (s : List Char) : Result ((List Char) × List Char) :=
  match _h : skip verbose s with
  | [] => malformed
  | '}' :: rest => .ok ([], rest)
  | c :: rest => do
    let (more, rest) ← readBraced verbose rest
    return (c :: more, rest)
termination_by s.length
decreasing_by
  have := skip_length_le verbose s
  simp only [_h, List.length_cons] at this; omega

/-- Reads what follows the letter of a hexadecimal escape: digits in braces, or a fixed number of
digits. -/
def readHex (verbose : Bool) (count : Nat) (byte : Bool) (s : List Char) : Result (Literal × List Char) :=
  match skip verbose s with
  | [] => malformed
  | '{' :: rest => do
    let (digits, rest) ← readBraced verbose rest
    match digits, digits.mapM CaseFold.hexDigit? with
    | _ :: _, some values =>
      match char? (values.foldl (fun n d => n * 16 + d) 0) with
      | some c => return (⟨c, false⟩, rest)
      | none => malformed
    | _, _ => malformed
  | c :: rest => do
    let (value, rest) ← readDigits verbose count 0 (c :: rest)
    match char? value with
    | some c => return (⟨c, byte⟩, rest)
    | none => malformed

/-- The text before and after the first place where a separator stands. -/
def splitAtFirst (separator : List Char) : List Char → Option (List Char × List Char)
  | [] => none
  | c :: s =>
    if separator.isPrefixOf (c :: s) then some ([], (c :: s).drop separator.length)
    else (splitAtFirst separator s).map fun (before, after) => (c :: before, after)

/-- Reads the inside of the braces of a property class: a name, or a name and a value. -/
def PropertyQuery.ofChars (body : List Char) : PropertyQuery :=
  let split := (splitAtFirst ['!', '='] body).or
    ((splitAtFirst [':'] body).or (splitAtFirst ['='] body))
  match split with
  | some (name, value) => .valued (String.ofList name) (String.ofList value)
  | none => .named (String.ofList body)

/-- Reads what follows the letter of a property class: a name in braces, or one letter. -/
def readProperty (verbose : Bool) (s : List Char) : Result (PropertyQuery × List Char) :=
  match skip verbose s with
  | [] => malformed
  | '{' :: rest => do
    let (body, rest) ← readBraced verbose rest
    return (.ofChars body, rest)
  | '\\' :: _ => malformed
  | c :: rest => .ok (.named (String.singleton c), rest)

def isAnchorLetter (c : Char) : Bool := c.isAlpha || c = '-'

/-- Reads the letters of an anchor's name up to the closing brace. -/
def readAnchorName (verbose : Bool) (s : List Char) : Result ((List Char) × List Char) :=
  match s with
  | '}' :: rest => .ok ([], rest)
  | c :: rest =>
    if isAnchorLetter c then do
      let (more, rest) ← readAnchorName verbose (skip verbose rest)
      return (c :: more, rest)
    else malformed
  | [] => malformed
termination_by s.length
decreasing_by
  have := skip_length_le verbose rest
  simp only [List.length_cons]; omega

/-- Reads what may follow a word boundary: the name of a special boundary in braces. Braces that do
not begin with a letter or hyphen are left alone. -/
def readBoundary (verbose : Bool) (s : List Char) : Result (Anchor × List Char) :=
  match s with
  | '{' :: rest =>
    match skip verbose rest with
    | [] => malformed
    | c :: inner =>
      if isAnchorLetter c then do
        let (name, after) ← readAnchorName verbose (c :: inner)
        match String.ofList name with
        | "start" => return (.wordStart, after)
        | "end" => return (.wordEnd, after)
        | "start-half" => return (.wordStartHalf, after)
        | "end-half" => return (.wordEndHalf, after)
        | _ => malformed
      else .ok (.wordBoundary, s)
  | _ => .ok (.wordBoundary, s)

def readEscape (verbose : Bool) (s : List Char) : Result (Ast × List Char) := do
  let plain (c : Char) : Ast := .literal ⟨c, false⟩
  match s with
  | [] => malformed
  | 'x' :: rest => let (lit, rest) ← readHex verbose 2 true rest; return (.literal lit, rest)
  | 'u' :: rest => let (lit, rest) ← readHex verbose 4 false rest; return (.literal lit, rest)
  | 'U' :: rest => let (lit, rest) ← readHex verbose 8 false rest; return (.literal lit, rest)
  | 'p' :: rest => let (query, rest) ← readProperty verbose rest; return (.property query false, rest)
  | 'P' :: rest => let (query, rest) ← readProperty verbose rest; return (.property query true, rest)
  | 'd' :: rest => return (.named .digit false, rest)
  | 'D' :: rest => return (.named .digit true, rest)
  | 's' :: rest => return (.named .blank false, rest)
  | 'S' :: rest => return (.named .blank true, rest)
  | 'w' :: rest => return (.named .word false, rest)
  | 'W' :: rest => return (.named .word true, rest)
  | 'a' :: rest => return (plain (Char.ofNat 7), rest)
  | 'f' :: rest => return (plain (Char.ofNat 12), rest)
  | 't' :: rest => return (plain '\t', rest)
  | 'n' :: rest => return (plain '\n', rest)
  | 'r' :: rest => return (plain '\r', rest)
  | 'v' :: rest => return (plain (Char.ofNat 11), rest)
  | 'A' :: rest => return (.anchor .textStart, rest)
  | 'z' :: rest => return (.anchor .textEnd, rest)
  | 'b' :: rest => let (kind, rest) ← readBoundary verbose rest; return (.anchor kind, rest)
  | 'B' :: rest => return (.anchor .notWordBoundary, rest)
  | '<' :: rest => return (.anchor .wordStart, rest)
  | '>' :: rest => return (.anchor .wordEnd, rest)
  | c :: rest => if isEscapable c then return (plain c, rest) else malformed

end Foldmark.Pattern
