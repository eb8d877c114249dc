import Foldmark.Text.CaseFold
import Foldmark.Text.Number
import Foldmark.Value.Basic

/-! The type that an unquoted scalar has, and values with every scalar's type settled, which are the
values that settings are read from. -/
namespace Foldmark

namespace Scalar

open Number (dropSign)

def isSigned : List Char → Bool
  | '+' :: _ => true
  | '-' :: _ => true
  | _ => false

def isPaddedDigits (s : List Char) : Bool :=
  match dropSign s with
  | '0' :: rest => !rest.isEmpty && rest.all Char.isDigit
  | _ => false

/-- The value of the digits of a base, if there are any and all are digits. -/
def readDigits (base : Nat) (digits : List Char) : Option Nat :=
  if digits.isEmpty then none
  else
    digits.foldlM (fun n c => do
      let d ← CaseFold.hexDigit? c
      if d < base then some (n * base + d) else none) 0

/-- The value of digits of a base after its two-letter mark, which must fit 128 bits. -/
def based? (s : List Char) : Option Nat :=
  let value :=
    match s with
    | '0' :: 'x' :: rest => readDigits 16 rest
    | '0' :: 'o' :: rest => readDigits 8 rest
    | '0' :: 'b' :: rest => readDigits 2 rest
    | _ => none
  value.filter (· < Nat.pow 2 128)

/-- Decimal digits with at most one point, and digits before or after it. -/
def isMantissa (s : List Char) : Bool :=
  let rest := s.dropWhile Char.isDigit
  match rest with
  | [] => !s.isEmpty
  | '.' :: fraction =>
    fraction.all Char.isDigit && (!fraction.isEmpty || rest.length < s.length)
  | _ => false

/-- A decimal number that a double can hold, with or without a fraction and an exponent. -/
def isDecimal (s : List Char) : Bool :=
  let isMark (c : Char) : Bool := c = 'e' || c = 'E'
  let mantissa := s.takeWhile (!isMark ·)
  let fraction := (mantissa.dropWhile (· ≠ '.')).drop 1
  let fits (exponent : Int) : Bool :=
    !Number.exceedsDouble (Number.ofDigits (mantissa.filter (· ≠ '.'))) (exponent - fraction.length)
  match s.dropWhile (!isMark ·) with
  | [] => isMantissa mantissa && fits 0
  | _ :: exponent =>
    let digits := dropSign exponent
    isMantissa mantissa && !digits.isEmpty && digits.all Char.isDigit &&
      fits (Number.ofExponent exponent)

/-- Whether an unquoted scalar is infinite or no number by name. -/
def isNonFinite (s : List Char) : Bool :=
  let bare := dropSign s
  (!isSigned bare && String.ofList bare ∈ [".inf", ".Inf", ".INF"]) ||
    String.ofList s ∈ [".nan", ".NaN", ".NAN"]

def isNumber (s : List Char) : Bool :=
  let bare := dropSign s
  (!isSigned bare && ((based? bare).isSome || (!isPaddedDigits s && isDecimal bare))) ||
    isNonFinite s

/-- The whole number that an unquoted scalar writes, if it writes one. -/
def whole? (s : List Char) : Option Int :=
  let bare := dropSign s
  let size :=
    if isSigned bare then none
    else (based? bare).or (readDigits 10 bare)
  if isPaddedDigits s then none else size.map fun n => if s.head? = some '-' then -n else n

def isText (s : String) : Bool :=
  !Value.isNullText s && (Value.boolOfText? s).isNone && !isNumber s.toList

/-- The whole number that decimal digits write in the only usual way. -/
def canonicalInt? (s : List Char) : Option Int :=
  let digits := match s with
    | '-' :: rest => rest
    | s => s
  let value : Int := Number.ofDigits digits
  let number := if s.head? = some '-' then -value else value
  if digits.all Char.isDigit && (toString number).toList = s then some number else none

end Scalar

namespace Value

/-- The value of an unquoted scalar. Where its type leaves open how it was written, it is kept as
written. -/
def ofScalar (s : String) : Value :=
  if Scalar.isText s then .str s
  else if s = "null" then .null
  else if s = "true" then .bool true
  else if s = "false" then .bool false
  else
    match Scalar.canonicalInt? s.toList with
    | some n => .int n
    | none => .plain s

/-- Puts a field among fields that are ordered by name, in the place of one with the same name. -/
def putField (name : String) (value : Value) : List (String × Value) → List (String × Value)
  | [] => [(name, value)]
  | (n, v) :: rest =>
    if name < n then (name, value) :: (n, v) :: rest
    else if n < name then (n, v) :: putField name value rest
    else (name, value) :: rest

/-- The value with the type of every scalar settled and the fields of every table ordered by name; of
fields with one name the last one counts. -/
def settle : Value → Value
  | .plain s =>
    if isNullText s || Scalar.isNonFinite s.toList then .null
    else
      match boolOfText? s with
      | some b => .bool b
      | none => if Scalar.isNumber s.toList then .other else .str s
  | .list items => .list (settleItems items)
  | .table fields =>
    .table ((settleFields fields).foldl (fun sorted e => putField e.1 e.2 sorted) [])
  | .tagged _ v => settle v
  | v => v
where
  settleItems : List Value → List Value
    | [] => []
    | item :: rest => settle item :: settleItems rest
  settleFields : List (String × Value) → List (String × Value)
    | [] => []
    | (name, value) :: rest => (name, settle value) :: settleFields rest

def depth : Value → Nat
  | .list items => depthItems items + 1
  | .table fields => depthFields fields + 1
  | .tagged _ v => depth v
  | _ => 0
where
  depthItems : List Value → Nat
    | [] => 0
    | item :: rest => max (depth item) (depthItems rest)
  depthFields : List (String × Value) → Nat
    | [] => 0
    | (_, value) :: rest => max (depth value) (depthFields rest)

/-- Whether a whole number fits a word, or is so large that it is kept as a double. -/
def isHoldable (n : Int) : Bool :=
  let fits (negative size : Nat) : Bool := -Nat.pow 2 negative ≤ n && n < Nat.pow 2 size
  fits 63 64 || !fits 127 128

/-- Whether every part of a value is what settings may hold: nothing invalid, no type by name, and no
whole number between those that fit a word and those that are kept as doubles. -/
def isPlainData : Value → Bool
  | .invalid => false
  | .tagged _ _ => false
  | .int n => isHoldable n
  | .plain s => ((Scalar.whole? s.toList).map isHoldable).getD true
  | .list items => isPlainItems items
  | .table fields => isPlainFields fields
  | _ => true
where
  isPlainItems : List Value → Bool
    | [] => true
    | item :: rest => isPlainData item && isPlainItems rest
  isPlainFields : List (String × Value) → Bool
    | [] => true
    | (_, value) :: rest => isPlainData value && isPlainFields rest

end Value

end Foldmark
