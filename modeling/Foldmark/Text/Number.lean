/-! Decimal numbers as text: their digits, and whether a double can hold them. -/
namespace Foldmark.Number

def ofDigits (digits : List Char) : Nat := digits.foldl (fun n c => n * 10 + (c.toNat - 48)) 0

/-- Whether `digits * 10 ^ exponent` is too large for a double: it would be rounded to more than the
largest one. -/
def exceedsDouble (digits : Nat) (exponent : Int) : Bool :=
  let bound := Nat.pow 2 1024 - Nat.pow 2 970
  if digits = 0 then false
  else if 400 < exponent then true
  else if 0 ≤ exponent then bound ≤ digits * Nat.pow 10 exponent.toNat
  else
    let shift := (-exponent).toNat
    if (toString digits).length < shift then false else bound * Nat.pow 10 shift ≤ digits

def dropSign : List Char → List Char
  | '+' :: rest => rest
  | '-' :: rest => rest
  | s => s

def ofExponent (s : List Char) : Int :=
  let value : Int := ofDigits (dropSign s)
  if s.head? = some '-' then -value else value

end Foldmark.Number
