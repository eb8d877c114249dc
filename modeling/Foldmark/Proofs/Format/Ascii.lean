import Foldmark.Proofs.Config.Record

/-! Reading back a text of ASCII characters. Such a text has one byte for each character, so it can be read by
its bytes, with no need to decode them. -/
namespace Foldmark

namespace Ascii

def bytes (text : String) : List UInt8 := text.toByteArray.data.toList

def chars (bytes : List UInt8) : List Char := bytes.map fun byte => Char.ofNat byte.toNat

theorem utf8EncodeChar_ofNat : ∀ n < 128, String.utf8EncodeChar (Char.ofNat n) = [UInt8.ofNat n] := by
  decide

theorem flatMap_chars {bytes : List UInt8} (single : ∀ byte ∈ bytes, byte.toNat < 128) :
    (chars bytes).flatMap String.utf8EncodeChar = bytes := by
  rw [chars, List.flatMap_map]
  induction bytes with
  | nil => rfl
  | cons byte rest ih =>
    obtain ⟨own, others⟩ := List.forall_mem_cons.mp single
    rw [List.flatMap_cons, ih others, utf8EncodeChar_ofNat _ own, UInt8.ofNat_toNat, List.singleton_append]

theorem toList_eq_chars {text : String} (single : ∀ byte ∈ bytes text, byte.toNat < 128) :
    text.toList = chars (bytes text) := by
  have same : String.ofList (chars (bytes text)) = text := by
    apply String.toByteArray_inj.mp
    rw [String.toByteArray_ofList, List.utf8Encode, flatMap_chars single]
    apply ByteArray.ext
    rw [List.data_toByteArray, bytes, Array.toArray_toList]
  conv_lhs => rw [← same, String.toList_ofList]

end Ascii

def Json.readChars? (s : List Char) : Option Value := do
  let (value, rest) ← readValue (2 * s.length + 1) s
  if (skipBlanks rest).isEmpty then some value else none

def Yaml.tokensOfChars? (text : List Char) : Option (List Token) := do
  let chars :=
    match text with
    | c :: rest => if c.toNat = 0xFEFF then rest else c :: rest
    | [] => []
  if !chars.all isAllowed then none
  let limit := chars.length + 2
  let tokens ← Scanner.run limit limit { cursor := { rest := chars } }
  return tokens.toList

def Yaml.readChars? (text : List Char) : Option Value := do ofTokens? (← tokensOfChars? text)

def Toml.readChars? (text : List Char) : Option Value := do
  let chars :=
    match text with
    | c :: rest => if c.toNat = 0xFEFF then rest else c :: rest
    | [] => []
  let limit := 2 * chars.length + 2
  let root ← readLinesOf limit limit [] [] chars
  return .table (fieldValues root)

namespace Dialect

def readChars? : Dialect → List Char → Option Value
  | .json => Json.readChars?
  | .yaml => Yaml.readChars?
  | .toml => Toml.readChars?

theorem read?_eq (d : Dialect) (text : String) : d.read? text = d.readChars? text.toList := by
  cases d <;> rfl

variable {d : Dialect} {v : Value}

/-- A format reads a value back if it does so by the bytes of what it writes, which are all ASCII. -/
theorem readsBack_of_bytes (single : ∀ byte ∈ Ascii.bytes (d.write v), byte.toNat < 128)
    (back : (d.readChars? (Ascii.chars (Ascii.bytes (d.write v)))).any v.alike = true) :
    d.readsBack v = true := by
  rw [readsBack, read?_eq, Ascii.toList_eq_chars single]
  exact back

end Dialect

set_option maxRecDepth 100000 in
theorem Config.initial_readsBack (d : Dialect) : d.readsBack initial.toValue = true := by
  cases d <;> exact Dialect.readsBack_of_bytes (by decide +kernel) (by decide +kernel)

end Foldmark
