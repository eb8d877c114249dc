/-! Values as data formats hold them, and how a format's values are read as texts, switches, lists and
records. The formats differ in what stands for what: `Dialect` names the differences. -/
namespace Foldmark

/-- A value of a data format. -/
inductive Value
  | null
  | bool (b : Bool)
  | int (n : Int)
  /-- A scalar of another type, such as a number with a fraction or a date. -/
  | other
  /-- What follows the grammar and yet stands for no value, such as a number that is too large. -/
  | invalid
  /-- An unquoted scalar that is kept as written because it may be read as more than one type. -/
  | plain (text : String)
  | str (text : String)
  | list (items : List Value)
  /-- Fields in the order in which they are written. -/
  | table (fields : List (String × Value))
  /-- A value that is given a type by name. -/
  | tagged (tag : String) (v : Value)
deriving Inhabited

inductive Dialect
  | json | yaml | toml
deriving DecidableEq, Repr

namespace Dialect

def name : Dialect → String
  | .json => "json"
  | .yaml => "yaml"
  | .toml => "toml"

def label : Dialect → String
  | .json => "JSON"
  | .yaml => "YAML"
  | .toml => "TOML"

/-- What stands in a message for a fault in a text, which has no fixed wording. -/
def fault (d : Dialect) : String := s!"<{d.name}>"

end Dialect

namespace Value

def ofFields (fields : List (Option String × Value)) : Value :=
  match fields.mapM fun (name, v) => name.map (·, v) with
  | some fields => .table fields
  | none => .invalid

def text? (d : Dialect) : Value → Option String
  | .str s => some s
  | .plain s => some s
  | .null => if d = .yaml then some "null" else none
  | .bool b => if d = .yaml then some (if b then "true" else "false") else none
  | .int n => if d = .yaml then some (toString n) else none
  | .tagged _ v => v.text? d
  | _ => none

def isNullText (s : String) : Bool := s ∈ ["", "~", "null", "Null", "NULL"]

def textOrNone? (d : Dialect) : Value → Option (Option String)
  | .null => some none
  | .plain s => some (if isNullText s then none else some s)
  | v => (v.text? d).map some

def boolOfText? (s : String) : Option Bool :=
  if s ∈ ["true", "True", "TRUE"] then some true
  else if s ∈ ["false", "False", "FALSE"] then some false
  else none

def bool? : Value → Option Bool
  | .bool b => some b
  | .plain s => boolOfText? s
  | .tagged _ v => v.bool?
  | _ => none

/-- Whether nothing is written where a list or a table is expected. -/
def isBlank (d : Dialect) : Value → Bool
  | .plain s => d = .yaml && s.isEmpty
  | .tagged _ v => v.isBlank d
  | _ => false

def items? (d : Dialect) : Value → Option (List Value)
  | .list items => some items
  | .tagged _ v => v.items? d
  | v => if v.isBlank d then some [] else none

def fields? (d : Dialect) : Value → Option (List (String × Value))
  | .table fields => some fields
  | .tagged _ v => v.fields? d
  | v => if v.isBlank d then some [] else none

/-- The values of a record's fields. A record is a table, whose other fields are left out and in which
no field may occur twice, or, in some formats, the list of its fields in their order. -/
def record? (d : Dialect) (names : List String) : Value → Option (List (String × Value))
  | .table fields =>
    let known := fields.filter fun field => field.1 ∈ names
    if (known.map (·.1)).Nodup then some known else none
  | .list items =>
    match d with
    | .json => if items.length ≤ names.length then some (names.zip items) else none
    | .toml => some (names.zip items)
    | .yaml => none
  | .tagged _ v => v.record? d names
  | v => if v.isBlank d then some [] else none

def isNull : Value → Bool
  | .null => true
  | .plain s => isNullText s
  | _ => false

/-- The name of a choice, written as a text, as the only field of a table, or as a type. -/
def choice? (d : Dialect) : Value → Option String
  | .tagged name v => if v.isNull then some name else none
  | .table [(name, payload)] =>
    match d, payload with
    | .json, .null => some name
    | .toml, .table [] => some name
    | .toml, .list [] => some name
    | _, _ => none
  | v => v.text? d

end Value

end Foldmark
