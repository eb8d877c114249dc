import Foldmark.Format.Toml.Scalar

/-! TOML documents. Headers and keys with points add to a tree of tables; how a table came about decides
what may still be added to it. -/
namespace Foldmark.Toml

inductive Origin
  /-- By the header of a table inside it. -/
  | implied
  | header
  /-- By a key with points. -/
  | dotted
deriving DecidableEq, Repr

inductive Item
  | value (v : Value)
  | table (origin : Origin) (fields : List (String × Item))
  /-- The tables of headers in two brackets, newest first. -/
  | tables (all : List (List (String × Item)))

/-- Replaces the item of a field, or adds the field, with what `change` makes of the present item. -/
def alterField (name : String) (change : Option Item → Option Item) :
    List (String × Item) → Option (List (String × Item))
  | [] => (change none).map fun item => [(name, item)]
  | (n, item) :: rest =>
    if n = name then (change (some item)).map fun item => (n, item) :: rest
    else (alterField name change rest).map fun rest => (n, item) :: rest

/-- Puts a value under a key in the table of a header or in braces. Tables on the way come about by
the key, and those that a header has opened are closed to it. -/
def put (v : Value) : List String → List (String × Item) → Option (List (String × Item))
  | [], _ => none
  | [name], fields =>
    alterField name (fun
      | none => some (.value v)
      | some _ => none) fields
  | name :: names, fields =>
    alterField name (fun
      | none => (put v names []).map (.table .dotted)
      | some (.table .header _) => none
      | some (.table origin inner) => (put v names inner).map (.table origin)
      | some _ => none) fields

/-- Goes to the table under a path of headers, and changes it. The last table of several is meant. -/
def descend (change : List (String × Item) → Option (List (String × Item))) :
    List String → List (String × Item) → Option (List (String × Item))
  | [], fields => change fields
  | name :: names, fields =>
    alterField name (fun
      | none => (descend change names []).map (.table .implied)
      | some (.table origin inner) => (descend change names inner).map (.table origin)
      | some (.tables (last :: older)) =>
        (descend change names last).map fun last => .tables (last :: older)
      | some _ => none) fields

def openTable (path : List String) (root : List (String × Item)) :
    Option (List (String × Item)) :=
  match path.getLast? with
  | none => none
  | some name =>
    descend (alterField name fun
      | none => some (.table .header [])
      | some (.table .implied fields) => some (.table .header fields)
      | some _ => none) path.dropLast root

def openNext (path : List String) (root : List (String × Item)) :
    Option (List (String × Item)) :=
  match path.getLast? with
  | none => none
  | some name =>
    descend (alterField name fun
      | none => some (.tables [[]])
      | some (.tables all) => some (.tables ([] :: all))
      | some _ => none) path.dropLast root

mutual

def Item.toValue : Item → Value
  | .value v => v
  | .table _ fields => .table (fieldValues fields)
  | .tables all => .list (tableValues all).reverse

def fieldValues : List (String × Item) → List (String × Value)
  | [] => []
  | (name, item) :: rest => (name, item.toValue) :: fieldValues rest

def tableValues : List (List (String × Item)) → List Value
  | [] => []
  | fields :: rest => .table (fieldValues fields) :: tableValues rest

end

/-- Skips the rest of a line that holds at most a comment. Gives what follows the break, or nothing at
the end of the document. -/
def endLine (s : List Char) : Option (List Char) :=
  let s := skipBlanks s
  let s :=
    match s with
    | '#' :: rest => rest.dropWhile fun c => !isControl c
    | s => s
  if s.isEmpty then some [] else readBreak? s

def skipSpace : Nat → List Char → List Char
  | 0, s => s
  | fuel + 1, s =>
    match skipBlanks s with
    | '#' :: rest => skipSpace fuel (rest.dropWhile fun c => !isControl c)
    | rest =>
      match readBreak? rest with
      | some rest => skipSpace fuel rest
      | none => rest

mutual

def readValue (limit : Nat) : Nat → List Char → Option (Value × List Char)
  | 0, _ => none
  | fuel + 1, s =>
    match s with
    | '"' :: _ => (readText true limit s).map fun (text, rest) => (.str text, rest)
    | '\'' :: _ => (readText true limit s).map fun (text, rest) => (.str text, rest)
    | '[' :: rest => readItems limit fuel [] rest
    | '{' :: rest =>
      match skipBlanks rest with
      | '}' :: rest => some (.table [], rest)
      | rest => readFields limit fuel [] rest
    | s => readBareScalar s

/-- Reads the items of a list after its opening bracket; `done` holds those read, newest first. -/
def readItems (limit : Nat) : Nat → List Value → List Char → Option (Value × List Char)
  | 0, _, _ => none
  | fuel + 1, done, s =>
    match skipSpace limit s with
    | ']' :: rest => some (.list done.reverse, rest)
    | s => do
      let (v, rest) ← readValue limit fuel s
      match skipSpace limit rest with
      | ',' :: rest => readItems limit fuel (v :: done) rest
      | ']' :: rest => some (.list (v :: done).reverse, rest)
      | _ => none

/-- Reads the fields of a table in braces, of which one follows. -/
def readFields (limit : Nat) :
    Nat → List (String × Item) → List Char → Option (Value × List Char)
  | 0, _, _ => none
  | fuel + 1, done, s => do
    let (path, rest) ← readKey limit limit s
    let rest ← afterChar? '=' (skipBlanks rest)
    let (v, rest) ← readValue limit fuel (skipBlanks rest)
    let done ← put v path done
    match skipBlanks rest with
    | ',' :: rest => readFields limit fuel done rest
    | '}' :: rest => some (.table (fieldValues done), rest)
    | _ => none

end

/-- Reads the lines of a document; keys belong to the table of the last header. -/
def readLinesOf (limit : Nat) :
    Nat → List String → List (String × Item) → List Char → Option (List (String × Item))
  | 0, _, _, _ => none
  | fuel + 1, path, root, s =>
    match skipSpace limit s with
    | [] => some root
    | '[' :: '[' :: rest => do
      let (path, rest) ← readKey limit limit rest
      let rest ← afterChar? ']' (← afterChar? ']' (skipBlanks rest))
      readLinesOf limit fuel path (← openNext path root) (← endLine rest)
    | '[' :: rest => do
      let (path, rest) ← readKey limit limit rest
      let rest ← afterChar? ']' (skipBlanks rest)
      readLinesOf limit fuel path (← openTable path root) (← endLine rest)
    | s => do
      let (key, rest) ← readKey limit limit s
      let rest ← afterChar? '=' (skipBlanks rest)
      let (v, rest) ← readValue limit limit (skipBlanks rest)
      readLinesOf limit fuel path (← descend (put v key) path root) (← endLine rest)

/-- Reads a document. A mark of the byte order in front is no part of it. -/
def read? (text : String) : Option Value := do
  let chars :=
    match text.toList with
    | c :: rest => if c.toNat = 0xFEFF then rest else c :: rest
    | [] => []
  let limit := 2 * chars.length + 2
  let root ← readLinesOf limit limit [] [] chars
  return .table (fieldValues root)

end Foldmark.Toml
