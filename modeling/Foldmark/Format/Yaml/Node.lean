import Foldmark.Format.Yaml.Token
import Foldmark.Value.Settle

/-! Values from the tokens of YAML. Nodes that have been given a name can be used again after it. A
table's keys are scalars; their text is the name of the field. -/
namespace Foldmark.Yaml

abbrev Anchors := List (String × Value)

/-- What is read: a value, the tokens after it, and the named values. -/
abbrev Read := Option (Value × List Token × Anchors)

def missing : Value := .plain ""

/-- What stands before a node: a name for it and its type, in any order. -/
structure Marks where
  name : Option String := none
  type : Option String := none

def Marks.any (m : Marks) : Bool := m.name.isSome || m.type.isSome

def takeMarks : List Token → Marks × List Token
  | .anchor name :: .tag _ type :: rest => (⟨some name, some type⟩, rest)
  | .tag _ type :: .anchor name :: rest => (⟨some name, some type⟩, rest)
  | .anchor name :: rest => (⟨some name, none⟩, rest)
  | .tag _ type :: rest => (⟨none, some type⟩, rest)
  | rest => ({}, rest)

def coreMeaning : String := "tag:yaml.org,2002:"

def coreHandles : List (String × String) := [("!", "!"), ("!!", coreMeaning), ("", "")]

/-- The scalar with a type. Of the types that every document knows, four restrict what may be
written, and all others make it a text; types of the document's own are kept. -/
def ofScalar (type : Option String) (text : String) (plain : Bool) : Value :=
  let v := if plain then Value.ofScalar text else .str text
  let checked (holds : Bool) : Value := if holds then Value.ofScalar text else .invalid
  let number := Scalar.isNumber text.toList
  let whole := (Scalar.whole? text.toList).isSome
  match type with
  | none => v
  | some type =>
    if type = "!" then v
    else if type = coreMeaning ++ "null" then checked (plain && Value.isNullText text)
    else if type = coreMeaning ++ "bool" then checked (Value.boolOfText? text).isSome
    else if type = coreMeaning ++ "int" then checked (number && whole)
    else if type = coreMeaning ++ "float" then checked number
    else if type.startsWith "!" then .tagged (String.ofList (type.toList.drop 1)) v
    else .str text

/-- The collection with a type, which matters only if it is one of the document's own. -/
def ofCollection (type : Option String) (v : Value) : Value :=
  match type with
  | some type =>
    if type.startsWith "!" then .tagged (String.ofList (type.toList.drop 1)) v else v
  | none => v

def fieldName? (key : Value) : Option String := key.text? .yaml

mutual

/-- Reads a node. `block` tells whether it may be a collection by indentation, and `item` whether
items may stand at the indentation of the field they belong to. -/
def readNode : Nat → Bool → Bool → List Token → Anchors → Read
  | 0, _, _, _, _ => none
  | fuel + 1, block, item, tokens, anchors =>
    match tokens with
    | .alias name :: rest => (anchors.lookup name).map fun v => (v, rest, anchors)
    | _ => do
      let (marks, tokens) := takeMarks tokens
      let collection (read : Read) : Read :=
        read.map fun (v, rest) => (ofCollection marks.type v, rest)
      let absent (rest : List Token) : Read :=
        if marks.any then some (ofScalar marks.type "" true, rest, anchors) else none
      let (v, tokens, anchors) ←
        match tokens with
        | .scalar text plain :: rest => some (ofScalar marks.type text plain, rest, anchors)
        | .openList :: rest => collection (readList fuel [] rest anchors)
        | .openTable :: rest => collection (readTable fuel [] rest anchors)
        | .entry :: rest =>
          if item then collection (readItems fuel false [] (.entry :: rest) anchors)
          else absent (.entry :: rest)
        | .sequenceStart :: rest =>
          if block then collection (readItems fuel true [] rest anchors) else absent tokens
        | .mappingStart :: rest =>
          if block then collection (readFields fuel [] rest anchors) else absent tokens
        | rest => absent rest
      match marks.name with
      | some name => return (v, tokens, (name, v) :: anchors)
      | none => return (v, tokens, anchors)

/-- Reads the items of a sequence, each after a hyphen. One that is indented ends with a token of its
own, and another one before whatever is no item. -/
def readItems : Nat → Bool → List Value → List Token → Anchors → Read
  | 0, _, _, _, _ => none
  | fuel + 1, indented, done, tokens, anchors =>
    match tokens with
    | .entry :: rest => do
      let isMissing :=
        match rest with
        | .entry :: _ | .blockEnd :: _ => true
        | .key :: _ | .value :: _ => !indented
        | _ => false
      let (v, rest, anchors) ←
        if isMissing then some (missing, rest, anchors) else readNode fuel true false rest anchors
      readItems fuel indented (v :: done) rest anchors
    | .blockEnd :: rest =>
      some (.list done.reverse, if indented then rest else .blockEnd :: rest, anchors)
    | rest => if indented then none else some (.list done.reverse, rest, anchors)

def readFields : Nat → List (Option String × Value) → List Token → Anchors → Read
  | 0, _, _, _ => none
  | fuel + 1, done, tokens, anchors =>
    let isMissing : List Token → Bool
      | .key :: _ | .value :: _ | .blockEnd :: _ => true
      | _ => false
    match tokens with
    | .blockEnd :: rest => some (.ofFields done.reverse, rest, anchors)
    | first :: rest => do
      let (key, rest, anchors) ←
        match first with
        | .key =>
          if isMissing rest then some (missing, rest, anchors)
          else readNode fuel true true rest anchors
        | .value => some (missing, first :: rest, anchors)
        | _ => none
      let name := fieldName? key
      let (v, rest, anchors) ←
        match rest with
        | .value :: rest =>
          if isMissing rest then some (missing, rest, anchors)
          else readNode fuel true true rest anchors
        | rest => some (missing, rest, anchors)
      readFields fuel ((name, v) :: done) rest anchors
    | [] => none

/-- Reads the items of a list in brackets. A key and its value form a table. -/
def readList : Nat → List Value → List Token → Anchors → Read
  | 0, _, _, _ => none
  | fuel + 1, done, tokens, anchors =>
    match tokens with
    | .closeList :: rest => some (.list done.reverse, rest, anchors)
    | tokens => do
      let (v, rest, anchors) ←
        match tokens with
        | .key :: rest => do
          let (key, rest, anchors) ←
            match rest with
            | .value :: _ | .comma :: _ | .closeList :: _ => some (missing, rest, anchors)
            | _ => readNode fuel false false rest anchors
          let name := fieldName? key
          let (v, rest, anchors) ←
            match rest with
            | .value :: .comma :: rest => some (missing, .comma :: rest, anchors)
            | .value :: .closeList :: rest => some (missing, .closeList :: rest, anchors)
            | .value :: rest => readNode fuel false false rest anchors
            | rest => some (missing, rest, anchors)
          some (Value.ofFields [(name, v)], rest, anchors)
        | tokens => readNode fuel false false tokens anchors
      match rest with
      | .comma :: rest => readList fuel (v :: done) rest anchors
      | .closeList :: rest => some (.list (v :: done).reverse, rest, anchors)
      | _ => none

def readTable : Nat → List (Option String × Value) → List Token → Anchors → Read
  | 0, _, _, _ => none
  | fuel + 1, done, tokens, anchors =>
    match tokens with
    | .closeTable :: rest => some (.ofFields done.reverse, rest, anchors)
    | tokens => do
      let (key, rest, anchors) ←
        match tokens with
        | .key :: .value :: rest => some (missing, .value :: rest, anchors)
        | .key :: .comma :: rest => some (missing, .comma :: rest, anchors)
        | .key :: .closeTable :: rest => some (missing, .closeTable :: rest, anchors)
        | .key :: rest => readNode fuel false false rest anchors
        | tokens => readNode fuel false false tokens anchors
      let name := fieldName? key
      let (v, rest, anchors) ←
        match rest with
        | .value :: .comma :: rest => some (missing, .comma :: rest, anchors)
        | .value :: .closeTable :: rest => some (missing, .closeTable :: rest, anchors)
        | .value :: rest => readNode fuel false false rest anchors
        | rest => some (missing, rest, anchors)
      match rest with
      | .comma :: rest => readTable fuel ((name, v) :: done) rest anchors
      | .closeTable :: rest => some (.ofFields ((name, v) :: done).reverse, rest, anchors)
      | _ => none

end

/-- Takes the instructions before a document. The version may be told once, and the meaning of a handle
once as well. Gives the handles, whether there were any instructions, and the document. -/
def takeDirectives (versioned : Bool) (handles : List (String × String)) :
    List Token → Option (List (String × String) × Bool × List Token)
  | .version :: rest => if versioned then none else takeDirectives true handles rest
  | .handle name meaning :: rest =>
    if (handles.lookup name).isSome then none
    else takeDirectives versioned ((name, meaning) :: handles) rest
  | rest => some (handles, versioned || !handles.isEmpty, rest)

def resolveTypes (handles : List (String × String)) (tokens : List Token) : Option (List Token) :=
  tokens.mapM fun
    | .tag "!" "" => some (.tag "" "!")
    | .tag handle suffix =>
      ((handles ++ coreHandles).lookup handle).map fun meaning => .tag "" (meaning ++ suffix)
    | t => some t

def readDocument (fuel : Nat) (tokens : List Token) : Option (Value × List Token) :=
  match tokens with
  | [] | .documentStart :: _ | .documentEnd :: _ | .version :: _ | .handle _ _ :: _ =>
    some (missing, tokens)
  | tokens => (readNode fuel true false tokens []).map fun (v, rest, _) => (v, rest)

/-- The only document among tokens; without one, what stands for a missing node. -/
def ofTokens? (tokens : List Token) : Option Value := do
  let fuel := 2 * tokens.length + 2
  let (handles, directed, tokens) ←
    takeDirectives false [] (tokens.dropWhile (· = .documentEnd))
  let (v, rest) ←
    match ← resolveTypes handles tokens with
    | .documentStart :: rest => readDocument fuel rest
    | tokens => if directed then none else readDocument fuel tokens
  if (rest.dropWhile (· = .documentEnd)).isEmpty then some v else none

def read? (text : String) : Option Value := do ofTokens? (← tokens? text)

end Foldmark.Yaml
