import FeatureFlags.Toml.Scalar
import FeatureFlags.Toml.Tree

/-!
# Reading TOML

Documents of TOML 1.0.  Values in brackets and braces may be nested less than `depthLimit` deep,
and keys may have fewer than `depthLimit` parts.
-/

namespace FeatureFlags.Toml

/-- The number of nested values in brackets and braces, and of parts of a key, that is too
large. -/
def depthLimit : Nat := 80

namespace Reader

/-! ## Blanks -/

/-- Whether a character is a blank inside a line. -/
def isBlank (c : Char) : Bool := c = ' ' || c = '\t'

/-- Passes over blanks inside a line. -/
def skipBlanks (cs : List Char) : List Char := cs.dropWhile isBlank

/-- Passes over a comment. -/
def skipComment : List Char → List Char
  | '#' :: rest => rest.dropWhile Quoted.isText
  | cs => cs

/-- Passes over the end of a line, after blanks and a comment. -/
def readLineEnd? (cs : List Char) : Option (List Char) :=
  match skipComment (skipBlanks cs) with
  | [] => some []
  | '\n' :: rest | '\r' :: '\n' :: rest => some rest
  | _ => none

/-- Passes over blanks, comments and line ends.  A comment ends with its line. -/
def skipLines (inComment : Bool) : List Char → List Char
  | [] => []
  | '\r' :: '\n' :: rest => skipLines false rest
  | c :: rest =>
    if c = '\n' then skipLines false rest
    else if inComment then
      if Quoted.isText c then skipLines true rest else c :: rest
    else if isBlank c then skipLines false rest
    else if c = '#' then skipLines true rest
    else c :: rest

/-! ## Keys -/

/-- Whether a character may stand in a key without quotes. -/
def isBareKeyChar (c : Char) : Bool := c.isAlphanum || c == '_' || c == '-'

/-- Reads one part of a key, with blanks around it. -/
def readKeyPart? (cs : List Char) : Option (String × List Char) :=
  let cs := skipBlanks cs
  match Quoted.readKey? cs with
  | some (key, rest) => some (String.ofList key, skipBlanks rest)
  | none =>
    let key := cs.takeWhile isBareKeyChar
    if key.isEmpty then none
    else some (String.ofList key, skipBlanks (cs.drop key.length))

/-- Reads up to `most` parts of a key with dots between them. -/
def readKeyParts? : Nat → List Char → Option (List String × List Char)
  | 0, _ => none
  | most + 1, cs => do
    let (part, rest) ← readKeyPart? cs
    match rest with
    | '.' :: rest => do
      let (parts, rest) ← readKeyParts? most rest
      return (part :: parts, rest)
    | rest => return ([part], rest)

/-- Reads a key. -/
def readKey? (cs : List Char) : Option (List String × List Char) :=
  readKeyParts? (depthLimit - 1) cs

/-- Reads a key and the equals sign after it. -/
def readKeyEquals? (cs : List Char) : Option (List String × List Char) :=
  match readKey? cs with
  | some (path, '=' :: rest) => some (path, skipBlanks rest)
  | _ => none

/-! ## Values -/

mutual

/-- Reads a value in which `depth` more values may be nested. -/
def readValue? (depth : Nat) (cs : List Char) : Option (Value × List Char) :=
  match depth, cs with
  | 0, '[' :: _ | 0, '{' :: _ => none
  | depth + 1, '[' :: rest =>
    (readItems? depth [] (skipLines false rest)).map fun (items, rest) => (.array items, rest)
  | depth + 1, '{' :: rest =>
    match skipBlanks rest with
    | '}' :: rest => some (.table [], rest)
    | rest =>
      (readFields? depth [] rest).map fun (fields, rest) =>
        (.table (Node.fieldsToValues fields), rest)
  | _, cs => Scalar.read? cs
termination_by (depth, 0, cs.length)

/-- Reads the items of an array after those in `done`, which are in reverse, up to the closing
bracket.  Every item takes characters away. -/
def readItems? (depth : Nat) (done : List Value) (cs : List Char) :
    Option (List Value × List Char) :=
  match cs with
  | ']' :: rest => some (done.reverse, rest)
  | cs =>
    match readValue? depth cs with
    | none => none
    | some (v, rest) =>
      match skipLines false rest with
      | ']' :: rest => some ((v :: done).reverse, rest)
      | ',' :: rest =>
        let next := skipLines false rest
        if next.length < cs.length then readItems? depth (v :: done) next else none
      | _ => none
termination_by (depth, 1, cs.length)

/-- Reads the fields of a table after those in `done`, up to the closing brace.  Every field takes
characters away. -/
def readFields? (depth : Nat) (done : Node.Fields) (cs : List Char) :
    Option (Node.Fields × List Char) :=
  match readKeyEquals? cs with
  | none => none
  | some (path, rest) =>
    match readValue? depth rest with
    | none => none
    | some (v, rest) =>
      match Node.addKey? path (.value v) done with
      | none => none
      | some done =>
        match skipBlanks rest with
        | '}' :: rest => some (done, rest)
        | ',' :: rest =>
          if rest.length < cs.length then readFields? depth done rest else none
        | _ => none
termination_by (depth, 1, cs.length)

end

/-! ## Documents -/

/-- A document as far as it is read. -/
structure State where
  fields : Node.Fields := []
  /-- The path of the header above. -/
  header : List String := []

/-- Reads a header up to the given closing brackets and the end of the line. -/
def readHeader? (closing : List Char) (cs : List Char) : Option (List String × List Char) := do
  let (path, rest) ← readKey? cs
  if !closing.isPrefixOf rest then none
  return (path, ← readLineEnd? (rest.drop closing.length))

/-- Reads one expression of a document that starts at a character other than a blank. -/
def step? (s : State) (cs : List Char) : Option (State × List Char) :=
  match cs with
  | '[' :: '[' :: rest => do
    let (path, rest) ← readHeader? "]]".toList rest
    return ({ fields := ← Node.openItem? path s.fields, header := path }, rest)
  | '[' :: rest => do
    let (path, rest) ← readHeader? "]".toList rest
    return ({ fields := ← Node.openTable? path s.fields, header := path }, rest)
  | cs => do
    let (path, rest) ← readKeyEquals? cs
    let (v, rest) ← readValue? (depthLimit - 1) rest
    let rest ← readLineEnd? rest
    let fields ← Node.update? false (fun _ => Node.addKey? path (.value v)) s.header false s.fields
    return ({ s with fields }, rest)

/-- Reads expressions up to the end.  Every step takes characters away. -/
def readFrom? (s : State) (cs : List Char) : Option State :=
  match skipLines false cs with
  | [] => some s
  | next =>
    match step? s next with
    | none => none
    | some (s, rest) => if rest.length < cs.length then readFrom? s rest else none
termination_by cs.length

end Reader

/-- Reads a document; a byte order mark may stand at its start. -/
def read? (text : String) : Option Value :=
  let cs := match text.toList with
    | '\uFEFF' :: rest => rest
    | cs => cs
  (Reader.readFrom? {} cs).map fun s => .table (Node.fieldsToValues s.fields)

end FeatureFlags.Toml
