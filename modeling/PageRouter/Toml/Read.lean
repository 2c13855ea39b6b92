import PageRouter.Toml.Draft
import PageRouter.Toml.Number
import PageRouter.Toml.Quoted

namespace PageRouter.Toml

/-- How deep arrays and inline tables may be nested, and how many parts a key may have. -/
def nestingLimit : Nat := 80

/-- Drops blanks, comments and line ends. In a comment, `commented` is true. -/
def dropGap (commented : Bool) : List Char → Option (List Char)
  | [] => some []
  | '\n' :: rest => dropGap false rest
  | '\r' :: '\n' :: rest => dropGap false rest
  | c :: rest =>
    if commented then if isForbidden c then none else dropGap true rest
    else if c = '#' then dropGap true rest
    else if isBlank c then dropGap false rest
    else some (c :: rest)

/-- Drops the rest of a line, in which nothing but blanks and a comment may stand. -/
def dropLine (commented : Bool) : List Char → Option (List Char)
  | [] => some []
  | '\n' :: rest => some rest
  | '\r' :: '\n' :: rest => some rest
  | c :: rest =>
    if commented then if isForbidden c then none else dropLine true rest
    else if c = '#' then dropLine true rest
    else if isBlank c then dropLine false rest
    else none

/-- Whether a character may stand in a key without quotes. -/
def isBareKeyChar (c : Char) : Bool :=
  c.isAlphanum || c == '_' || c == '-'

def readKeyPart (input : List Char) : Option (String × List Char) :=
  match readQuoted? input with
  | some (key, rest) => some (String.ofList key, rest)
  | none =>
    let key := input.takeWhile isBareKeyChar
    if key.isEmpty then none else some (String.ofList key, input.dropWhile isBareKeyChar)

/-- Cuts a key of at most so many parts off, with the blanks around them. Dots stand between the parts. -/
def readKey : Nat → List Char → Option (List String × List Char)
  | 0, _ => none
  | count + 1, input => do
    let (part, rest) ← readKeyPart (input.dropWhile isBlank)
    match rest.dropWhile isBlank with
    | '.' :: rest => (readKey count rest).map fun (parts, rest) => (part :: parts, rest)
    | rest => some ([part], rest)

/-- The parts of a key before the last one, and the last one. -/
def splitLast? (parts : List String) : Option (List String × String) :=
  parts.getLast?.map (parts.dropLast, ·)

/-- Whether a character may stand in a value without quotes. -/
def isWordChar (c : Char) : Bool :=
  isBareKeyChar c || c == '+' || c == '.' || c == ':'

/-- Cuts a word off; a date and a time with one blank between them are one word. -/
def cutWord (input : List Char) : List Char × List Char :=
  let word := input.takeWhile isWordChar
  let rest := input.dropWhile isWordChar
  match Date.read? word, rest with
  | some (_, []), ' ' :: c :: more =>
    if c.isDigit then
      (word ++ ' ' :: (c :: more).takeWhile isWordChar, (c :: more).dropWhile isWordChar)
    else (word, rest)
  | _, _ => (word, rest)

def wordValue? (word : List Char) : Option TomlValue :=
  if word = "true".toList then some (.truth true)
  else if word = "false".toList then some (.truth false)
  else
    match integer? word, float? word, Moment.read? word with
    | some value, _, _ => some (.integer value)
    | none, some bits, _ => some (.float bits)
    | none, none, some moment => some (.moment moment)
    | none, none, none => none

/-- Reads items with commas between them up to a closing bracket. A comma may follow the last one too. -/
def readItems {α : Type} (close : Char) (readItem : List Char → Option (α × List Char))
    (input : List Char) : Option (List α × List Char) := do
  match ← dropGap false input with
  | [] => none
  | c :: rest =>
    if c = close then some ([], rest)
    else
      let (item, rest) ← readItem (c :: rest)
      match ← dropGap false rest with
      | [] => none
      | c :: rest =>
        if c = close then some ([item], rest)
        else if c = ',' ∧ rest.length < input.length then
          (readItems close readItem rest).map fun (items, rest) => (item :: items, rest)
        else none
termination_by input.length

def dropBlanks (input : List Char) : Option (List Char) :=
  some (input.dropWhile isBlank)

/-- Reads a key, an equals sign and a value; `dropSpace` drops what may stand around the equals sign. -/
def readPair (dropSpace : List Char → Option (List Char))
    (readValue : List Char → Option (TomlValue × List Char)) (input : List Char) :
    Option ((List String × TomlValue) × List Char) := do
  let (key, rest) ← readKey nestingLimit input
  match ← dropSpace rest with
  | '=' :: rest =>
    let (value, rest) ← readValue (← dropSpace rest)
    some ((key, value), rest)
  | _ => none

def addPair (fields : Fields) (pair : List String × TomlValue) : Option Fields := do
  let (path, key) ← splitLast? pair.1
  fields.putDotted path key pair.2

def inlineTable? (pairs : List (List String × TomlValue)) : Option TomlValue :=
  (pairs.foldlM addPair []).map fun fields => .table (Draft.close.closeFields fields)

/-- Reads a value, in which arrays and inline tables are nested at most `room` deep. Inside of these, lines may
end between any two parts but those of a dotted key. -/
def readValue (room : Nat) (input : List Char) : Option (TomlValue × List Char) :=
  match input, room with
  | '[' :: _, 0 => none
  | '\x7b' :: _, 0 => none
  | '[' :: rest, room + 1 =>
    (readItems ']' (readValue room) rest).map fun (items, rest) => (.array items, rest)
  | '\x7b' :: rest, room + 1 => do
    let (pairs, rest) ← readItems '\x7d' (readPair (dropGap false) (readValue room)) rest
    some (← inlineTable? pairs, rest)
  | input, _ =>
    match readText? input with
    | some (value, rest) => some (.text (String.ofList value), rest)
    | none =>
      let (word, rest) := cutWord input
      (wordValue? word).map (·, rest)

/-- What a line of a document says. -/
inductive Statement where
  | pair (key : List String) (value : TomlValue)
  /-- A header: pairs that follow belong to its table. -/
  | table (key : List String)
  /-- A header in double brackets: pairs that follow belong to a further table of this name. -/
  | nextTable (key : List String)

def readStatement (input : List Char) : Option (Statement × List Char) :=
  match input with
  | '[' :: '[' :: rest => do
    match ← readKey nestingLimit rest with
    | (key, ']' :: ']' :: rest) => some (.nextTable key, rest)
    | _ => none
  | '[' :: rest => do
    match ← readKey nestingLimit rest with
    | (key, ']' :: rest) => some (.table key, rest)
    | _ => none
  | input => (readPair dropBlanks (readValue nestingLimit) input).map fun ((key, value), rest) =>
    (.pair key value, rest)

def readStatements (input : List Char) : Option (List Statement) := do
  match ← dropGap false input with
  | [] => some []
  | c :: rest =>
    let (statement, rest) ← readStatement (c :: rest)
    let rest ← dropLine false rest
    if rest.length < input.length then (readStatements rest).map (statement :: ·) else none
termination_by input.length

/-- A document as far as it was read: its fields, and the key of the latest header. -/
structure Document where
  fields : Fields := []
  header : List String := []

def Document.add (document : Document) : Statement → Option Document
  | .pair key value => do
    let fields ← document.fields.alterAt document.header (addPair · (key, value))
    return { document with fields }
  | .table key => do
    let (path, last) ← splitLast? key
    return ⟨← document.fields.alterAt path (Fields.alter last Fields.openTable), key⟩
  | .nextTable key => do
    let (path, last) ← splitLast? key
    return ⟨← document.fields.alterAt path (Fields.alter last Fields.openNext), key⟩

def dropMark : List Char → List Char
  | '\uFEFF' :: rest => rest
  | input => input

def parse? (input : String) : Option (List (String × TomlValue)) := do
  let document ← (← readStatements (dropMark input.toList)).foldlM Document.add {}
  return Draft.close.closeFields document.fields

end PageRouter.Toml
