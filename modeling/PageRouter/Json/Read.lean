import PageRouter.Json.Value
import PageRouter.Text.Integer

namespace PageRouter.JsonValue

def hexUnit? (a b c d : Char) : Option Nat := do
  let a ← Text.hexValue? a
  let b ← Text.hexValue? b
  let c ← Text.hexValue? c
  let d ← Text.hexValue? d
  return a * 4096 + b * 256 + c * 16 + d

/-- What a letter after a backslash stands for by itself. -/
def shortEscape? (c : Char) : Option Char :=
  match c with
  | '"' => some '"'
  | '\\' => some '\\'
  | '/' => some '/'
  | 'b' => some '\x08'
  | 'f' => some '\x0c'
  | 'n' => some '\n'
  | 'r' => some '\r'
  | 't' => some '\t'
  | _ => none

/-- Reads a text up to its closing quote: its code points, among them halves of surrogate pairs that are
written as escapes. -/
def readUnits : List Char → Option (List Nat × List Char)
  | [] => none
  | '"' :: rest => some ([], rest)
  | '\\' :: 'u' :: a :: b :: c :: d :: rest => do
    let unit ← hexUnit? a b c d
    let (units, rest) ← readUnits rest
    return (unit :: units, rest)
  | '\\' :: c :: rest => do
    let c ← shortEscape? c
    let (units, rest) ← readUnits rest
    return (c.toNat :: units, rest)
  | c :: rest =>
    if c.toNat < 0x20 || c = '\\' then none
    else do
      let (units, rest) ← readUnits rest
      return (c.toNat :: units, rest)

/-- The text of code points, where two halves of a surrogate pair become one character. A half by itself
stands for no text. -/
def joinUnits : List Nat → Option (List Char)
  | [] => some []
  | high :: rest =>
    if 0xD800 ≤ high ∧ high ≤ 0xDBFF then
      match rest with
      | low :: more =>
        if 0xDC00 ≤ low ∧ low ≤ 0xDFFF then
          (joinUnits more).map (Char.ofNat (0x10000 + (high - 0xD800) * 0x400 + (low - 0xDC00)) :: ·)
        else none
      | [] => none
    else if 0xDC00 ≤ high ∧ high ≤ 0xDFFF then none
    else (joinUnits rest).map (Char.ofNat high :: ·)

/-- Reads what follows the opening quote of a text, which is missing where it holds half of a surrogate pair. -/
def readText (input : List Char) : Option (Option String × List Char) := do
  let (units, rest) ← readUnits input
  return ((joinUnits units).map String.ofList, rest)

def dropBlanks (input : List Char) : List Char :=
  input.dropWhile fun c => c == ' ' || c == '\t' || c == '\n' || c == '\r'

def digits? (input : List Char) : Option (List Char × List Char) :=
  match input.takeWhile Char.isDigit with
  | [] => none
  | digits => some (digits, input.dropWhile Char.isDigit)

/-- Cuts the digits before the point off; a zero stands alone. -/
def wholePart? : List Char → Option (List Char × List Char)
  | '0' :: rest => some (['0'], rest)
  | input => digits? input

def fractionPart? : List Char → Option (List Char × List Char)
  | '.' :: rest => (digits? rest).map fun (digits, rest) => ('.' :: digits, rest)
  | input => some ([], input)

def exponentPart? : List Char → Option (List Char × List Char)
  | c :: rest =>
    if c = 'e' || c = 'E' then
      match rest with
      | '+' :: rest => (digits? rest).map fun (digits, rest) => (c :: '+' :: digits, rest)
      | '-' :: rest => (digits? rest).map fun (digits, rest) => (c :: '-' :: digits, rest)
      | rest => (digits? rest).map fun (digits, rest) => (c :: digits, rest)
    else some ([], c :: rest)
  | [] => some ([], [])

/-- Reads a number. A zero with a minus sign is no integer. -/
def readNumber (input : List Char) : Option (JsonValue × List Char) := do
  let (sign, rest) := match input with
    | '-' :: rest => (['-'], rest)
    | rest => ([], rest)
  let (whole, rest) ← wholePart? rest
  let (fraction, rest) ← fractionPart? rest
  let (exponent, rest) ← exponentPart? rest
  let magnitude : Nat := whole.foldl (fun value c => value * 10 + (c.toNat - 48)) 0
  if fraction.isEmpty && exponent.isEmpty && !(magnitude = 0 && !sign.isEmpty) then
    return (integer (if sign.isEmpty then magnitude else -(magnitude : Int)), rest)
  return (number (String.ofList (sign ++ whole ++ fraction ++ exponent)), rest)

def word? (word input : List Char) : Option (List Char) :=
  if word.isPrefixOf input then some (input.drop word.length) else none

mutual

/-- Reads a value, nested at most `depth - 1` deep. -/
def readValue : Nat → List Char → Option (JsonValue × List Char)
  | 0, _ => none
  | depth + 1, input =>
    match dropBlanks input with
    | '"' :: rest => (readText rest).map fun (value, rest) => (.text value, rest)
    | '[' :: rest =>
      match dropBlanks rest with
      | ']' :: rest => some (array [], rest)
      | _ => (readItems depth rest).map fun (items, rest) => (array items, rest)
    | '\x7b' :: rest =>
      match dropBlanks rest with
      | '\x7d' :: rest => some (object [], rest)
      | _ => (readFields depth rest).map fun (fields, rest) => (object fields, rest)
    | 'n' :: rest => (word? "ull".toList rest).map (null, ·)
    | 't' :: rest => (word? "rue".toList rest).map (truth true, ·)
    | 'f' :: rest => (word? "alse".toList rest).map (truth false, ·)
    | rest => readNumber rest

/-- Reads the items of an array up to its closing bracket. -/
def readItems : Nat → List Char → Option (List JsonValue × List Char)
  | 0, _ => none
  | depth + 1, input => do
    let (item, rest) ← readValue depth input
    match dropBlanks rest with
    | ',' :: rest =>
      let (items, rest) ← readItems depth rest
      return (item :: items, rest)
    | ']' :: rest => return ([item], rest)
    | _ => none

/-- Reads the fields of an object up to its closing brace. -/
def readFields : Nat → List Char → Option (List (Option String × JsonValue) × List Char)
  | 0, _ => none
  | depth + 1, input => do
    match dropBlanks input with
    | '"' :: rest =>
      let (key, rest) ← readText rest
      match dropBlanks rest with
      | ':' :: rest =>
        let (value, rest) ← readValue depth rest
        match dropBlanks rest with
        | ',' :: rest =>
          let (fields, rest) ← readFields depth rest
          return ((key, value) :: fields, rest)
        | '\x7d' :: rest => return ([(key, value)], rest)
        | _ => none
      | _ => none
    | _ => none

end

/-- Reads a text that is one value, with blanks around it. -/
def parse? (input : String) : Option JsonValue := do
  let chars := input.toList
  let (value, rest) ← readValue (2 * chars.length + 2) chars
  if (dropBlanks rest).isEmpty then some value else none

end PageRouter.JsonValue
