import PageRouter.Text.Percent
import PageRouter.Text.Split

namespace PageRouter

/-- A JSON value. A text is missing where it holds half of a surrogate pair, which stands for no text. -/
inductive JsonValue where
  | null
  | truth (value : Bool)
  | integer (value : Int)
  /-- A number that is not written as an integer, as it is written. -/
  | number (literal : String)
  | text (value : Option String)
  | array (items : List JsonValue)
  /-- Keys with values, in order; a key may stand there more than once. -/
  | object (fields : List (Option String × JsonValue))
  deriving Inhabited

namespace JsonValue

/-- The hexadecimal digits of a control character in a text, in lower case. -/
def controlEscape (c : Char) : List Char :=
  ['\\', 'u', '0', '0', Nat.digitChar (c.toNat / 16), Nat.digitChar (c.toNat % 16)]

/-- A character as it stands between the quotes of a text. -/
def textChar (c : Char) : List Char :=
  match c with
  | '"' => ['\\', '"']
  | '\\' => ['\\', '\\']
  | '\n' => ['\\', 'n']
  | '\r' => ['\\', 'r']
  | '\t' => ['\\', 't']
  | '\x08' => ['\\', 'b']
  | '\x0c' => ['\\', 'f']
  | _ => if c.toNat < 0x20 then controlEscape c else [c]

/-- A text between quotes. A missing text is written as an escape that stands for no text. -/
def textLiteral : Option String → List Char
  | some value => '"' :: value.toList.flatMap textChar ++ ['"']
  | none => "\"\\ud800\"".toList

def chars : JsonValue → List Char
  | null => "null".toList
  | truth true => "true".toList
  | truth false => "false".toList
  | integer value => (toString value).toList
  | number literal => literal.toList
  | text value => textLiteral value
  | array items => '[' :: itemChars items ++ [']']
  | object fields => '\x7b' :: fieldChars fields ++ ['\x7d']
where
  /-- The characters of items, with commas between them. -/
  itemChars : List JsonValue → List Char
    | [] => []
    | [item] => item.chars
    | item :: more => item.chars ++ ',' :: itemChars more
  /-- The characters of fields, with commas between them. -/
  fieldChars : List (Option String × JsonValue) → List Char
    | [] => []
    | [(key, value)] => textLiteral key ++ ':' :: value.chars
    | (key, value) :: more => textLiteral key ++ ':' :: value.chars ++ ',' :: fieldChars more

/-- The text of a value, without blanks. -/
def render (value : JsonValue) : String :=
  String.ofList value.chars

end JsonValue

end PageRouter
