import PageRouter.Text.Invisible
import PageRouter.Text.Marks

namespace PageRouter.Text

/-- Letters of Hangul that are not drawn. -/
def isFiller (c : Char) : Bool :=
  c == '\u115F' || c == '\u1160' || c == '\u3164' || c == '\uFFA0'

/-- Whether a quoted text shows an escape in place of a character: it cannot be seen, or not by itself. -/
def isHidden (c : Char) : Bool :=
  isInvisible c || isAttached c || isFiller c

/-- The escape of a character by its code point, in lower-case hexadecimal. -/
def codePointEscape (c : Char) : List Char :=
  "\\u\x7b".toList ++ Nat.toDigits 16 c.toNat ++ "\x7d".toList

def quoteChar (c : Char) : List Char :=
  match c with
  | '\x00' => ['\\', '0']
  | '\t' => ['\\', 't']
  | '\r' => ['\\', 'r']
  | '\n' => ['\\', 'n']
  | '"' => ['\\', '"']
  | '\\' => ['\\', '\\']
  | _ => if isHidden c then codePointEscape c else [c]

/-- A quoted text, as it stands in messages: between double quotes, with hidden characters written as escapes. -/
def quote (s : String) : String :=
  String.ofList ('"' :: s.toList.flatMap quoteChar ++ ['"'])

/-- A list of texts in quotes, between square brackets. -/
def quoteList (texts : List String) : String :=
  "[" ++ ", ".intercalate (texts.map quote) ++ "]"

end PageRouter.Text
