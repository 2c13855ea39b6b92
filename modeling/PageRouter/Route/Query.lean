import PageRouter.Text.Percent
import PageRouter.Text.Split
import PageRouter.Text.Utf8

namespace PageRouter

def querySign : Char := '?'

def fragmentSign : Char := '#'

namespace Query

/-- A text with exactly one sign in front, or nothing if only signs are there. -/
def normalize? (sign : Char) (raw : String) : Option String :=
  match raw.toList.dropWhile (· == sign) with
  | [] => none
  | body => some (String.ofList (sign :: body))

/-- A query with exactly one question mark in front, or nothing if it is empty. -/
def normalizeSearch? (raw : String) : Option String :=
  normalize? querySign raw

/-- A fragment with exactly one number sign in front, or nothing if it is empty. -/
def normalizeHash? (raw : String) : Option String :=
  normalize? fragmentSign raw

/-- Whether the form encoding leaves a byte as it is: letters, digits and `*-._`. -/
def isPlain (b : UInt8) : Bool :=
  (0x30 ≤ b && b ≤ 0x39) || (0x41 ≤ b && b ≤ 0x5A) || (0x61 ≤ b && b ≤ 0x7A) ||
    b == 0x2A || b == 0x2D || b == 0x2E || b == 0x5F

/-- A byte in the form encoding; a space becomes a plus sign. -/
def encodeByte (b : UInt8) : List Char :=
  if isPlain b then [Char.ofNat b.toNat]
  else if b = 0x20 then ['+']
  else Text.percentEscape b

def encodeText (text : String) : List Char :=
  (Text.encode text.toList).flatMap encodeByte

/-- A name and a value with an equals sign between them. -/
def encodePair (pair : String × String) : List Char :=
  encodeText pair.1 ++ '=' :: encodeText pair.2

/-- Pairs in the form encoding of web forms, in order, without a question mark. -/
def encode (pairs : List (String × String)) : String :=
  String.ofList (Text.joinPieces '&' (pairs.map encodePair))

def decodeText (text : List Char) : String :=
  let bytes := (Text.encode text).map fun b => if b = 0x2B then 0x20 else b
  String.ofList (Text.decodeLossy (Text.percentDecode bytes))

/-- The pair in a piece between ampersands. A piece without an equals sign is a name with an empty value. -/
def decodePair (piece : List Char) : String × String :=
  let (name, value) := Text.cutAtFirst '=' piece
  (decodeText name, decodeText value)

/-- The pairs in a query, with or without its question mark. Every text reads as pairs; empty pieces are no pairs. -/
def parse (search : String) : List (String × String) :=
  let body :=
    match search.toList with
    | '?' :: body => body
    | body => body
  ((Text.pieces '&' body).filter (!·.isEmpty)).map decodePair

end Query

end PageRouter
