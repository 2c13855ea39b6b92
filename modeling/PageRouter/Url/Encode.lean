import PageRouter.Text.Percent
import PageRouter.Text.Utf8

namespace PageRouter.Url

/-- Controls and everything outside of ASCII, encoded in every part. -/
def isControl (c : Char) : Bool :=
  c.toNat < 0x20 || 0x7E < c.toNat

/-- What a fragment does not show as it is. -/
def isEncodedInFragment (c : Char) : Bool :=
  isControl c || " \"<>`".toList.contains c

/-- What a path does not show as it is. -/
def isEncodedInPath (c : Char) : Bool :=
  isEncodedInFragment c || "#?\x7b\x7d".toList.contains c

/-- What user names and passwords do not show as they are. -/
def isEncodedInUserinfo (c : Char) : Bool :=
  isEncodedInPath c || "/:;=@[\\]^|".toList.contains c

/-- What a query does not show as it is; the queries of web addresses encode single quotes too. -/
def isEncodedInQuery (special : Bool) (c : Char) : Bool :=
  isControl c || " \"#<>".toList.contains c || (special && c == '\'')

/-- Percent-encodes the bytes of the characters that a part does not show as they are. -/
def encodePart (isEncoded : Char → Bool) (text : List Char) : List Char :=
  text.flatMap fun c => if isEncoded c then (Text.encode [c]).flatMap Text.percentEscape else [c]

end PageRouter.Url
