import PageRouter.Text.Percent
import PageRouter.Text.Split
import PageRouter.Text.Utf8
import PageRouter.Url.Domain.Composition
import PageRouter.Url.Domain.Direction
import PageRouter.Url.Domain.Image
import PageRouter.Url.Domain.Joining
import PageRouter.Url.Punycode

namespace PageRouter.Url

/-- ASCII characters that no domain may hold: controls, the space, and the signs that mean something in an
address. -/
def isForbiddenInDomain (c : Char) : Bool :=
  c.toNat ≤ 0x20 || c.toNat = 0x7F || "%#/:<>?@[\\]^|".toList.contains c

/-- Whether a text is what its own characters are written as. -/
def isCanonical (text : List Char) : Bool :=
  text.all (fun c => domainImage? c == some [c]) && compose text == text

/-- Whether a text outside of ASCII may be a label: it starts with no mark, its joiners show, and it has at most
1000 characters. -/
def isLabel (text : List Char) : Bool :=
  !(text.head?.any Text.isMark) && joinsWell [] text && text.length ≤ 1000

/-- What marks a label in Punycode. -/
def punycodeMark : List Char := ['x', 'n', '-', '-']

/-- The label that a text in Punycode, of at most 2000 characters, stands for. It has to need Punycode, and it may
have no other way to be written. -/
def punycodeLabel? (text : List Char) : Option (List Char) := do
  if 2000 < text.length then none
  let label ← Punycode.decode? text
  if label.any (128 ≤ ·.toNat) && isCanonical label then some label else none

def readLabel? (label : List Char) : Option (List Char) := do
  let label ← if punycodeMark.isPrefixOf label then punycodeLabel? (label.drop 4) else some label
  if label.all (·.toNat < 128) || isLabel label then some label else none

def labelText (label : List Char) : List Char :=
  if label.all (·.toNat < 128) then label else punycodeMark ++ Punycode.encode label

/-- Reads a domain, with percent-encoded bytes: every character by its image, in composed form, with labels outside of
ASCII in Punycode. -/
def domain? (text : List Char) : Option (List Char) := do
  let decoded ← Text.decode? (Text.percentDecode (Text.encode text))
  let images ← decoded.mapM domainImage?
  let labels ← (Text.pieces '.' (compose images.flatten)).mapM readLabel?
  let domain := Text.joinPieces '.' (labels.map labelText)
  if !keepOrder labels || domain.any isForbiddenInDomain then none else some domain

end PageRouter.Url
