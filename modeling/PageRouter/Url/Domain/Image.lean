import PageRouter.Text.CaseFold
import PageRouter.Url.Domain.Excluded
import PageRouter.Url.Domain.Images.Arabic
import PageRouter.Url.Domain.Images.Forms
import PageRouter.Url.Domain.Images.Ideographs
import PageRouter.Url.Domain.Images.Letters
import PageRouter.Url.Domain.Images.Mathematics
import PageRouter.Url.Domain.Images.Symbols

namespace PageRouter.Url

def imageRows : List ImageRow :=
  letterRows ++ symbolRows ++ ideographRows ++ formRows ++ arabicRows ++ mathematicsRows

/-- What a character of a domain is written as, if it may stand there: capital letters as small ones, and characters
that are another way to write others as those. -/
def domainImage? (c : Char) : Option (List Char) :=
  if c.toNat < 128 then some [c.toLower]
  else if isLeftOut c then some []
  else
    match imageRows.findSome? (·.image? c.toNat) with
    | some image => some image
    | none => if isAllowed (Text.foldChar c) then some [Text.foldChar c] else none

end PageRouter.Url
