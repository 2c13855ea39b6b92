import PageRouter.Text.Split

namespace PageRouter.Url

/-- The images of consecutive characters from `first` on, with blanks between them. Where two blanks meet, the
character in that place has no image here. -/
structure ImageRow where
  first : Nat
  images : String

/-- The image that a row gives to a code point. A row has at most 64 images. -/
def ImageRow.image? (row : ImageRow) (code : Nat) : Option (List Char) :=
  if row.first ≤ code ∧ code < row.first + 64 then
    ((Text.pieces ' ' row.images.toList)[code - row.first]?).filter (!·.isEmpty)
  else none

end PageRouter.Url
