import PageRouter.Url.Domain.ImageRow

namespace PageRouter.Url

/-- What letters and marks below U+2000 are written as in domains. -/
def letterRows : List ImageRow := [
  ⟨0xAA, "a"⟩,
  ⟨0xB2, "2 3"⟩,
  ⟨0xB9, "1 o  1⁄4 1⁄2 3⁄4"⟩,
  ⟨0x130, "i\u0307  ij ij"⟩,
  ⟨0x13F, "l· l·"⟩,
  ⟨0x149, "ʼn"⟩,
  ⟨0x1C4, "dž dž dž lj lj lj nj nj nj"⟩,
  ⟨0x1F1, "dz dz dz"⟩,
  ⟨0x2B0, "h ɦ j r ɹ ɻ ʁ w y"⟩,
  ⟨0x2E0, "ɣ l s x ʕ"⟩,
  ⟨0x340, "\u0300 \u0301  \u0313 \u0308\u0301"⟩,
  ⟨0x374, "ʹ"⟩,
  ⟨0x37E, ";"⟩,
  ⟨0x387, "·"⟩,
  ⟨0x3C2, "ς"⟩,
  ⟨0x3D2, "υ ύ ϋ"⟩,
  ⟨0x3F2, "σ"⟩,
  ⟨0x3F9, "σ"⟩,
  ⟨0x587, "եւ"⟩,
  ⟨0x675, "\u0627\u0674 \u0648\u0674 \u06c7\u0674 \u064a\u0674"⟩,
  ⟨0x958, "क\u093c ख\u093c ग\u093c ज\u093c ड\u093c ढ\u093c फ\u093c य\u093c"⟩,
  ⟨0x9DC, "ড\u09bc ঢ\u09bc  য\u09bc"⟩,
  ⟨0xA33, "ਲ\u0a3c   ਸ\u0a3c"⟩,
  ⟨0xA59, "ਖ\u0a3c ਗ\u0a3c ਜ\u0a3c   ਫ\u0a3c"⟩,
  ⟨0xB5C, "ଡ\u0b3c ଢ\u0b3c"⟩,
  ⟨0xE33, "\u0e4dา"⟩,
  ⟨0xEB3, "\u0ecdາ"⟩,
  ⟨0xEDC, "ຫນ ຫມ"⟩,
  ⟨0xF0C, "་"⟩,
  ⟨0xF43, "ག\u0fb7"⟩,
  ⟨0xF4D, "ཌ\u0fb7"⟩,
  ⟨0xF52, "ད\u0fb7"⟩,
  ⟨0xF57, "བ\u0fb7"⟩,
  ⟨0xF5C, "ཛ\u0fb7"⟩,
  ⟨0xF69, "ཀ\u0fb5"⟩,
  ⟨0xF73, "\u0f71\u0f72  \u0f71\u0f74 \u0fb2\u0f80 \u0fb2\u0f71\u0f80 \u0fb3\u0f80"⟩,
  ⟨0xF79, "\u0fb3\u0f71\u0f80"⟩,
  ⟨0xF81, "\u0f71\u0f80"⟩,
  ⟨0xF93, "\u0f92\u0fb7"⟩,
  ⟨0xF9D, "\u0f9c\u0fb7"⟩,
  ⟨0xFA2, "\u0fa1\u0fb7"⟩,
  ⟨0xFA7, "\u0fa6\u0fb7"⟩,
  ⟨0xFAC, "\u0fab\u0fb7"⟩,
  ⟨0xFB9, "\u0f90\u0fb5"⟩,
  ⟨0x10FC, "ნ"⟩,
  ⟨0x1D2C, "a æ b  d e ǝ g h i j k l m n  o ȣ p r t u w a ɐ ɑ ᴂ b d e ə ɛ ɜ g  k m ŋ o ɔ ᴖ ᴗ p"⟩,
  ⟨0x1D57, "t u ᴝ ɯ v ᴥ β γ δ φ χ i r u v β γ ρ φ χ"⟩,
  ⟨0x1D78, "н"⟩,
  ⟨0x1D9B, "ɒ c ɕ ð ɜ f ɟ ɡ ɥ ɨ ɩ ɪ ᵻ ʝ ɭ ᶅ ʟ ɱ ɰ ɲ ɳ ɴ ɵ ɸ ʂ ʃ ƫ ʉ ʊ ᴜ ʋ ʌ z ʐ ʑ ʒ θ"⟩,
  ⟨0x1E9A, "aʾ"⟩,
  ⟨0x1F71, "ά  έ  ή  ί  ό  ύ  ώ   ἀι ἁι ἂι ἃι ἄι ἅι ἆι ἇι ἀι ἁι ἂι ἃι ἄι ἅι ἆι ἇι ἠι ἡι ἢι ἣι"⟩,
  ⟨0x1F94, "ἤι ἥι ἦι ἧι ἠι ἡι ἢι ἣι ἤι ἥι ἦι ἧι ὠι ὡι ὢι ὣι ὤι ὥι ὦι ὧι ὠι ὡι ὢι ὣι ὤι ὥι ὦι ὧι"⟩,
  ⟨0x1FB2, "ὰι αι άι   ᾶι    ά αι"⟩,
  ⟨0x1FC2, "ὴι ηι ήι   ῆι  έ  ή ηι"⟩,
  ⟨0x1FDB, "ί"⟩,
  ⟨0x1FEB, "ύ    `   ὼι ωι ώι   ῶι  ό  ώ ωι"⟩]

end PageRouter.Url
