import PageRouter.Url.Domain.CombiningClass
import PageRouter.Url.Domain.Composites

namespace PageRouter.Url

/-- The parts of a syllable of Hangul: a leading consonant with a vowel, or such a syllable with a trailing
consonant. -/
def syllableParts? (c : Char) : Option (Char × Char) :=
  if 0xAC00 ≤ c.toNat ∧ c.toNat ≤ 0xD7A3 then
    let index := c.toNat - 0xAC00
    if index % 28 = 0 then
      some (Char.ofNat (0x1100 + index / 588), Char.ofNat (0x1161 + index / 28 % 21))
    else some (Char.ofNat (c.toNat - index % 28), Char.ofNat (0x11A7 + index % 28))
  else none

def syllable? (first second : Char) : Option Char :=
  let leading := first.toNat - 0x1100
  let vowel := second.toNat - 0x1161
  let trailing := second.toNat - 0x11A7
  if 0x1100 ≤ first.toNat ∧ leading < 19 ∧ 0x1161 ≤ second.toNat ∧ vowel < 21 then
    some (Char.ofNat (0xAC00 + (leading * 21 + vowel) * 28))
  else if 0xAC00 ≤ first.toNat ∧ first.toNat ≤ 0xD7A3 ∧ (first.toNat - 0xAC00) % 28 = 0 ∧
      0x11A7 < second.toNat ∧ trailing < 28 then
    some (Char.ofNat (first.toNat + trailing))
  else none

def parts? (c : Char) : Option (Char × Char) :=
  match composites.find? (·.code == c.toNat) with
  | some composite => some (Char.ofNat composite.first, Char.ofNat composite.second)
  | none => syllableParts? c

def composite? (first second : Char) : Option Char :=
  match composites.find? fun composite =>
    composite.second == second.toNat && composite.first == first.toNat with
  | some composite => some (Char.ofNat composite.code)
  | none => syllable? first second

/-- Takes a character apart, as long as its first part has parts again, up to `depth` times. -/
def decomposeChar : Nat → Char → List Char
  | 0, c => [c]
  | depth + 1, c =>
    match parts? c with
    | some (first, second) => decomposeChar depth first ++ [second]
    | none => [c]

/-- Puts a mark in front of a text, behind the marks of lower classes there. -/
def insertMark (c : Char) : List Char → List Char
  | [] => [c]
  | d :: rest =>
    if combiningClass d ≠ 0 ∧ combiningClass d < combiningClass c then d :: insertMark c rest
    else c :: d :: rest

/-- Takes all characters apart and orders the marks. A composite has three parts at most. -/
def decompose (text : List Char) : List Char :=
  (text.flatMap (decomposeChar 2)).foldr insertMark []

/-- Makes one character of `base` and each of the characters after it that has a composite with it and is not cut
off from it by a mark of the same or a higher class. `marks` are the ones that stay, the last one first. -/
def composeFrom (base : Char) (marks : List Char) : List Char → List Char
  | [] => base :: marks.reverse
  | c :: rest =>
    let reaches := marks.head?.all (combiningClass · < combiningClass c)
    match if reaches then composite? base c else none with
    | some composite => composeFrom composite marks rest
    | none =>
      if combiningClass c = 0 then base :: marks.reverse ++ composeFrom c [] rest
      else composeFrom base (c :: marks) rest

/-- The composed form of a text: marks that follow a character are brought into the order of their classes, and become
one character with it where there is one. Only composites that domains may hold are known, which is all that comes up
in images. -/
def compose (text : List Char) : List Char :=
  match decompose text with
  | [] => []
  | c :: rest => composeFrom c [] rest

end PageRouter.Url
