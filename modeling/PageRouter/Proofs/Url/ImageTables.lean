import PageRouter.Proofs.Url.CharacterParts
import PageRouter.Url.Domain.Image

namespace PageRouter.Url

open Text (codeSet rangeSet unionSet)

/-- Rows of images with the characters of their texts, one by one. The texts of the tables are literals, so that each
of them is some text of characters by definition. -/
structure Spelling (rows : List ImageRow) where
  texts : List (Nat × List Char)
  rows_eq : rows = texts.map fun text => ⟨text.1, String.ofList text.2⟩

/-- No rows. -/
def Spelling.nil : Spelling [] :=
  ⟨[], rfl⟩

/-- A row in front of others, from the characters of its text. -/
def Spelling.cons (first : Nat) (chars : List Char) {rows : List ImageRow} (more : Spelling rows) :
    Spelling (⟨first, String.ofList chars⟩ :: rows) :=
  ⟨(first, chars) :: more.texts, congrArg _ more.rows_eq⟩

/-- Rows behind other rows. -/
def Spelling.append {front back : List ImageRow} (first : Spelling front) (second : Spelling back) :
    Spelling (front ++ back) :=
  ⟨first.texts ++ second.texts, by rw [List.map_append, ← first.rows_eq, ← second.rows_eq]⟩

section Rows

set_option maxRecDepth 10000

/-- The images of letters. -/
def letterSpelling : Spelling letterRows := by
  repeat refine Spelling.cons _ _ ?_
  exact Spelling.nil

/-- The images of symbols. -/
def symbolSpelling : Spelling symbolRows := by
  repeat refine Spelling.cons _ _ ?_
  exact Spelling.nil

/-- The images of ideographs. -/
def ideographSpelling : Spelling ideographRows := by
  repeat refine Spelling.cons _ _ ?_
  exact Spelling.nil

/-- The images of forms. -/
def formSpelling : Spelling formRows := by
  repeat refine Spelling.cons _ _ ?_
  exact Spelling.nil

/-- The images of Arabic forms. -/
def arabicSpelling : Spelling arabicRows := by
  repeat refine Spelling.cons _ _ ?_
  exact Spelling.nil

/-- The images of mathematical characters. -/
def mathematicsSpelling : Spelling mathematicsRows := by
  repeat refine Spelling.cons _ _ ?_
  exact Spelling.nil

end Rows

/-- All images, table by table. -/
def imageSpelling : Spelling imageRows :=
  ((((letterSpelling.append symbolSpelling).append ideographSpelling).append formSpelling).append arabicSpelling).append
    mathematicsSpelling

/-- The code points that a row has images for. -/
def rowCodes (text : Nat × List Char) : List Nat :=
  (((Text.pieces ' ' text.2).zipIdx text.1).filter fun place => !place.1.isEmpty && place.2 < text.1 + 64).map (·.2)

/-- The code points that some row has an image for. -/
def rowSet : Nat := unionSet (fun text => codeSet (rowCodes text)) imageSpelling.texts

/-- The code points that a run of case folding reaches. -/
def foldCodes (run : Text.FoldRun) : List Nat :=
  (List.range ((run.last - run.first) / run.step + 1)).map fun k => run.first + k * run.step

/-- What case folding makes of the characters without an image of their own. -/
def foldTargets (run : Text.FoldRun) : List Nat :=
  ((foldCodes run).filter (!rowSet.testBit ·)).map fun code => run.target + (code - run.first)

/-- The code points that are written as something else in a domain, or may not stand there. Final sigma is one of them,
as it is among those that are folded, although it has itself as an image. -/
def changedSet : Nat :=
  unionSet id [rangeSet [(0x41, 0x5A)], rangeSet leftOutRanges, rangeSet excludedRanges,
    rangeSet Text.invisibleRangesLow, rangeSet Text.invisibleRangesMiddle, rangeSet Text.invisibleRangesHigh, rowSet,
    unionSet (fun run => codeSet (foldCodes run)) Text.foldRuns]

/-- The code points of images, of parts, and of composites, table by table. -/
def imageParts : List Nat :=
  [unionSet (fun text => codeSet (text.2.map Char.toNat)) imageSpelling.texts,
    unionSet (fun run => codeSet (foldTargets run)) Text.foldRuns, codeSet compositeCodes, codeSet firstCodes,
    codeSet secondCodes, rangeSet letterRanges, rangeSet syllableRanges]

/-- The code points that images are made of, and those of parts and composites. -/
def imageSet : Nat := unionSet id imageParts

/-- Whatever is an image, a part or a composite is written as itself in a domain, but for final sigma, which is only
kept from being folded. -/
theorem changedSet_and_imageSet : changedSet &&& imageSet = 1 <<< 0x3C2 := by decide +kernel

end PageRouter.Url
