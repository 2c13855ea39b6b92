import PageRouter.Text.FoldRuns

namespace PageRouter.Text

/-- The code point that a run of the table assigns, or nothing outside the run. -/
def FoldRun.image? (run : FoldRun) (code : Nat) : Option Nat :=
  if run.first ≤ code ∧ code ≤ run.last ∧ (code - run.first) % run.step = 0 then
    some (run.target + (code - run.first))
  else none

/-- The code point that a run takes to another one, or nothing if the run does not reach that one. -/
def FoldRun.source? (run : FoldRun) (code : Nat) : Option Nat :=
  if run.target ≤ code ∧ code - run.target ≤ run.last - run.first ∧ (code - run.target) % run.step = 0 then
    some (run.first + (code - run.target))
  else none

/-- Simple case folding of one character. Two characters are the same letter if it takes them to one character. -/
def foldChar (c : Char) : Char :=
  match foldRuns.findSome? (·.image? c.toNat) with
  | some code => Char.ofNat code
  | none => c

/-- The code points of all characters that are the same letter as a character, in ascending order. -/
def variants (c : Char) : List Nat :=
  let folded := (foldChar c).toNat
  (folded :: foldRuns.filterMap (·.source? folded)).mergeSort

/-- Whether two texts agree letter by letter up to case. They have equally many characters then, since folding never
changes that. -/
def sameFolded (a b : List Char) : Bool :=
  a.map foldChar == b.map foldChar

theorem sameFolded_refl (a : List Char) : sameFolded a a = true := by
  simp [sameFolded]

end PageRouter.Text
