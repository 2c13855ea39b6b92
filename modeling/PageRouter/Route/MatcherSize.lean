import PageRouter.Route.Template
import PageRouter.Text.CaseFold
import PageRouter.Text.Utf8

namespace PageRouter

/-- The memory that a machine of a matcher may take, in bytes. A matcher holds two machines that read paths byte by
byte, one from the front and one from the back. Each of their states takes 32 bytes. A state with several ways to go
takes 8 bytes more for each of them if they are told apart by bytes, and 4 bytes more if they are not. -/
def matcherLimit : Nat := 1048576

/-- The bytes from the first one to the second one. -/
abbrev ByteRange := Nat × Nat

/-- Cuts ascending code points into spans of consecutive ones that differ in their last byte only. -/
def codeSpans : List Nat → List (Nat × Nat)
  | [] => []
  | code :: more =>
    match codeSpans more with
    | (first, last) :: spans =>
      if first = code + 1 ∧ first % 64 ≠ 0 then (code, last) :: spans
      else (code, code) :: (first, last) :: spans
    | [] => [(code, code)]

/-- The bytes of the characters of a span, with a range in the last place. -/
def spanBytes (span : Nat × Nat) : List ByteRange :=
  let bytes := (Text.encode [Char.ofNat span.1]).map (·.toNat)
  let last := bytes.getLastD 0
  bytes.dropLast.map (fun b => (b, b)) ++ [(last, last + (span.2 - span.1))]

/-- What some texts begin with, cut before each of their bytes. -/
def beginnings (texts : List (List ByteRange)) : List (List ByteRange) :=
  (texts.flatMap fun text => (List.range text.length).map text.take).eraseDups

/-- How some texts go on after a beginning. -/
def endings (texts : List (List ByteRange)) (beginning : List ByteRange) : List (List ByteRange) :=
  texts.filterMap fun text =>
    if beginning.isPrefixOf text then some (text.drop beginning.length) else none

/-- The states that read one of some texts from the front: one state for each way to go on, and one at the end. -/
def forwardChoiceSize (texts : List (List ByteRange)) : Nat :=
  (((beginnings texts).map (endings texts)).eraseDups).foldl (fun size node =>
    size + 32 + 8 * (node.map List.head?).eraseDups.length) 32

/-- The states that read one of some texts from the back: one for each text up to each of its bytes, one that
branches, and one at the end. -/
def backwardChoiceSize (texts : List (List ByteRange)) : Nat :=
  let states := (texts.flatMap fun text => (List.range text.length).map fun n => text.take (n + 1)).eraseDups
  64 + 4 * texts.length + 32 * states.length

/-- The way in which a machine goes through a path. -/
inductive MatcherWay where
  | forward
  | backward
  deriving DecidableEq, Repr

namespace MatcherWay

def charSize (way : MatcherWay) (ignoreCase : Bool) (c : Char) : Nat :=
  let codes := if ignoreCase then Text.variants c else [c.toNat]
  if codes.length = 1 then 32 * c.utf8Size
  else if codes.all (· < 128) then 64 + 8 * codes.length
  else
    let texts := (codeSpans codes).map spanBytes
    match way with
    | forward => forwardChoiceSize texts
    | backward => backwardChoiceSize texts

/-- The memory for reading a segment with the slash before it. -/
def segmentSize (way : MatcherWay) (ignoreCase : Bool) : Segment → Nat
  | .literal text => text.toList.foldl (fun size c => size + way.charSize ignoreCase c) 32
  | .param _ =>
    match way with
    | forward => 560
    | backward => 1072

/-- The memory for all segments, both ends of the path and the slash that may close it. -/
def layoutSize (way : MatcherWay) (ignoreCase : Bool) (layout : Layout) : Nat :=
  layout.segments.foldl (fun size segment => size + way.segmentSize ignoreCase segment)
    (match way with
      | forward => 296
      | backward => 232)

end MatcherWay

/-- Whether the matcher for some segments is small enough. -/
def Layout.hasSmallMatcher (ignoreCase : Bool) (layout : Layout) : Bool :=
  MatcherWay.forward.layoutSize ignoreCase layout ≤ matcherLimit &&
    MatcherWay.backward.layoutSize ignoreCase layout ≤ matcherLimit

end PageRouter
