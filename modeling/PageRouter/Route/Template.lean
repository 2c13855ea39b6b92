import PageRouter.Text.Split

namespace PageRouter

/-- One segment of a template. -/
inductive Segment where
  /-- Stands for itself. -/
  | literal (text : String)
  /-- Binds one non-empty stretch without slashes to a name. -/
  | param (name : String)
  deriving DecidableEq, Repr

namespace Segment

def ofPiece : List Char → Segment
  | ':' :: name => param (String.ofList name)
  | piece => literal (String.ofList piece)

def text : Segment → List Char
  | literal text => text.toList
  | param name => ':' :: name.toList

def name? : Segment → Option String
  | literal _ => none
  | param name => some name

theorem text_ofPiece (piece : List Char) : (ofPiece piece).text = piece := by
  unfold ofPiece
  split <;> simp [text]

end Segment

/-- The segments of a template, and whether it ends in a slash of its own. A template is a slash in front and segments
between slashes, where a segment that starts with a colon binds a parameter; its layout gives back its text. -/
structure Layout where
  segments : List Segment
  trailingSlash : Bool
  deriving DecidableEq, Repr

namespace Layout

/-- Reads what follows the leading slash of a template. -/
def ofBody (body : List Char) : Layout :=
  let trailingSlash := body.getLast? == some '/'
  let body := if trailingSlash then body.dropLast else body
  ⟨if body.isEmpty then [] else (Text.pieces '/' body).map Segment.ofPiece, trailingSlash⟩

def ofTemplate? (template : String) : Option Layout :=
  match template.toList with
  | '/' :: body => some (ofBody body)
  | _ => none

def names (layout : Layout) : List String :=
  layout.segments.filterMap Segment.name?

def body (layout : Layout) : List Char :=
  Text.joinPieces '/' (layout.segments.map Segment.text) ++ if layout.trailingSlash then ['/'] else []

private theorem body_ofBody (text : List Char) : (ofBody text).body = text := by
  have joined : ∀ body : List Char,
      Text.joinPieces '/' ((if body.isEmpty then [] else
        (Text.pieces '/' body).map Segment.ofPiece).map Segment.text) = body := by
    intro body
    split
    · next h => simp [List.isEmpty_iff.1 h, Text.joinPieces]
    · simp [List.map_map, Function.comp_def, Segment.text_ofPiece, Text.joinPieces_pieces]
  unfold ofBody body
  by_cases h : text.getLast? = some '/'
  · obtain ⟨init, rfl⟩ := List.getLast?_eq_some_iff.1 h
    simp only [h, beq_self_eq_true, if_true, joined, List.dropLast_concat]
  · have h' : (text.getLast? == some '/') = false := by simpa using h
    simp only [h', if_false, Bool.false_eq_true, List.append_nil, joined]

theorem ofTemplate?_inj {a b : String} {layout : Layout} (ha : ofTemplate? a = some layout)
    (hb : ofTemplate? b = some layout) : a = b := by
  unfold ofTemplate? at ha hb
  split at ha <;> split at hb <;> simp_all only [Option.some.injEq, reduceCtorEq]
  rename_i _ x hx _ y hy
  rw [← String.toList_inj, hx, hy, ← body_ofBody x, ← body_ofBody y, ha, hb]

end Layout

end PageRouter
