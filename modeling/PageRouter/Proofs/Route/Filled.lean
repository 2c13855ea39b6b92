import PageRouter.Proofs.Route.Compiled
import PageRouter.Proofs.Route.Rebuild

namespace PageRouter

/-- A piece of a template, with the value in place of the name that it binds. -/
def filledPiece (value : String → String) (piece : List Char) : List Char :=
  ((boundName? piece).map fun name => (value name).toList).getD piece

/-- A template with the values of all names that pieces of it bind. -/
def filledTemplate (value : String → String) (template : String) : String :=
  String.ofList (Text.joinPieces '/' ((Text.pieces '/' template.toList).map (filledPiece value)))

/-- A template that binds no names has nothing to fill. -/
theorem filledTemplate_of_plain {template : String}
    (hplain : ∀ piece ∈ Text.pieces '/' template.toList, boundName? piece = none) (value : String → String) :
    filledTemplate value template = template := by
  have hsame : (Text.pieces '/' template.toList).map (filledPiece value) = Text.pieces '/' template.toList := by
    refine (List.map_congr_left fun piece hpiece => ?_).trans (List.map_id _)
    rw [filledPiece, hplain piece hpiece]
    rfl
  rw [filledTemplate, hsame, Text.joinPieces_pieces, String.ofList_toList]

/-- Slashes alone bind no names. -/
theorem plain_of_slashes {template : String} (htemplate : template = "/" ∨ template = "//") :
    ∀ piece ∈ Text.pieces '/' template.toList, boundName? piece = none := by
  rcases htemplate with rfl | rfl
  · decide
  · decide

namespace IsCut

variable {template : String} {pieces : List (List Char)} {closed : Bool}

/-- What a template is cut into at all of its slashes. -/
theorem pieces_toList (hcut : IsCut template pieces closed) (hne : pieces ≠ []) :
    Text.pieces '/' template.toList = [] :: (pieces ++ if closed then [[]] else []) := by
  obtain ⟨first, more, rfl⟩ := List.exists_cons_of_ne_nil hne
  have hjoined := Text.pieces_joinPieces hcut.slash_notMem
  rw [hcut.toList_eq, Text.pieces, if_pos rfl]
  cases closed with
  | true =>
    rw [if_pos rfl, if_pos rfl, Text.pieces_append, hjoined]
    rfl
  | false =>
    rw [if_neg Bool.false_ne_true, if_neg Bool.false_ne_true, List.append_nil, List.append_nil, hjoined]

/-- Only one slash or two leave nothing between them. -/
theorem eq_nil_iff (hcut : IsCut template pieces closed) : pieces = [] ↔ template = "/" ∨ template = "//" := by
  constructor
  · rintro rfl
    have htemplate := hcut.toList_eq
    cases closed with
    | true => exact .inr (String.toList_inj.1 htemplate)
    | false => exact .inl (String.toList_inj.1 htemplate)
  · have hsame {template : String} (other : Bool) (hother : IsCut template [] other)
        (hcut : IsCut template pieces closed) : pieces = [] := by
      have hlayout := (Layout.ofTemplate?_of_isCut hcut).symm.trans (Layout.ofTemplate?_of_isCut hother)
      exact List.map_eq_nil_iff.1 (congrArg Layout.segments (Option.some.inj hlayout))
    rintro (rfl | rfl)
    · exact hsame false ⟨by decide, by decide, by decide, by decide⟩ hcut
    · exact hsame true ⟨by decide, by decide, by decide, by decide⟩ hcut

end IsCut

namespace Text

private theorem joinPieces_nil_cons {separator : Char} {parts : List (List Char)} (hparts : parts ≠ []) :
    joinPieces separator ([] :: parts) = separator :: joinPieces separator parts := by
  obtain ⟨first, more, rfl⟩ := List.exists_cons_of_ne_nil hparts
  rfl

end Text

namespace Pattern

/-- Pieces that are spelled each after a slash have a slash in front and one between each two. -/
theorem spell_eq_joinPieces {pieces : List (List Char)} (hne : pieces ≠ []) :
    spell pieces = '/' :: Text.joinPieces '/' pieces := by
  obtain ⟨first, more, rfl⟩ := List.exists_cons_of_ne_nil hne
  induction more generalizing first with
  | nil => rw [spell_cons, Text.joinPieces, spell, List.flatMap_nil, List.append_nil]
  | cons second more ih =>
    have hmore : second :: more ≠ [] := List.cons_ne_nil _ _
    rw [spell_cons, ih second hmore]
    rfl

/-- A segment is filled as the piece that it is read from. -/
theorem pieceOf_ofPiece (params : Params) (piece : List Char) :
    pieceOf params (Segment.ofPiece piece) = filledPiece (fun name => (params.get? name).getD "") piece := by
  rw [filledPiece, ← Segment.name?_ofPiece]
  unfold Segment.ofPiece
  split
  · rfl
  · exact String.toList_ofList

private theorem map_pieceOf_segments (pattern : Pattern) (params : Params) :
    pattern.segments.map (pieceOf params) =
      (pattern.segments.map Segment.text).map (filledPiece fun name => (params.get? name).getD "") := by
  obtain ⟨hsegments, -⟩ := pattern.eq_of_isCut pattern.isCut_template
  conv_lhs => rw [← hsegments]
  rw [List.map_map]
  exact List.map_congr_left fun piece _ => pieceOf_ofPiece params piece

/-- A template without a segment builds to a single slash. -/
theorem spelledPathname_of_slashes (pattern : Pattern) {params : Params}
    (htemplate : pattern.template = "/" ∨ pattern.template = "//") : pattern.spelledPathname params = ['/'] := by
  have hsegments : pattern.segments = [] := List.map_eq_nil_iff.1 (pattern.isCut_template.eq_nil_iff.2 htemplate)
  rw [spelledPathname, hsegments]
  rfl

/-- A pattern without names has no piece that binds one. -/
theorem filledTemplate_of_names_eq_nil (pattern : Pattern) (hnames : pattern.names = []) (value : String → String) :
    filledTemplate value pattern.template = pattern.template := by
  have hcut := pattern.isCut_template
  refine filledTemplate_of_plain (fun piece hpiece => ?_) value
  by_cases hnone : pattern.segments.map Segment.text = []
  · exact plain_of_slashes (hcut.eq_nil_iff.1 hnone) piece hpiece
  · have hbinds := List.filterMap_eq_nil_iff.1 (pattern.names_eq_boundNames.symm.trans hnames)
    rw [hcut.pieces_toList hnone, List.mem_cons, List.mem_append] at hpiece
    rcases hpiece with rfl | hpiece | hclosing
    · rfl
    · exact hbinds piece hpiece
    · obtain ⟨-, rfl⟩ : pattern.trailingSlash = true ∧ piece = [] := by simpa using hclosing
      rfl

/-- The pathname for parameters is the filled template, except that two slashes become one. -/
theorem ofList_spelledPathname_eq_iff (pattern : Pattern) (params : Params) :
    String.ofList (pattern.spelledPathname params) =
        filledTemplate (fun name => (params.get? name).getD "") pattern.template ↔
      pattern.template ≠ "//" := by
  have hcut := pattern.isCut_template
  by_cases hnone : pattern.segments.map Segment.text = []
  · have hslashes := hcut.eq_nil_iff.1 hnone
    rw [pattern.spelledPathname_of_slashes hslashes, filledTemplate_of_plain (plain_of_slashes hslashes)]
    rcases hslashes with htemplate | htemplate
    · rw [htemplate]
      decide
    · rw [htemplate]
      decide
  · refine iff_of_true ?_ fun htemplate => hnone (hcut.eq_nil_iff.2 (.inr htemplate))
    have hfilled : pattern.segments.map (pieceOf params) ≠ [] := by
      rw [map_pieceOf_segments]
      exact List.map_eq_nil_iff.not.2 hnone
    have hspell := spell_eq_joinPieces hfilled
    rw [filledTemplate, hcut.pieces_toList hnone, List.map_cons, List.map_append, ← map_pieceOf_segments,
      spelledPathname, hspell]
    -- The first piece and a last one behind a closing slash are empty, and stay so.
    have hempty : filledPiece (fun name => (params.get? name).getD "") [] = [] := rfl
    cases htrailing : pattern.trailingSlash with
    | true =>
      simp only [if_true, List.map_cons, List.map_nil, hempty, Bool.or_true]
      rw [Text.joinPieces_nil_cons (List.concat_ne_nil _ _), Text.joinPieces_concat_nil hfilled, List.cons_append]
    | false =>
      simp only [Bool.false_eq_true, if_false, List.map_nil, List.append_nil, hempty, Bool.or_false, decide_eq_true_eq,
        List.cons_ne_nil]
      rw [Text.joinPieces_nil_cons hfilled]

/-- A path that is built is its template with the value that was supplied for each name in place of the piece that
binds it, and with all slashes and all other characters where they were; a template that binds no names builds to
itself. Only the template that is two slashes builds to one. -/
theorem build_fills_template {pattern : Pattern} {params : Option Params} {path : String}
    (hbuild : pattern.build params none = .ok path) :
    (∀ name ∈ pattern.names, ∃ value, (params.getD .empty).get? name = some value) ∧
      (path = filledTemplate (fun name => ((params.getD .empty).get? name).getD "") pattern.template ↔
        pattern.template ≠ "//") ∧
      (pattern.names = [] → (path = pattern.template ↔ pattern.template ≠ "//")) ∧
      (pattern.template = "//" → path = "/") := by
  have hpathname : pattern.buildPathname (params.getD .empty) = .ok path := by
    rw [← build_none_eq, ← build_eq_build_some]
    exact hbuild
  obtain ⟨hmissing, -, -, rfl⟩ := buildPathname_eq_ok_iff.1 hpathname
  have hfilled := pattern.ofList_spelledPathname_eq_iff (params.getD .empty)
  refine ⟨fun name hname => ⟨_, get?_of_missing_eq_nil hmissing hname⟩, hfilled, fun hnames => ?_, fun htemplate => ?_⟩
  · rwa [pattern.filledTemplate_of_names_eq_nil hnames] at hfilled
  · rw [pattern.spelledPathname_of_slashes (.inr htemplate)]

/-- Slashes that follow each other stay, and so does the one that closes the template. -/
theorem build_fills_template_overviewPattern :
    overviewPattern.build (some ⟨[("a", "x:a"), ("b", ":a")]⟩) none = .ok "/Über//:a/x:a/" ∧
      overviewPattern.template = "/Über//:b/:a/" ∧
      "/Über//:a/x:a/" = filledTemplate
        (fun name => (Params.get? ⟨[("a", "x:a"), ("b", ":a")]⟩ name).getD "") overviewPattern.template := by
  have hbuild : overviewPattern.build (some ⟨[("a", "x:a"), ("b", ":a")]⟩) none = .ok "/Über//:a/x:a/" := by decide
  obtain ⟨-, hfilled, -⟩ := build_fills_template hbuild
  exact ⟨hbuild, rfl, hfilled.2 (by decide)⟩

/-- The pattern of two slashes, with nothing between them. -/
def slashesPattern : Pattern where
  serial := 0
  template := "//"
  layout := ⟨[], true⟩
  ignoreCase := false
  layout_eq := by decide
  nodup_names := by decide
  empty_notMem_names := by decide

/-- Two slashes compile and bind no names, but the path that is built has only one of them. -/
theorem build_slashesPattern :
    compile {} 0 "//" = .ok slashesPattern ∧ slashesPattern.names = [] ∧ slashesPattern.trailingSlash = true ∧
      slashesPattern.build none none = .ok "/" := by
  decide +kernel

end Pattern

end PageRouter
