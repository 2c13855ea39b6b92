import PageRouter.Route.Pattern

namespace PageRouter

namespace Text

variable {separator : Char}

private theorem eq_nil_or_singleton_of_joinPieces_eq_nil {parts : List (List Char)}
    (hjoin : joinPieces separator parts = []) : parts = [] ∨ parts = [[]] := by
  cases parts with
  | nil => exact .inl rfl
  | cons first more =>
    cases more with
    | nil => exact .inr (congrArg (fun part => [part]) hjoin)
    | cons second more => simp [joinPieces] at hjoin

/-- A joined text ends as its last piece does. -/
theorem exists_joinPieces_concat (parts : List (List Char)) (part : List Char) (c : Char) :
    ∃ before, joinPieces separator (parts ++ [part ++ [c]]) = before ++ [c] := by
  induction parts with
  | nil => exact ⟨part, rfl⟩
  | cons first more ih =>
    obtain ⟨before, hbefore⟩ := ih
    refine ⟨first ++ separator :: before, ?_⟩
    rw [List.cons_append, joinPieces, hbefore, List.append_assoc, List.cons_append]
    exact List.concat_ne_nil _ _

/-- A joined text ends in no separator, if its last piece is not empty and no piece holds one. -/
theorem getLast?_joinPieces_ne {parts : List (List Char)} (hparts : ∀ part ∈ parts, separator ∉ part)
    (hlast : parts.getLast? ≠ some []) : (joinPieces separator parts).getLast? ≠ some separator := by
  cases hend : parts.getLast? with
  | none =>
    rw [List.getLast?_eq_none_iff.1 hend]
    exact (Option.some_ne_none _).symm
  | some last =>
    obtain ⟨before, rfl⟩ := List.getLast?_eq_some_iff.1 hend
    cases hlastEnd : last.getLast? with
    | none => exact absurd (hend.trans (congrArg some (List.getLast?_eq_none_iff.1 hlastEnd))) hlast
    | some c =>
      obtain ⟨init, rfl⟩ := List.getLast?_eq_some_iff.1 hlastEnd
      obtain ⟨front, hjoin⟩ := @exists_joinPieces_concat separator before init c
      rw [hjoin, List.getLast?_concat]
      intro heq
      refine hparts (init ++ [c]) (List.mem_append_right _ List.mem_cons_self) ?_
      exact Option.some.inj heq ▸ List.mem_append_right _ List.mem_cons_self

/-- An empty piece at the end leaves a separator there. -/
theorem joinPieces_concat_nil {parts : List (List Char)} (hparts : parts ≠ []) :
    joinPieces separator (parts ++ [[]]) = joinPieces separator parts ++ [separator] := by
  induction parts with
  | nil => exact absurd rfl hparts
  | cons first more ih =>
    cases more with
    | nil => rfl
    | cons second more =>
      have hsplit : joinPieces separator (first :: second :: more) =
          first ++ separator :: joinPieces separator (second :: more) := rfl
      rw [List.cons_append, joinPieces, ih (List.cons_ne_nil _ _), hsplit, List.append_assoc, List.cons_append]
      exact List.concat_ne_nil _ _

/-- The last piece of a text is not empty, unless the text is empty or ends in a separator. -/
theorem getLast?_pieces_ne {text : List Char} (hne : text ≠ []) (hlast : text.getLast? ≠ some separator) :
    (pieces separator text).getLast? ≠ some [] := by
  intro hempty
  have hjoin := joinPieces_pieces separator text
  obtain ⟨before, hpieces⟩ := List.getLast?_eq_some_iff.1 hempty
  rw [hpieces] at hjoin
  by_cases hbefore : before = []
  · rw [hbefore] at hjoin
    exact hne hjoin.symm
  · rw [joinPieces_concat_nil hbefore] at hjoin
    exact hlast (by rw [← hjoin, List.getLast?_concat])

end Text

/-- The pieces of a template between slashes, behind its first slash and before the last one that may close it. -/
structure IsCut (template : String) (pieces : List (List Char)) (closed : Bool) : Prop where
  toList_eq : template.toList = '/' :: (Text.joinPieces '/' pieces ++ if closed then ['/'] else [])
  slash_notMem : ∀ piece ∈ pieces, '/' ∉ piece
  /-- Where nothing is left, there is no piece. -/
  ne_singleton : pieces ≠ [[]]
  /-- A slash at the end closes the template. -/
  getLast?_ne : closed = false → pieces.getLast? ≠ some []

/-- The name that a piece binds. -/
def boundName? : List Char → Option String
  | ':' :: name => some (String.ofList name)
  | _ => none

/-- A segment binds the name that its piece binds. -/
theorem Segment.name?_ofPiece (piece : List Char) : (ofPiece piece).name? = boundName? piece := by
  unfold ofPiece boundName?
  split
  · rfl
  · next hparam => simp [name?]

namespace Layout

variable {template : String} {pieces : List (List Char)} {closed : Bool} {layout : Layout}

private theorem map_ofPiece_joinPieces (hslash : ∀ piece ∈ pieces, '/' ∉ piece) (hne : pieces ≠ [[]]) :
    (if (Text.joinPieces '/' pieces).isEmpty then [] else
      (Text.pieces '/' (Text.joinPieces '/' pieces)).map Segment.ofPiece) = pieces.map Segment.ofPiece := by
  cases pieces with
  | nil => rfl
  | cons first more =>
    have hjoin : Text.joinPieces '/' (first :: more) ≠ [] := fun hnil =>
      (Text.eq_nil_or_singleton_of_joinPieces_eq_nil hnil).elim (List.cons_ne_nil _ _) hne
    rw [if_neg (by simpa using hjoin), Text.pieces_joinPieces hslash]

/-- A template is read as the segments that its pieces are. -/
theorem ofTemplate?_of_isCut (hcut : IsCut template pieces closed) :
    ofTemplate? template = some ⟨pieces.map Segment.ofPiece, closed⟩ := by
  have hsegments := map_ofPiece_joinPieces hcut.slash_notMem hcut.ne_singleton
  rw [ofTemplate?, hcut.toList_eq]
  cases closed with
  | true => simp only [ofBody, if_true, List.getLast?_concat, beq_self_eq_true, List.dropLast_concat, hsegments]
  | false =>
    have hlast : ((Text.joinPieces '/' pieces).getLast? == some '/') = false :=
      beq_eq_false_iff_ne.2 (Text.getLast?_joinPieces_ne hcut.slash_notMem (hcut.getLast?_ne rfl))
    simp only [ofBody, Bool.false_eq_true, if_false, List.append_nil, hlast, hsegments]

/-- What stands between the first slash and a last one that may close a template is cut at its slashes, unless it is
empty. -/
theorem exists_isCut_of_toList_eq {inner : List Char}
    (htemplate : template.toList = '/' :: (inner ++ if closed then ['/'] else []))
    (hlast : closed = false → inner.getLast? ≠ some '/') : ∃ pieces, IsCut template pieces closed := by
  by_cases hnil : inner = []
  · refine ⟨[], ?_, ?_, ?_, ?_⟩
    · rw [htemplate, hnil, Text.joinPieces]
    · exact fun piece hpiece => absurd hpiece List.not_mem_nil
    · exact (List.cons_ne_nil _ _).symm
    · exact fun _ => (Option.some_ne_none _).symm
  · refine ⟨Text.pieces '/' inner, ?_, ?_, ?_, ?_⟩
    · rw [Text.joinPieces_pieces, htemplate]
    · exact fun piece hpiece => Text.not_mem_of_mem_pieces hpiece
    · intro hsingle
      have hjoin := Text.joinPieces_pieces '/' inner
      rw [hsingle] at hjoin
      exact hnil hjoin.symm
    · exact fun hopen => Text.getLast?_pieces_ne hnil (hlast hopen)

/-- Every text that starts with a slash can be cut. -/
theorem exists_isCut {body : List Char} (hbody : template.toList = '/' :: body) :
    ∃ pieces closed, IsCut template pieces closed := by
  by_cases hlast : body.getLast? = some '/'
  · obtain ⟨inner, rfl⟩ := List.getLast?_eq_some_iff.1 hlast
    obtain ⟨pieces, hcut⟩ := @exists_isCut_of_toList_eq _ true _ hbody Bool.noConfusion
    exact ⟨pieces, true, hcut⟩
  · rw [← List.append_nil body] at hbody
    obtain ⟨pieces, hcut⟩ := @exists_isCut_of_toList_eq _ false _ hbody fun _ => hlast
    exact ⟨pieces, false, hcut⟩

/-- The layout of a template says how it is cut. -/
theorem ofTemplate?_eq_some_iff :
    ofTemplate? template = some layout ↔
      ∃ pieces closed, IsCut template pieces closed ∧ layout = ⟨pieces.map Segment.ofPiece, closed⟩ := by
  constructor
  · intro hlayout
    obtain ⟨body, hbody⟩ : ∃ body, template.toList = '/' :: body := by
      unfold ofTemplate? at hlayout
      split at hlayout
      · next body hbody => exact ⟨body, hbody⟩
      · cases hlayout
    obtain ⟨pieces, closed, hcut⟩ := exists_isCut hbody
    have hsame := ofTemplate?_of_isCut hcut
    rw [hlayout] at hsame
    exact ⟨pieces, closed, hcut, Option.some.inj hsame⟩
  · rintro ⟨pieces, closed, hcut, rfl⟩
    exact ofTemplate?_of_isCut hcut

private theorem names_map_ofPiece : names ⟨pieces.map Segment.ofPiece, closed⟩ = pieces.filterMap boundName? := by
  rw [names, List.filterMap_map]
  exact congrArg (List.filterMap · pieces) (funext Segment.name?_ofPiece)

private theorem map_text_map_ofPiece : (pieces.map Segment.ofPiece).map Segment.text = pieces := by
  rw [List.map_map]
  exact List.map_id'' Segment.text_ofPiece pieces

end Layout

namespace Pattern

variable {settings : Settings} {serial : Nat} {template : String} {pattern : Pattern}

/-- Compiling a template gives the pattern of the template that compares letters as the settings say, if the template,
its segments and its matcher are within the limits. -/
theorem compile_eq_ok_iff :
    compile settings serial template = .ok pattern ↔
      pattern.serial = serial ∧ pattern.template = template ∧ pattern.ignoreCase = settings.ignoreCase ∧
        template.utf8ByteSize ≤ settings.maxTemplateLength ∧
        pattern.segments.length ≤ settings.maxTemplateSegments ∧
        pattern.layout.hasSmallMatcher settings.ignoreCase = true := by
  constructor
  · intro hcompile
    unfold compile at hcompile
    split at hcompile
    · cases hcompile
    split at hcompile
    · cases hcompile
    next hlength =>
    split at hcompile
    · cases hcompile
    next hsegments =>
    split at hcompile
    · cases hcompile
    split at hcompile
    · next hsmall =>
      cases hcompile
      exact ⟨rfl, rfl, rfl, Nat.le_of_not_gt hlength, Nat.le_of_not_gt hsegments, hsmall⟩
    · cases hcompile
  · rintro ⟨rfl, rfl, hcase, hlength, hsegments, hsmall⟩
    unfold compile
    split
    · next hnone =>
      rw [pattern.layout_eq] at hnone
      cases hnone
    · next layout hlayout =>
      rw [segments] at hsegments
      obtain rfl : pattern.layout = layout := Option.some.inj (pattern.layout_eq.symm.trans hlayout)
      rw [if_neg (Nat.not_lt.2 hlength), if_neg (Nat.not_lt.2 hsegments)]
      split
      · next flaw hflaw =>
        have hnone := nameFlaw?_eq_none_iff.2
          ⟨pattern.nodup_names, pattern.empty_notMem_names, fun name _ => List.not_mem_nil⟩
        rw [hflaw] at hnone
        cases hnone
      · rw [if_pos hsmall, ← hcase]

/-- A pattern is the cut of its template. -/
theorem isCut_template (pattern : Pattern) :
    IsCut pattern.template (pattern.segments.map Segment.text) pattern.trailingSlash := by
  obtain ⟨pieces, closed, hcut, hlayout⟩ := Layout.ofTemplate?_eq_some_iff.1 pattern.layout_eq
  have hpieces : pattern.segments.map Segment.text = pieces := by
    rw [segments, hlayout, Layout.map_text_map_ofPiece]
  have hclosed : pattern.trailingSlash = closed := by rw [trailingSlash, hlayout]
  rwa [hpieces, hclosed]

/-- A template can be cut in one way only. -/
theorem eq_of_isCut (pattern : Pattern) {pieces : List (List Char)} {closed : Bool}
    (hcut : IsCut pattern.template pieces closed) :
    pieces.map Segment.ofPiece = pattern.segments ∧ closed = pattern.trailingSlash := by
  have hsame := Layout.ofTemplate?_of_isCut hcut
  rw [pattern.layout_eq] at hsame
  rw [segments, trailingSlash, Option.some.inj hsame]
  exact ⟨rfl, rfl⟩

/-- The segments and the closing slash are one template's only. -/
theorem template_eq_of_segments_eq {other : Pattern} (hsegments : other.segments = pattern.segments)
    (htrailing : other.trailingSlash = pattern.trailingSlash) : other.template = pattern.template := by
  have hsame : other.layout = pattern.layout := by
    change (⟨other.segments, other.trailingSlash⟩ : Layout) = ⟨pattern.segments, pattern.trailingSlash⟩
    rw [hsegments, htrailing]
  exact Layout.ofTemplate?_inj (hsame ▸ other.layout_eq) pattern.layout_eq

/-- The names of a pattern are those that the pieces of its template bind. -/
theorem names_eq_boundNames (pattern : Pattern) :
    pattern.names = (pattern.segments.map Segment.text).filterMap boundName? := by
  obtain ⟨hsegments, -⟩ := pattern.eq_of_isCut pattern.isCut_template
  rw [← @Layout.names_map_ofPiece _ pattern.trailingSlash, hsegments]
  rfl

/-- A template compiles exactly if it can be cut within the limits, into pieces that bind different and not empty
names. -/
theorem exists_compile_iff :
    (∃ pattern, compile settings serial template = .ok pattern) ↔
      ∃ pieces closed, IsCut template pieces closed ∧ template.utf8ByteSize ≤ settings.maxTemplateLength ∧
        pieces.length ≤ settings.maxTemplateSegments ∧ "" ∉ pieces.filterMap boundName? ∧
        (pieces.filterMap boundName?).Nodup ∧
        Layout.hasSmallMatcher settings.ignoreCase ⟨pieces.map Segment.ofPiece, closed⟩ = true := by
  constructor
  · rintro ⟨pattern, hcompile⟩
    obtain ⟨-, rfl, -, hlength, hsegments, hsmall⟩ := compile_eq_ok_iff.1 hcompile
    have hnames := pattern.names_eq_boundNames
    refine ⟨_, _, pattern.isCut_template, hlength, ?_, hnames ▸ pattern.empty_notMem_names,
      hnames ▸ pattern.nodup_names, ?_⟩
    · rwa [List.length_map]
    · rw [(pattern.eq_of_isCut pattern.isCut_template).1]
      exact hsmall
  · rintro ⟨pieces, closed, hcut, hlength, hpieces, hempty, hnodup, hsmall⟩
    rw [← @Layout.names_map_ofPiece pieces closed] at hempty hnodup
    have hlayout := Layout.ofTemplate?_of_isCut hcut
    refine ⟨⟨serial, template, _, settings.ignoreCase, hlayout, hnodup, hempty⟩, compile_eq_ok_iff.2 ?_⟩
    refine ⟨rfl, rfl, rfl, hlength, ?_, hsmall⟩
    rwa [segments, List.length_map]

/-- A template compiles exactly if it starts with a slash, so that it can be cut, is short enough, has few enough pieces
between its slashes, binds different and not empty names, and has a small enough matcher. The pattern then has one
segment for each piece of the only cut, and no other template gives the same segments and the same closing slash; its
names are those that the pieces bind, in their order, and all different, and its specificity is the number of its
parameters. -/
theorem compile_accepts_valid (settings : Settings) (serial : Nat) (template : String) :
    ((∃ body, template.toList = '/' :: body) ↔ ∃ pieces closed, IsCut template pieces closed) ∧
      ((∃ pattern, compile settings serial template = .ok pattern) ↔
        ∃ pieces closed, IsCut template pieces closed ∧ template.utf8ByteSize ≤ settings.maxTemplateLength ∧
          pieces.length ≤ settings.maxTemplateSegments ∧ "" ∉ pieces.filterMap boundName? ∧
          (pieces.filterMap boundName?).Nodup ∧
          Layout.hasSmallMatcher settings.ignoreCase ⟨pieces.map Segment.ofPiece, closed⟩ = true) ∧
      ∀ pattern, compile settings serial template = .ok pattern →
        IsCut template (pattern.segments.map Segment.text) pattern.trailingSlash ∧
        (∀ pieces closed, IsCut template pieces closed →
          pieces.map Segment.ofPiece = pattern.segments ∧ closed = pattern.trailingSlash) ∧
        (∀ otherSettings otherSerial otherTemplate other,
          compile otherSettings otherSerial otherTemplate = .ok other → other.segments = pattern.segments →
          other.trailingSlash = pattern.trailingSlash → otherTemplate = template) ∧
        pattern.names = (pattern.segments.map Segment.text).filterMap boundName? ∧ pattern.names.Nodup ∧
        pattern.specificity = pattern.segments.countP fun segment => segment.name?.isSome := by
  refine ⟨⟨?_, ?_⟩, exists_compile_iff, ?_⟩
  · rintro ⟨body, hbody⟩
    exact Layout.exists_isCut hbody
  · rintro ⟨pieces, closed, hcut⟩
    exact ⟨_, hcut.toList_eq⟩
  · intro pattern hcompile
    obtain ⟨-, rfl, -⟩ := compile_eq_ok_iff.1 hcompile
    refine ⟨pattern.isCut_template, fun pieces closed => pattern.eq_of_isCut, ?_, pattern.names_eq_boundNames,
      pattern.nodup_names, List.length_filterMap_eq_countP⟩
    intro _ _ _ other hother hsegments htrailing
    obtain ⟨-, rfl, -⟩ := compile_eq_ok_iff.1 hother
    exact template_eq_of_segments_eq hsegments htrailing

/-- A template with nothing between its first two slashes has an empty piece there. -/
theorem compile_accepts_valid_gapTemplate :
    IsCut "//:a/" [[], [':', 'a']] true ∧ ∃ pattern, compile {} 0 "//:a/" = .ok pattern ∧
      pattern.segments = [.literal "", .param "a"] ∧ pattern.trailingSlash = true := by
  obtain ⟨-, haccept, hkept⟩ := compile_accepts_valid {} 0 "//:a/"
  have hcut : IsCut "//:a/" [[], [':', 'a']] true := ⟨by decide, by decide, by decide, nofun⟩
  obtain ⟨pattern, hcompile⟩ := haccept.2
    ⟨_, _, hcut, by decide, by decide, by decide, by decide, by decide +kernel⟩
  obtain ⟨hsegments, hclosed⟩ := (hkept pattern hcompile).2.1 _ _ hcut
  exact ⟨hcut, pattern, hcompile, hsegments.symm, hclosed.symm⟩

/-- What a compiled pattern keeps of what it was compiled from. -/
theorem fields_of_compile (hcompile : compile settings serial template = .ok pattern) :
    pattern.serial = serial ∧ pattern.template = template ∧ pattern.ignoreCase = settings.ignoreCase := by
  obtain ⟨hserial, htemplate, hcase, -⟩ := compile_eq_ok_iff.1 hcompile
  exact ⟨hserial, htemplate, hcase⟩

end Pattern

end PageRouter
