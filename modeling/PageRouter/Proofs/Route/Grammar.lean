import PageRouter.Proofs.Route.Inserted
import PageRouter.Proofs.Route.Matcher
import PageRouter.Proofs.Route.Recapture

namespace PageRouter

/-- A piece of a path that stands for a segment: its text, up to case where case does not count, or any stretch without
slashes that is not empty. -/
def Segment.Accepts (ignoreCase : Bool) : Segment → List Char → Prop
  | literal text, piece =>
    if ignoreCase then piece.map Text.foldChar = text.toList.map Text.foldChar else piece = text.toList
  | param _, piece => piece ≠ [] ∧ '/' ∉ piece

/-- A path that is a slash and a piece for each segment of a template, and perhaps one more slash. -/
def Pattern.ReadsAs (pattern : Pattern) (path : String) (pieces : List (List Char)) : Prop :=
  List.Forall₂ (Segment.Accepts pattern.ignoreCase) pattern.segments pieces ∧
    ∃ tail, (tail = [] ∨ tail = ['/']) ∧ path.toList = Pattern.spell pieces ++ tail

/-- A literal segment accepts the texts that are the same letter by letter. -/
theorem accepts_literal_iff {ignoreCase : Bool} {text : String} {piece : List Char} :
    (Segment.literal text).Accepts ignoreCase piece ↔
      List.Forall₂ (fun c d => isSameLetter ignoreCase c d = true) text.toList piece := by
  cases ignoreCase with
  | false => simp [Segment.Accepts, isSameLetter, List.forall₂_eq_eq_eq, eq_comm (a := piece)]
  | true =>
    rw [Segment.Accepts, if_pos rfl, eq_comm, ← List.forall₂_eq_eq_eq, List.forall₂_map_left_iff,
      List.forall₂_map_right_iff]
    simp [isSameLetter]

/-- Texts that are the same letter by letter have the same signs. -/
theorem mem_iff_of_sameLetters {ignoreCase : Bool} {text piece : List Char}
    (hsame : List.Forall₂ (fun c d => isSameLetter ignoreCase c d = true) text piece) {sign : Char}
    (hsign : Text.IsLow sign) : sign ∈ piece ↔ sign ∈ text := by
  induction hsame with
  | nil => rfl
  | @cons c d text piece hletter _ ih =>
    have hheads : d = sign ↔ c = sign := by
      constructor
      · rintro rfl
        rw [isSameLetter_comm] at hletter
        exact (isSameLetter_iff_of_isLow hsign).1 hletter
      · rintro rfl
        exact (isSameLetter_iff_of_isLow hsign).1 hletter
    rw [List.mem_cons, List.mem_cons, ih, eq_comm, hheads, eq_comm]

namespace Expression

variable {ignoreCase : Bool} {behind ahead : List Char} {groups : List (List Char)} {last : Place}

/-- What the group of a segment keeps of a piece. -/
def keptOf (piece : List Char) : Segment → List (List Char)
  | .literal _ => []
  | .param _ => [piece]

/-- What the groups of segments keep of pieces for them. -/
def kept (segments : List Segment) (pieces : List (List Char)) : List (List Char) :=
  (Pattern.captured segments pieces).map fun entry => entry.2.toList

private theorem kept_cons (segment : Segment) (more : List Segment) (piece : List Char) (rest : List (List Char)) :
    kept (segment :: more) (piece :: rest) = keptOf piece segment ++ kept more rest := by
  rw [kept, Pattern.captured_cons, List.map_append, kept]
  cases segment with
  | literal text => rfl
  | param name => simp [Segment.name?, keptOf]

/-- The steps of a segment lead behind the pieces that it accepts. -/
theorem mem_waysThrough_segment_iff {segment : Segment} :
    last ∈ waysThrough ignoreCase segment.steps ⟨behind, ahead, groups⟩ ↔
      ∃ piece rest, segment.Accepts ignoreCase piece ∧ ahead = piece ++ rest ∧
        last = ⟨piece.reverse ++ behind, rest, groups ++ keptOf piece segment⟩ := by
  cases segment with
  | literal text =>
    simp only [Segment.steps, mem_waysThrough_spelling_iff, accepts_literal_iff, keptOf, List.append_nil]
  | param name =>
    have hall : ∀ piece : List Char,
        (∀ c ∈ piece, (CharSet.allBut '/').holds ignoreCase c = true) ↔ '/' ∉ piece := by
      intro piece
      simp only [holds_allBut_slash_iff]
      exact ⟨fun hne hmem => hne '/' hmem rfl, fun hslash c hc heq => hslash (heq ▸ hc)⟩
    simp only [Segment.steps, waysThrough, List.flatMap_singleton', mem_ways_group_iff, Segment.Accepts, keptOf, hall,
      and_assoc]

/-- The steps of segments lead behind a slash and a piece for each of them. -/
theorem mem_waysThrough_segments_iff {segments : List Segment} :
    last ∈ waysThrough ignoreCase (segmentSteps segments) ⟨behind, ahead, groups⟩ ↔
      ∃ pieces rest, List.Forall₂ (Segment.Accepts ignoreCase) segments pieces ∧
        ahead = Pattern.spell pieces ++ rest ∧
        last = ⟨(Pattern.spell pieces).reverse ++ behind, rest, groups ++ kept segments pieces⟩ := by
  induction segments generalizing behind ahead groups with
  | nil => simp [segmentSteps, waysThrough, Pattern.spell, kept, Pattern.captured]
  | cons segment more ih =>
    rw [segmentSteps_cons, List.cons_append, waysThrough, List.mem_flatMap]
    simp only [waysThrough_append, List.mem_flatMap, ways, mem_step_iff, holds_only_slash_iff]
    constructor
    · rintro ⟨_, ⟨_, rest, rfl, rfl, rfl⟩, middle, hmiddle, hlast⟩
      obtain ⟨piece, _, hpiece, rfl, rfl⟩ := mem_waysThrough_segment_iff.1 hmiddle
      obtain ⟨pieces, rest, hpieces, rfl, rfl⟩ := ih.1 hlast
      refine ⟨piece :: pieces, rest, .cons hpiece hpieces, ?_, ?_⟩
      · rw [Pattern.spell_cons, List.cons_append, List.append_assoc]
      · rw [kept_cons, Pattern.spell_cons]
        simp
    · rintro ⟨pieces, rest, hpieces, rfl, rfl⟩
      cases hpieces with
      | @cons _ piece _ pieces hpiece hpieces =>
        refine ⟨_, ⟨'/', piece ++ (Pattern.spell pieces ++ rest), ?_, rfl, rfl⟩, _,
          mem_waysThrough_segment_iff.2 ⟨piece, _, hpiece, rfl, rfl⟩, ih.2 ⟨pieces, rest, hpieces, rfl, ?_⟩⟩
        · rw [Pattern.spell_cons, List.cons_append, List.append_assoc]
        · rw [kept_cons, Pattern.spell_cons]
          simp

/-- The matcher of a template leads, from the front of a text only, to the end of the paths of its grammar. -/
theorem mem_ways_matcher_iff {layout : Layout} :
    last ∈ layout.matcher.ways ignoreCase ⟨behind, ahead, groups⟩ ↔
      behind = [] ∧ ∃ pieces tail, List.Forall₂ (Segment.Accepts ignoreCase) layout.segments pieces ∧
        (tail = [] ∨ tail = ['/']) ∧ ahead = Pattern.spell pieces ++ tail ∧
        last = ⟨ahead.reverse, [], groups ++ kept layout.segments pieces⟩ := by
  have hfront : ∀ place : Place, place ∈ (both nothing textStart).ways ignoreCase ⟨behind, ahead, groups⟩ ↔
      behind = [] ∧ place = ⟨[], ahead, groups⟩ := by
    intro place
    simp only [ways, List.flatMap_singleton]
    by_cases hbehind : behind = []
    · simp [hbehind]
    · simp [hbehind]
  simp only [Layout.matcher, ways_followedBy, List.mem_flatMap, hfront, waysThrough_append]
  constructor
  · rintro ⟨_, ⟨hbehind, rfl⟩, middle, hmiddle, hlast⟩
    obtain ⟨pieces, tail, hpieces, rfl, rfl⟩ := mem_waysThrough_segments_iff.1 hmiddle
    obtain ⟨htail, rfl⟩ := mem_waysThrough_closing_iff.1 hlast
    exact ⟨hbehind, pieces, tail, hpieces, htail, rfl, by simp⟩
  · rintro ⟨hbehind, pieces, tail, hpieces, htail, rfl, rfl⟩
    refine ⟨_, ⟨hbehind, rfl⟩, _, mem_waysThrough_segments_iff.2 ⟨pieces, tail, hpieces, rfl, rfl⟩, ?_⟩
    exact mem_waysThrough_closing_iff.2 ⟨htail, by simp⟩

end Expression

namespace Pattern

variable {pattern : Pattern} {path : String} {pieces : List (List Char)}

/-- What a segment of a template accepts is what fills it. -/
theorem accepts_iff_fills {segment : Segment} (hsegment : segment ∈ pattern.segments) {piece : List Char} :
    segment.Accepts pattern.ignoreCase piece ↔ Fills pattern.ignoreCase segment piece := by
  cases segment with
  | literal text =>
    have hslash := pattern.slash_notMem_of_literal_mem hsegment
    have hsame : (Segment.literal text).Accepts pattern.ignoreCase piece ↔
        fits pattern.ignoreCase piece (.literal text) = true := by
      cases hcase : pattern.ignoreCase with
      | false => simp [Segment.Accepts, fits, eq_comm (a := piece)]
      | true => simp [Segment.Accepts, fits, Text.sameFolded, eq_comm (a := piece.map Text.foldChar)]
    rw [Fills, hsame, and_iff_right_of_imp]
    intro hfits
    exact mt (mem_iff_of_sameLetters (accepts_literal_iff.1 (hsame.2 hfits)) (by decide)).1 hslash
  | param name => simp [Segment.Accepts, Fills, fits, and_comm]

private theorem forall₂_accepts_iff_fills : List.Forall₂ (Segment.Accepts pattern.ignoreCase) pattern.segments pieces ↔
    List.Forall₂ (Fills pattern.ignoreCase) pattern.segments pieces := by
  have hpieces : ∀ segments : List Segment, segments ⊆ pattern.segments → ∀ pieces,
      (List.Forall₂ (Segment.Accepts pattern.ignoreCase) segments pieces ↔
        List.Forall₂ (Fills pattern.ignoreCase) segments pieces) := by
    intro segments hsegments
    induction segments with
    | nil => simp
    | cons segment more ih =>
      obtain ⟨hsegment, hmore⟩ := List.cons_subset.1 hsegments
      intro pieces
      rw [List.forall₂_cons_left_iff, List.forall₂_cons_left_iff]
      simp only [accepts_iff_fills hsegment, ih hmore]
  exact hpieces pattern.segments (List.Subset.refl _) pieces

private theorem spell_append (pieces more : List (List Char)) : spell (pieces ++ more) = spell pieces ++ spell more :=
  List.flatMap_append

/-- A slash at the end of a path is one more piece, which is empty. -/
theorem ReadsAs.exists_ending (hreads : pattern.ReadsAs path pieces) :
    ∃ ending, path.toList = spell (pieces ++ ending) ∧ ∀ piece ∈ pieces ++ ending, '/' ∉ piece := by
  obtain ⟨haccepts, tail, htail, hpath⟩ := hreads
  have hslash := slash_notMem_of_fills (forall₂_accepts_iff_fills.1 haccepts)
  rcases htail with rfl | rfl
  · exact ⟨[], by rw [hpath, List.append_nil, List.append_nil], by rwa [List.append_nil]⟩
  · refine ⟨[[]], by rw [hpath, spell_append]; rfl, List.forall_mem_append.2 ⟨hslash, ?_⟩⟩
    exact List.forall_mem_singleton.2 List.not_mem_nil

/-- Paths that differ by one slash at the end, if at all, are read as the same pieces. -/
theorem ReadsAs.eq_of_agree {other : String} {others : List (List Char)} (hpieces : pattern.ReadsAs path pieces)
    (hothers : pattern.ReadsAs other others) (hagree : path = other ∨ path = other ++ "/" ∨ other = path ++ "/") :
    others = pieces := by
  obtain ⟨ending, hpath, hslash⟩ := hpieces.exists_ending
  obtain ⟨endingOther, hother, hslashOther⟩ := hothers.exists_ending
  obtain ⟨more, moreOther, hmore, hspell⟩ : ∃ more moreOther, (∀ piece ∈ more ++ moreOther, '/' ∉ piece) ∧
      spell (pieces ++ ending ++ more) = spell (others ++ endingOther ++ moreOther) := by
    rw [spell_append] at hpath hother
    simp only [spell_append, ← hpath, ← hother]
    rcases hagree with rfl | rfl | rfl
    · exact ⟨[], [], by simp, rfl⟩
    · exact ⟨[], [[]], by simp, by simp [spell]⟩
    · exact ⟨[[]], [], by simp, by simp [spell]⟩
  -- The number of pieces is that of the segments, so what is left over at the ends has no part in them.
  obtain ⟨hmore, hmoreOther⟩ := List.forall_mem_append.1 hmore
  have hlength : others.length = pieces.length := hothers.1.length_eq.symm.trans hpieces.1.length_eq
  have happend := eq_of_spell_eq (List.forall_mem_append.2 ⟨hslash, hmore⟩)
    (List.forall_mem_append.2 ⟨hslashOther, hmoreOther⟩) hspell
  rw [List.append_assoc, List.append_assoc] at happend
  exact (List.append_inj_left happend hlength.symm).symm

/-- A path is read in one way only. -/
theorem ReadsAs.unique {others : List (List Char)} (hpieces : pattern.ReadsAs path pieces)
    (hothers : pattern.ReadsAs path others) : others = pieces :=
  hpieces.eq_of_agree hothers (.inl rfl)

/-- A pattern extracts what the parameters keep of the pieces that a path is read as. -/
theorem extract_eq_some_iff {params : Params} :
    pattern.extract path = some params ↔
      ∃ pieces, pattern.ReadsAs path pieces ∧ params = ⟨captured pattern.segments pieces⟩ := by
  rw [extract, Option.map_eq_some_iff]
  simp only [capture_eq_some_iff, ReadsAs, forall₂_accepts_iff_fills]
  constructor
  · rintro ⟨_, ⟨pieces, tail, hfills, htail, hpath, rfl⟩, rfl⟩
    exact ⟨pieces, ⟨hfills, tail, htail, hpath⟩, rfl⟩
  · rintro ⟨pieces, ⟨hfills, tail, htail, hpath⟩, rfl⟩
    exact ⟨_, ⟨pieces, tail, hfills, htail, hpath, rfl⟩, rfl⟩

/-- Searching a path for the matcher finds what the parameters keep of the pieces that the path is read as. -/
theorem search_matcher_eq_some_iff {found : List String} :
    pattern.layout.matcher.search pattern.ignoreCase path = some found ↔
      ∃ pieces, pattern.ReadsAs path pieces ∧ found = (captured pattern.segments pieces).map Prod.snd := by
  have hstart : ∀ place : Place, place.behind ≠ [] → pattern.layout.matcher.ways pattern.ignoreCase place = [] :=
    fun place hbehind => List.eq_nil_iff_forall_not_mem.2 fun last hlast =>
      hbehind (Expression.mem_ways_matcher_iff.1 hlast).1
  have hways : ∀ last, last ∈ pattern.layout.matcher.ways pattern.ignoreCase ⟨[], path.toList, []⟩ ↔
      ∃ pieces, pattern.ReadsAs path pieces ∧ last = ⟨path.toList.reverse, [], Expression.kept pattern.segments pieces⟩ := by
    intro last
    rw [Expression.mem_ways_matcher_iff]
    constructor
    · rintro ⟨-, pieces, tail, haccepts, htail, hpath, rfl⟩
      exact ⟨pieces, ⟨haccepts, tail, htail, hpath⟩, rfl⟩
    · rintro ⟨pieces, ⟨haccepts, tail, htail, hpath⟩, rfl⟩
      exact ⟨rfl, pieces, tail, haccepts, htail, hpath, rfl⟩
  have hkept : ∀ pieces, (Expression.kept pattern.segments pieces).map String.ofList =
      (captured pattern.segments pieces).map Prod.snd := fun pieces => by
    simp [Expression.kept, Function.comp_def]
  rw [Expression.search_eq_of_textStart hstart, Option.map_eq_some_iff]
  constructor
  · rintro ⟨last, hhead, rfl⟩
    obtain ⟨pieces, hreads, rfl⟩ := (hways last).1 (List.mem_of_head? hhead)
    exact ⟨pieces, hreads, hkept pieces⟩
  · rintro ⟨pieces, hreads, rfl⟩
    have hmem := (hways _).2 ⟨pieces, hreads, rfl⟩
    obtain ⟨first, more, hlist⟩ := List.exists_cons_of_ne_nil (List.ne_nil_of_mem hmem)
    obtain ⟨others, hothers, rfl⟩ := (hways first).1 (hlist ▸ List.mem_cons_self)
    obtain rfl := hreads.unique hothers
    exact ⟨_, by rw [hlist, List.head?_cons], hkept others⟩

private theorem captured_eq_zip (hreads : pattern.ReadsAs path pieces) :
    captured pattern.segments pieces = pattern.names.zip ((captured pattern.segments pieces).map Prod.snd) := by
  have hnames : (captured pattern.segments pieces).map Prod.fst = pattern.names :=
    map_fst_captured (forall₂_accepts_iff_fills.1 hreads.1)
  rw [← hnames, List.zip_map']
  simp

/-- What is extracted from a path is what the groups of the matcher find in it, put under the declared names. -/
theorem extract_eq_search (pattern : Pattern) (path : String) :
    pattern.extract path = (pattern.layout.matcher.search pattern.ignoreCase path).map fun found =>
      Params.ofList (pattern.names.zip found) := by
  have hfound : ∀ params, pattern.extract path = some params ↔
      ((pattern.layout.matcher.search pattern.ignoreCase path).map fun found =>
        Params.ofList (pattern.names.zip found)) = some params := by
    intro params
    rw [extract_eq_some_iff, Option.map_eq_some_iff]
    simp only [search_matcher_eq_some_iff]
    have hinsert : ∀ pieces, pattern.ReadsAs path pieces →
        Params.ofList (pattern.names.zip ((captured pattern.segments pieces).map Prod.snd)) =
          ⟨captured pattern.segments pieces⟩ := by
      intro pieces hreads
      have hnames : (captured pattern.segments pieces).map Prod.fst = pattern.names :=
        map_fst_captured (forall₂_accepts_iff_fills.1 hreads.1)
      rw [← captured_eq_zip hreads, Params.ofList_of_nodup (hnames ▸ pattern.nodup_names)]
    constructor
    · rintro ⟨pieces, hreads, rfl⟩
      exact ⟨_, ⟨pieces, hreads, rfl⟩, hinsert pieces hreads⟩
    · rintro ⟨_, ⟨pieces, hreads, rfl⟩, rfl⟩
      exact ⟨pieces, hreads, hinsert pieces hreads⟩
  exact Option.ext hfound

/-- A pattern that compares letters up to case reads what the same template reads where case counts. -/
theorem extract_of_extract_twin {twin : Pattern} (htemplate : twin.template = pattern.template)
    (hcase : pattern.ignoreCase = false) {params : Params} (hextract : pattern.extract path = some params) :
    twin.extract path = some params := by
  have hlayout : twin.layout = pattern.layout := by
    have hsame := twin.layout_eq
    rw [htemplate, pattern.layout_eq] at hsame
    exact (Option.some.inj hsame).symm
  obtain ⟨pieces, ⟨haccepts, hpath⟩, rfl⟩ := extract_eq_some_iff.1 hextract
  refine extract_eq_some_iff.2 ⟨pieces, ⟨?_, hpath⟩, ?_⟩
  · rw [hcase] at haccepts
    rw [segments, hlayout]
    refine haccepts.imp fun segment piece haccept => ?_
    cases segment with
    | literal text =>
      obtain rfl : piece = text.toList := haccept
      cases htwin : twin.ignoreCase with
      | false => rfl
      | true => rfl
    | param name => exact haccept
  · rw [segments, segments, hlayout]

/-- The matcher of a template is written so that it matches exactly the paths of the grammar, and each of them is read
in one way. What its groups find there are the pieces of the parameters, and under the declared names these are what
is extracted. Where case does not count, all is matched that is matched where it counts, with the same pieces. -/
theorem matcher_reads_grammar (pattern : Pattern) :
    ∃ matcher, Expression.read? pattern.layout.matcherText = some matcher ∧
      (∀ path, (matcher.search pattern.ignoreCase path).isSome = true ↔ ∃ pieces, pattern.ReadsAs path pieces) ∧
      (∀ path pieces, pattern.ReadsAs path pieces →
        (∀ others, pattern.ReadsAs path others → others = pieces) ∧
        matcher.search pattern.ignoreCase path = some ((captured pattern.segments pieces).map Prod.snd) ∧
        pattern.extract path = some ⟨captured pattern.segments pieces⟩) ∧
      (∀ path, pattern.accepts path = (matcher.search pattern.ignoreCase path).isSome ∧
        pattern.extract path = (matcher.search pattern.ignoreCase path).map fun found =>
          Params.ofList (pattern.names.zip found)) ∧
      ∀ twin : Pattern, twin.template = pattern.template → pattern.ignoreCase = false → twin.ignoreCase = true →
        ∀ path params, pattern.extract path = some params → twin.extract path = some params := by
  refine ⟨pattern.layout.matcher, read?_matcherText pattern.layout, ?_, ?_, ?_, ?_⟩
  · intro path
    rw [Option.isSome_iff_exists]
    simp only [search_matcher_eq_some_iff]
    constructor
    · rintro ⟨_, pieces, hreads, -⟩
      exact ⟨pieces, hreads⟩
    · rintro ⟨pieces, hreads⟩
      exact ⟨_, pieces, hreads, rfl⟩
  · intro path pieces hreads
    exact ⟨fun others hothers => hreads.unique hothers, search_matcher_eq_some_iff.2 ⟨pieces, hreads, rfl⟩,
      extract_eq_some_iff.2 ⟨pieces, hreads, rfl⟩⟩
  · intro path
    have hextract := extract_eq_search pattern path
    exact ⟨by rw [accepts, hextract, Option.isSome_map], hextract⟩
  · intro twin htemplate hcase _ path params hextract
    exact extract_of_extract_twin htemplate hcase hextract

/-- A pattern with a full stop in it, an empty segment and a closing slash. -/
def releasePattern : Pattern where
  serial := 0
  template := "/V1.0//:b/"
  layout := ⟨[.literal "V1.0", .literal "", .param "b"], true⟩
  ignoreCase := false
  layout_eq := by decide
  nodup_names := by decide
  empty_notMem_names := by decide

/-- The full stop is read as itself, and the empty segment as nothing between two slashes. -/
theorem matcher_reads_grammar_releasePattern :
    releasePattern.layout.matcherText = "^/V1\\.0//([^/]+)/?$" ∧
      releasePattern.ReadsAs "/V1.0//x+/" ["V1.0".toList, [], "x+".toList] ∧
      ∃ matcher, Expression.read? "^/V1\\.0//([^/]+)/?$" = some matcher ∧
        matcher.search false "/V1.0//x+/" = some ["x+"] ∧
        releasePattern.extract "/V1.0//x+/" = some ⟨[("b", "x+")]⟩ ∧
        { releasePattern with ignoreCase := true }.extract "/V1.0//x+/" = some ⟨[("b", "x+")]⟩ ∧
        (matcher.search false "/V1X0//x+/").isSome = false := by
  have hreads : releasePattern.ReadsAs "/V1.0//x+/" ["V1.0".toList, [], "x+".toList] :=
    ⟨.cons rfl (.cons rfl (.cons ⟨by decide, by decide⟩ .nil)), ['/'], .inr rfl, by decide⟩
  obtain ⟨matcher, hread, -, hfinds, hextracts, htwin⟩ := matcher_reads_grammar releasePattern
  obtain ⟨-, hfound, hextract⟩ := hfinds _ _ hreads
  have hother : releasePattern.accepts "/V1X0//x+/" = false := by decide
  have htwins := htwin { releasePattern with ignoreCase := true } rfl rfl rfl _ _ hextract
  refine ⟨by decide, hreads, matcher, hread, hfound, hextract, htwins, ?_⟩
  exact (hextracts "/V1X0//x+/").1.symm.trans hother

end Pattern

end PageRouter
