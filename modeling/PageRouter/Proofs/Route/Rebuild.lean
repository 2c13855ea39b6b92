import Mathlib.Data.List.Forall2
import PageRouter.Route.Reverse

namespace PageRouter

/-- Two steps give a result if the first one gives a value from which the second one gives the result. -/
theorem bind_eq_ok_iff {ε α β : Type} {first : Except ε α} {next : α → Except ε β} {result : β} :
    (first >>= next) = .ok result ↔ ∃ value, first = .ok value ∧ next value = .ok result := by
  cases first <;> simp [bind, Except.bind]

/-- Two steps fail where the first one fails, or the second one from what the first one gives. -/
theorem bind_eq_error_iff {ε α β : Type} {first : Except ε α} {next : α → Except ε β} {error : ε} :
    (first >>= next) = .error error ↔
      first = .error error ∨ ∃ value, first = .ok value ∧ next value = .error error := by
  cases first <;> simp [bind, Except.bind]

namespace Pattern

/-- The text of pieces, each after its slash. Since no piece holds a slash, a spelled path can be read in one way
only. -/
def spell (pieces : List (List Char)) : List Char :=
  pieces.flatMap ('/' :: ·)

/-- What pieces give to the parameters among the segments that they stand for. -/
def captured (segments : List Segment) (pieces : List (List Char)) : List (String × String) :=
  (segments.zip pieces).filterMap fun pair => pair.1.name?.map (·, String.ofList pair.2)

/-- A piece can stand for a segment of a path. -/
def Fills (ignoreCase : Bool) (segment : Segment) (piece : List Char) : Prop :=
  '/' ∉ piece ∧ fits ignoreCase piece segment = true

/-- A spelled path begins with a slash and its first piece. -/
theorem spell_cons (piece : List Char) (more : List (List Char)) :
    spell (piece :: more) = '/' :: (piece ++ spell more) := by
  simp [spell]

/-- A piece is kept if its segment binds a name. -/
theorem captured_cons (segment : Segment) (more : List Segment) (piece : List Char)
    (rest : List (List Char)) :
    captured (segment :: more) (piece :: rest) =
      (segment.name?.map (·, String.ofList piece)).toList ++ captured more rest := by
  cases segment <;> simp [captured, Segment.name?]

private theorem spell_append_eq_nil_or_slash (pieces : List (List Char)) {tail : List Char}
    (htail : tail = [] ∨ tail = ['/']) :
    spell pieces ++ tail = [] ∨ ∃ rest, spell pieces ++ tail = '/' :: rest := by
  cases pieces with
  | nil =>
    rcases htail with rfl | rfl
    · exact Or.inl rfl
    · exact Or.inr ⟨[], rfl⟩
  | cons piece more => exact Or.inr ⟨piece ++ spell more ++ tail, by rw [spell_cons]; simp⟩

/-- What stands before the first separator holds none. -/
theorem notMem_takeWhile_ne (separator : Char) (text : List Char) : separator ∉ text.takeWhile (· ≠ separator) := by
  intro hmem
  have hne := List.all_eq_true.1 List.all_takeWhile _ hmem
  exact of_decide_eq_true hne rfl

/-- A text is cut where the separator stands for the first time. -/
theorem takeWhile_piece {separator : Char} {piece rest : List Char} (hpiece : separator ∉ piece)
    (hrest : rest = [] ∨ ∃ more, rest = separator :: more) :
    (piece ++ rest).takeWhile (· ≠ separator) = piece ∧ (piece ++ rest).dropWhile (· ≠ separator) = rest := by
  have hall : ∀ c ∈ piece, (decide (c ≠ separator)) = true := by
    intro c hc
    have hne : c ≠ separator := fun h => hpiece (h ▸ hc)
    simpa using hne
  rw [List.takeWhile_append_of_pos hall, List.dropWhile_append_of_pos hall]
  rcases hrest with rfl | ⟨more, rfl⟩ <;> simp

/-- Segments read a path that is spelled by pieces for them, whether or not one more slash closes it. -/
theorem capture_spell {ignoreCase : Bool} {segments : List Segment} {pieces : List (List Char)}
    (hfills : List.Forall₂ (Fills ignoreCase) segments pieces) {tail : List Char}
    (htail : tail = [] ∨ tail = ['/']) :
    capture ignoreCase segments (spell pieces ++ tail) = some (captured segments pieces) := by
  induction hfills with
  | nil => rcases htail with rfl | rfl <;> simp [capture, spell, captured]
  | @cons segment piece more rest hfill _ ih =>
    obtain ⟨hslash, hfits⟩ := hfill
    -- The piece holds no slash, so the matcher has no choice where to end it.
    obtain ⟨htake, hdrop⟩ := takeWhile_piece hslash (spell_append_eq_nil_or_slash rest htail)
    rw [spell_cons, List.cons_append, List.append_assoc, capture, htake, hdrop, if_pos hfits, ih,
      captured_cons]
    rfl

/-- The text that parameters give to a segment. -/
def pieceOf (params : Params) : Segment → List Char
  | .literal text => text.toList
  | .param name => ((params.get? name).getD "").toList

private theorem fill_eq_ok_iff {template : String} {params : Params} {segment : Segment} {piece : List Char} :
    fill template params segment = .ok piece ↔
      piece = pieceOf params segment ∧
        ∀ name, segment = .param name → isSubstitutable ((params.get? name).getD "") = true := by
  cases segment with
  | literal text => simp [fill, pieceOf, eq_comm (a := piece)]
  | param name =>
    by_cases hvalue : isSubstitutable ((params.get? name).getD "") = true
    · simp [fill, pieceOf, hvalue, eq_comm (a := piece)]
    · simp [fill, hvalue]

/-- Filling segments spells the path of their pieces, and needs a value that can stand for each parameter. -/
theorem fillAll_eq_ok_iff {template : String} {params : Params} {segments : List Segment}
    {path : List Char} :
    fillAll template params segments = .ok path ↔
      path = spell (segments.map (pieceOf params)) ∧
        ∀ name, Segment.param name ∈ segments → isSubstitutable ((params.get? name).getD "") = true := by
  induction segments generalizing path with
  | nil =>
    constructor
    · intro hpath
      exact ⟨(Except.ok.inj hpath).symm, by simp⟩
    · rintro ⟨rfl, -⟩
      rfl
  | cons segment more ih =>
    rw [fillAll, bind_eq_ok_iff]
    simp only [bind_eq_ok_iff, fill_eq_ok_iff, ih]
    constructor
    · rintro ⟨text, ⟨rfl, hvalue⟩, rest, ⟨rfl, hvalues⟩, hpath⟩
      refine ⟨?_, ?_⟩
      · rw [List.map_cons, spell_cons]
        exact (Except.ok.inj hpath).symm
      · intro name hmem
        rcases List.mem_cons.1 hmem with heq | hmore
        · exact hvalue name heq.symm
        · exact hvalues name hmore
    · rintro ⟨rfl, hvalues⟩
      refine ⟨_, ⟨rfl, ?_⟩, _, ⟨rfl, ?_⟩, ?_⟩
      · rintro name rfl
        exact hvalues name (by simp)
      · intro name hmem
        exact hvalues name (by simp [hmem])
      · rw [List.map_cons, spell_cons]
        rfl

/-- What can stand for a parameter: no empty text, no dot segment, and nothing with a sign that ends a segment. -/
theorem isSubstitutable_iff {value : String} :
    isSubstitutable value = true ↔
      value.toList ≠ [] ∧ isDotSegment value.toList = false ∧ '/' ∉ value.toList ∧
        querySign ∉ value.toList ∧ fragmentSign ∉ value.toList := by
  simp [isSubstitutable, and_assoc]

/-- The literal segments of a template hold no slash, because it was cut at its slashes. -/
theorem slash_notMem_of_literal_mem (pattern : Pattern) {text : String}
    (hmem : Segment.literal text ∈ pattern.segments) : '/' ∉ text.toList := by
  have hlayout := pattern.layout_eq
  unfold Layout.ofTemplate? at hlayout
  split at hlayout
  · next body _ =>
    obtain ⟨inner, hinner⟩ : ∃ inner : List Char, (Layout.ofBody body).segments =
        if inner.isEmpty then [] else (Text.pieces '/' inner).map Segment.ofPiece := ⟨_, rfl⟩
    rw [segments, ← Option.some.inj hlayout, hinner] at hmem
    split at hmem
    · exact absurd hmem List.not_mem_nil
    · obtain ⟨piece, hpiece, hsegment⟩ := List.mem_map.1 hmem
      have htext := Segment.text_ofPiece piece
      rw [hsegment, Segment.text] at htext
      rw [htext]
      exact Text.not_mem_of_mem_pieces hpiece
  · exact absurd hlayout (by simp)

private theorem forall₂_fills_pieceOf (pattern : Pattern) (params : Params)
    (hvalues : ∀ name, Segment.param name ∈ pattern.segments →
      isSubstitutable ((params.get? name).getD "") = true) :
    List.Forall₂ (Fills pattern.ignoreCase) pattern.segments
      (pattern.segments.map (pieceOf params)) := by
  rw [List.forall₂_map_right_iff, List.forall₂_same]
  intro segment hmem
  cases segment with
  | literal text =>
    refine ⟨pattern.slash_notMem_of_literal_mem hmem, ?_⟩
    simp [fits, pieceOf, Text.sameFolded_refl]
  | param name =>
    obtain ⟨hne, -, hslash, -, -⟩ := isSubstitutable_iff.1 (hvalues name hmem)
    exact ⟨hslash, by simpa [fits, pieceOf] using hne⟩

private theorem captured_pieceOf (params : Params) (segments : List Segment) :
    captured segments (segments.map (pieceOf params)) =
      (segments.filterMap Segment.name?).map fun name => (name, (params.get? name).getD "") := by
  induction segments with
  | nil => rfl
  | cons segment more ih =>
    rw [List.map_cons, captured_cons, ih]
    cases segment <;> simp [Segment.name?, pieceOf, List.filterMap_cons]

/-- The pathname that is spelled for parameters: their pieces, and a closing slash if the template has one or
there is nothing else. -/
def spelledPathname (pattern : Pattern) (params : Params) : List Char :=
  spell (pattern.segments.map (pieceOf params)) ++
    if spell (pattern.segments.map (pieceOf params)) = [] || pattern.trailingSlash then ['/'] else []

/-- A path that is spelled for parameters is closed by a slash or not, and by one if there is nothing else. -/
theorem exists_spelledPathname_eq (pattern : Pattern) (params : Params) : ∃ tail, (tail = [] ∨ tail = ['/']) ∧
    (pattern.segments = [] → tail = ['/']) ∧
    pattern.spelledPathname params = spell (pattern.segments.map (pieceOf params)) ++ tail := by
  by_cases hclosed : spell (pattern.segments.map (pieceOf params)) = [] || pattern.trailingSlash
  · exact ⟨['/'], .inr rfl, fun _ => rfl, by rw [spelledPathname, if_pos hclosed]⟩
  · refine ⟨[], .inl rfl, fun hnil => absurd ?_ hclosed, by rw [spelledPathname, if_neg hclosed]⟩
    simp [hnil, spell]

/-- A path that is spelled for parameters gives every declared name its value back. -/
theorem extract_spelledPathname (pattern : Pattern) (params : Params)
    (hvalues : ∀ name, Segment.param name ∈ pattern.segments →
      isSubstitutable ((params.get? name).getD "") = true) :
    pattern.extract (String.ofList (pattern.spelledPathname params)) =
      some ⟨pattern.names.map fun name => (name, (params.get? name).getD "")⟩ := by
  obtain ⟨tail, htail, -, hspelled⟩ := exists_spelledPathname_eq pattern params
  have hcapture := capture_spell (pattern.forall₂_fills_pieceOf params hvalues) htail
  rw [extract, String.toList_ofList, hspelled, hcapture, captured_pieceOf]
  rfl

/-- A pathname is built from values for all declared names and no others, each of which can stand for its
parameter. -/
theorem buildPathname_eq_ok_iff {pattern : Pattern} {params : Params} {path : String} :
    pattern.buildPathname params = .ok path ↔
      pattern.missing params = [] ∧ pattern.unknown params = [] ∧
        (∀ name, Segment.param name ∈ pattern.segments →
          isSubstitutable ((params.get? name).getD "") = true) ∧
        path = String.ofList (pattern.spelledPathname params) := by
  have hclosed : ∀ text : List Char,
      (if text = [] || pattern.trailingSlash then text ++ ['/'] else text) =
        text ++ if text = [] || pattern.trailingSlash then ['/'] else [] := by
    intro text
    split <;> simp
  unfold buildPathname spelledPathname
  by_cases hmissing : pattern.missing params = []
  · by_cases hunknown : pattern.unknown params = []
    · simp only [hmissing, hunknown, ne_eq, not_true_eq_false, if_false, bind_eq_ok_iff, fillAll_eq_ok_iff,
        hclosed, true_and]
      constructor
      · rintro ⟨text, ⟨rfl, hvalues⟩, hpath⟩
        exact ⟨hvalues, (Except.ok.inj hpath).symm⟩
      · rintro ⟨hvalues, rfl⟩
        exact ⟨_, ⟨rfl, hvalues⟩, rfl⟩
    · simp [hmissing, hunknown, bind, Except.bind, throw, throwThe, MonadExceptOf.throw]
  · simp [hmissing, bind, Except.bind, throw, throwThe, MonadExceptOf.throw]

private theorem missing_empty (pattern : Pattern) : pattern.missing .empty = pattern.names :=
  List.filter_eq_self.2 fun _ _ => rfl

/-- No parameters at all are as good as empty ones. -/
theorem suppliedPathname_eq (pattern : Pattern) (params : Option Params) :
    pattern.suppliedPathname params = pattern.buildPathname (params.getD .empty) := by
  cases params with
  | some params => rfl
  | none =>
    by_cases hnames : pattern.names = []
    · rw [suppliedPathname, hasParams, hnames]
      rfl
    · have hparams : pattern.hasParams = true := by simpa [hasParams] using hnames
      rw [suppliedPathname, if_pos hparams, Option.getD_none, buildPathname, missing_empty, if_pos hnames]
      rfl

/-- No parameters at all are as good as empty ones, whatever follows the pathname. -/
theorem build_eq_build_some (pattern : Pattern) (params : Option Params) (extras : Option Extras) :
    pattern.build params extras = pattern.build (some (params.getD .empty)) extras := by
  rw [build, suppliedPathname_eq, build, suppliedPathname_eq, Option.getD_some]

/-- Without query and fragment, a path is its pathname. -/
theorem build_none_eq (pattern : Pattern) (params : Params) :
    pattern.build (some params) none = pattern.buildPathname params := by
  have hextras : ∀ pathname : String,
      pathname ++ Extras.searchText {} ++ Extras.hashText {} = pathname := by
    intro pathname
    simp [Extras.searchText, Extras.hashText]
  simp only [build, suppliedPathname, Option.getD_none, hextras]
  cases pattern.buildPathname params <;> rfl

/-- Where no declared name is missing, each has a value. -/
theorem get?_of_missing_eq_nil {pattern : Pattern} {params : Params} (hmissing : pattern.missing params = [])
    {name : String} (hname : name ∈ pattern.names) :
    params.get? name = some ((params.get? name).getD "") := by
  have hcontains := List.filter_eq_nil_iff.1 hmissing name hname
  simp only [Params.contains, Bool.not_eq_true', Bool.not_eq_false, Option.isSome_iff_exists] at hcontains
  obtain ⟨value, hvalue⟩ := hcontains
  rw [hvalue, Option.getD_some]

/-- A pattern takes the values out of a path that was built with them, whether parameters were given or none. -/
theorem extract_of_build {pattern : Pattern} {params : Option Params} {path : String}
    (hbuild : pattern.build params none = .ok path) :
    ∃ found, pattern.extract path = some found ∧ found.entries.map (fun entry => (entry.1, some entry.2)) =
      pattern.names.map fun name => (name, (params.getD .empty).get? name) := by
  have hpathname : pattern.buildPathname (params.getD .empty) = .ok path := by
    rw [← build_none_eq, ← build_eq_build_some]
    exact hbuild
  obtain ⟨hmissing, -, hvalues, rfl⟩ := buildPathname_eq_ok_iff.1 hpathname
  refine ⟨_, extract_spelledPathname pattern _ hvalues, ?_⟩
  rw [List.map_map]
  apply List.map_congr_left
  intro name hname
  rw [Function.comp_apply, ← get?_of_missing_eq_nil hmissing hname]

/-- A pattern that is asked to match the path that was built from it gives every declared name, in the order
of the template and with nothing else, the value that it was built from. This holds in both case modes, for
every template and for parameters in any order. -/
theorem extract_build (pattern : Pattern) (params : Params) {path : String}
    (hbuild : pattern.build (some params) none = .ok path) :
    ∃ found, pattern.extract path = some found ∧
      found.entries.map (fun entry => (entry.1, some entry.2)) =
        pattern.names.map fun name => (name, params.get? name) :=
  extract_of_build hbuild

/-- A pattern with an empty segment, a closing slash and letters outside of ASCII. -/
def overviewPattern : Pattern where
  serial := 0
  template := "/Über//:b/:a/"
  layout := ⟨[.literal "Über", .literal "", .param "b", .param "a"], true⟩
  ignoreCase := true
  layout_eq := by decide
  nodup_names := by decide
  empty_notMem_names := by decide

/-- The values come back in the order of the template, with a line break and signs that mean something in a matcher.
-/
theorem extract_build_overviewPattern :
    overviewPattern.build (some ⟨[("a", "x\ny"), ("b", ".+")]⟩) none = .ok "/Über//.+/x\ny/" ∧
      ∃ found, overviewPattern.extract "/Über//.+/x\ny/" = some found ∧
        found.entries.map (fun entry => (entry.1, some entry.2)) =
          [("b", some ".+"), ("a", some "x\ny")] := by
  have hbuild : overviewPattern.build (some ⟨[("a", "x\ny"), ("b", ".+")]⟩) none =
      .ok "/Über//.+/x\ny/" := by decide
  obtain ⟨found, hextract, hentries⟩ := extract_build overviewPattern _ hbuild
  exact ⟨hbuild, found, hextract, hentries.trans (by decide)⟩

end Pattern

end PageRouter
