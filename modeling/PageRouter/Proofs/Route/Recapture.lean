import PageRouter.Proofs.Route.Rebuild

namespace PageRouter

namespace Pattern

/-- A spelled path is cut at its slashes into its pieces. -/
theorem pieces_spell {pieces : List (List Char)} (hpieces : ∀ piece ∈ pieces, '/' ∉ piece) :
    Text.pieces '/' (spell pieces) = [] :: pieces := by
  induction pieces with
  | nil => rfl
  | cons piece more ih =>
    obtain ⟨hpiece, hmore⟩ := List.forall_mem_cons.1 hpieces
    rw [spell_cons, Text.pieces, if_pos rfl]
    cases more with
    | nil => rw [spell, List.flatMap_nil, List.append_nil, Text.pieces_of_notMem hpiece]
    | cons next more =>
      have hsecond := ih hmore
      rw [spell_cons, Text.pieces, if_pos rfl] at hsecond
      rw [spell_cons, Text.pieces_append_separator hpiece, (List.cons.inj hsecond).2]

/-- A path is spelled by one list of segments only. -/
theorem eq_of_spell_eq {pieces others : List (List Char)} (hpieces : ∀ piece ∈ pieces, '/' ∉ piece)
    (hothers : ∀ piece ∈ others, '/' ∉ piece) (hspell : spell pieces = spell others) : pieces = others := by
  have hlists := congrArg (Text.pieces '/') hspell
  rw [pieces_spell hpieces, pieces_spell hothers] at hlists
  exact (List.cons.inj hlists).2

/-- Pieces that fill segments hold no slash. -/
theorem slash_notMem_of_fills {ignoreCase : Bool} {segments : List Segment} {pieces : List (List Char)}
    (hfills : List.Forall₂ (Fills ignoreCase) segments pieces) : ∀ piece ∈ pieces, '/' ∉ piece := by
  induction hfills with
  | nil => simp
  | cons hfill _ ih => exact List.forall_mem_cons.2 ⟨hfill.1, ih⟩

/-- Segments read a path exactly if it is spelled by pieces for them, and closed by one more slash or not. -/
theorem capture_eq_some_iff {ignoreCase : Bool} {segments : List Segment} {path : List Char}
    {entries : List (String × String)} :
    capture ignoreCase segments path = some entries ↔
      ∃ pieces tail, List.Forall₂ (Fills ignoreCase) segments pieces ∧ (tail = [] ∨ tail = ['/']) ∧
        path = spell pieces ++ tail ∧ entries = captured segments pieces := by
  constructor
  · intro hcapture
    -- The piece of a segment is what stands between its slash and the next one.
    induction segments generalizing path entries with
    | nil =>
      rw [capture] at hcapture
      split at hcapture
      · next hpath => exact ⟨[], path, .nil, hpath, rfl, (Option.some.inj hcapture).symm⟩
      · cases hcapture
    | cons segment more ih =>
      rcases path with _ | ⟨c, path⟩
      · cases hcapture
      by_cases hc : c = '/'
      · subst hc
        rw [capture] at hcapture
        dsimp only at hcapture
        split at hcapture
        · next hfits =>
          obtain ⟨later, hlater, rfl⟩ := Option.map_eq_some_iff.1 hcapture
          obtain ⟨pieces, tail, hfills, htail, hpath, rfl⟩ := ih hlater
          have hslash := notMem_takeWhile_ne '/' path
          refine ⟨path.takeWhile (· ≠ '/') :: pieces, tail, .cons ⟨hslash, hfits⟩ hfills, htail, ?_, ?_⟩
          · rw [spell_cons, List.cons_append, List.append_assoc, ← hpath, List.takeWhile_append_dropWhile]
          · rw [captured_cons]
        · cases hcapture
      · rw [capture] at hcapture
        · cases hcapture
        · intro rest heq
          exact hc (List.cons.inj heq).1
  · rintro ⟨pieces, tail, hfills, htail, rfl, rfl⟩
    exact capture_spell hfills htail

/-- The names that pieces are kept under are those of the segments, in order. -/
theorem map_fst_captured {ignoreCase : Bool} {segments : List Segment} {pieces : List (List Char)}
    (hfills : List.Forall₂ (Fills ignoreCase) segments pieces) :
    (captured segments pieces).map Prod.fst = segments.filterMap Segment.name? := by
  induction hfills with
  | nil => rfl
  | @cons segment piece more rest _ _ ih =>
    rw [captured_cons, List.map_append, ih]
    cases segment with
    | literal text => rfl
    | param name => rfl

/-- What a path gives are values for all declared names, in the order of the template. -/
theorem names_of_extract {pattern : Pattern} {path : String} {params : Params}
    (hextract : pattern.extract path = some params) : params.names = pattern.names := by
  obtain ⟨entries, hcapture, rfl⟩ := Option.map_eq_some_iff.1 hextract
  obtain ⟨pieces, tail, hfills, -, -, rfl⟩ := capture_eq_some_iff.1 hcapture
  exact map_fst_captured hfills

/-- Where case counts, the pieces of a path are the texts that the parameters in it give to the segments. -/
theorem map_pieceOf_eq {params : Params} {segments : List Segment} {pieces : List (List Char)}
    (hfills : List.Forall₂ (Fills false) segments pieces)
    (hentries : ∀ entry ∈ captured segments pieces, params.get? entry.1 = some entry.2) :
    segments.map (pieceOf params) = pieces := by
  induction hfills with
  | nil => rfl
  | @cons segment piece more rest hfill _ ih =>
    rw [captured_cons] at hentries
    have hmore : more.map (pieceOf params) = rest :=
      ih fun entry hentry => hentries entry (List.mem_append_right _ hentry)
    have hpiece : pieceOf params segment = piece := by
      cases segment with
      | literal text =>
        have hsame : (text.toList == piece) = true := hfill.2
        exact beq_iff_eq.1 hsame
      | param name =>
        have hvalue := hentries (name, String.ofList piece) List.mem_cons_self
        rw [pieceOf, hvalue, Option.getD_some, String.toList_ofList]
    rw [List.map_cons, hpiece, hmore]

/-- Filling segments fails at the first parameter whose value cannot stand for it. -/
theorem fillAll_eq_error_iff {template : String} {params : Params} {segments : List Segment} {error : RouteError} :
    fillAll template params segments = .error error ↔
      ∃ name, (segments.filterMap Segment.name?).find?
          (fun name => !isSubstitutable ((params.get? name).getD "")) = some name ∧
        error = .invalidParam template name ((params.get? name).getD "") := by
  induction segments with
  | nil => simp [fillAll]
  | cons segment more ih =>
    have hmore : ∀ text : List Char, (do
        let rest ← fillAll template params more
        return '/' :: text ++ rest) = .error error ↔ fillAll template params more = .error error := by
      intro text
      rw [bind_eq_error_iff]
      simp [pure, Except.pure]
    rw [fillAll, bind_eq_error_iff]
    simp only [hmore]
    cases segment with
    | literal text =>
      rw [List.filterMap_cons_none rfl, ← ih]
      simp [fill]
    | param name =>
      have hdeclared : (Segment.param name :: more).filterMap Segment.name? =
          name :: more.filterMap Segment.name? := rfl
      rw [hdeclared, List.find?_cons]
      by_cases hvalue : isSubstitutable ((params.get? name).getD "") = true
      · simp [fill, hvalue, ih]
      · simp [fill, hvalue, eq_comm (a := error)]

/-- A pathname is not built if names have no value, or else if names are not declared, or else if a value cannot stand
for its parameter. -/
theorem buildPathname_eq_error_iff {pattern : Pattern} {params : Params} {error : RouteError} :
    pattern.buildPathname params = .error error ↔
      (pattern.missing params ≠ [] ∧ error = .missingParams pattern.template (pattern.missing params)) ∨
      (pattern.missing params = [] ∧ pattern.unknown params ≠ [] ∧
        error = .unknownParams pattern.template (pattern.unknown params)) ∨
      (pattern.missing params = [] ∧ pattern.unknown params = [] ∧
        ∃ name, pattern.names.find? (fun name => !isSubstitutable ((params.get? name).getD "")) = some name ∧
          error = .invalidParam pattern.template name ((params.get? name).getD "")) := by
  unfold buildPathname
  by_cases hmissing : pattern.missing params = []
  · by_cases hunknown : pattern.unknown params = []
    · simp only [hmissing, hunknown, ne_eq, not_true_eq_false, if_false, false_and, true_and, false_or]
      rw [bind_eq_error_iff, fillAll_eq_error_iff]
      simp [pure, Except.pure, names, segments, Layout.names]
    · simp [hmissing, hunknown, bind, Except.bind, throw, throwThe, MonadExceptOf.throw, eq_comm (a := error)]
  · simp [hmissing, bind, Except.bind, throw, throwThe, MonadExceptOf.throw, eq_comm (a := error)]

private theorem missing_eq_nil {pattern : Pattern} {params : Params} (hnames : params.names = pattern.names) :
    pattern.missing params = [] := by
  rw [missing, List.filter_eq_nil_iff]
  intro name hname
  simp [Params.contains_eq_true_iff.2 (hnames ▸ hname)]

private theorem unknown_eq_nil {pattern : Pattern} {params : Params} (hnames : params.names = pattern.names) :
    pattern.unknown params = [] := by
  rw [unknown, List.filter_eq_nil_iff, hnames]
  intro name hname
  simp [hname]

/-- Parameters with exactly the declared names, in their order, fail to build a path at the first value that cannot
stand for its parameter, and at nothing else. -/
theorem build_eq_error_iff {pattern : Pattern} {params : Params} (hnames : params.names = pattern.names)
    {error : RouteError} :
    pattern.build (some params) none = .error error ↔
      ∃ name value, params.entries.find? (fun entry => !isSubstitutable entry.2) = some (name, value) ∧
        error = .invalidParam pattern.template name value := by
  have hnodup : params.names.Nodup := hnames ▸ pattern.nodup_names
  have hentries := Params.entries_eq hnodup
  rw [build_none_eq, buildPathname_eq_error_iff, hentries, List.find?_map, hnames]
  simp only [missing_eq_nil hnames, unknown_eq_nil hnames, ne_eq, not_true_eq_false, false_and, true_and, false_or]
  simp only [Option.map_eq_some_iff, Prod.mk.injEq]
  constructor
  · rintro ⟨name, hfind, rfl⟩
    exact ⟨name, _, ⟨name, hfind, rfl, rfl⟩, rfl⟩
  · rintro ⟨name, _, ⟨_, hfind, rfl, rfl⟩, rfl⟩
    exact ⟨_, hfind, rfl⟩

/-- Parameters with exactly the declared names build a path if every value can stand for its parameter. -/
theorem build_ok_iff {pattern : Pattern} {params : Params} (hnames : params.names = pattern.names) :
    (∃ built, pattern.build (some params) none = .ok built) ↔
      ∀ entry ∈ params.entries, isSubstitutable entry.2 = true := by
  cases hbuild : pattern.build (some params) none with
  | ok built =>
    have hnone : params.entries.find? (fun entry => !isSubstitutable entry.2) = none := by
      rw [Option.eq_none_iff_forall_ne_some]
      rintro ⟨name, value⟩ hfind
      have herror := (build_eq_error_iff hnames).2 ⟨name, value, hfind, rfl⟩
      rw [hbuild] at herror
      cases herror
    simpa [List.find?_eq_none] using hnone
  | error error =>
    obtain ⟨name, value, hfind, -⟩ := (build_eq_error_iff hnames).1 hbuild
    constructor
    · rintro ⟨built, hok⟩
      cases hok
    · intro hall
      have hgood := hall _ (List.mem_of_find?_eq_some hfind)
      have hbad := List.find?_some hfind
      simp [hgood] at hbad

/-- A path that is built from what another path gave gives the same again. -/
theorem extract_of_build_extract {pattern : Pattern} {path built : String} {params : Params}
    (hextract : pattern.extract path = some params) (hbuild : pattern.build (some params) none = .ok built) :
    pattern.extract built = some params := by
  have hnames := names_of_extract hextract
  have hnodup : params.names.Nodup := hnames ▸ pattern.nodup_names
  rw [build_none_eq] at hbuild
  obtain ⟨-, -, hvalues, rfl⟩ := buildPathname_eq_ok_iff.1 hbuild
  rw [extract_spelledPathname pattern params hvalues, ← hnames, ← Params.entries_eq hnodup]

/-- Where case counts, the parameters spell the path, but for a slash at the end. -/
theorem exists_tail_of_extract {pattern : Pattern} {path : String} {params : Params}
    (hextract : pattern.extract path = some params) (hcase : pattern.ignoreCase = false) :
    ∃ tail, (tail = "" ∨ tail = "/") ∧ path = String.ofList (spell (pattern.segments.map (pieceOf params))) ++ tail := by
  have hnodup : params.names.Nodup := names_of_extract hextract ▸ pattern.nodup_names
  obtain ⟨entries, hcapture, rfl⟩ := Option.map_eq_some_iff.1 hextract
  rw [hcase] at hcapture
  obtain ⟨pieces, tail, hfills, htail, hpath, rfl⟩ := capture_eq_some_iff.1 hcapture
  have hpieces := map_pieceOf_eq hfills fun entry hentry => Params.get?_of_mem hnodup hentry
  refine ⟨String.ofList tail, ?_, ?_⟩
  · rcases htail with rfl | rfl
    · exact .inl rfl
    · exact .inr rfl
  · rw [hpieces, ← String.ofList_append, ← hpath, String.ofList_toList]

/-- Where case counts, paths that give the same parameters differ by one slash at the end, if at all. -/
theorem agree_of_params_eq {pattern : Pattern} {path other : String} {params : Params}
    (hextract : pattern.extract path = some params)
    (hother : pattern.extract other = some params) (hcase : pattern.ignoreCase = false) :
    path = other ∨ path = other ++ "/" ∨ other = path ++ "/" := by
  obtain ⟨tail, htail, rfl⟩ := exists_tail_of_extract hextract hcase
  obtain ⟨tailOther, htailOther, rfl⟩ := exists_tail_of_extract hother hcase
  rcases htail with rfl | rfl <;> rcases htailOther with rfl | rfl <;> simp

/-- Where case counts, a path that is built from what another path gave is that path, but for the closing slash. -/
theorem eq_or_closed_of_build_extract {pattern : Pattern} {path built : String} {params : Params}
    (hextract : pattern.extract path = some params) (hbuild : pattern.build (some params) none = .ok built)
    (hcase : pattern.ignoreCase = false) : built = path ∨ built = path ++ "/" ∨ path = built ++ "/" :=
  agree_of_params_eq (extract_of_build_extract hextract hbuild) hextract hcase

/-- Parameters that a path gave name exactly what the template declares, in its order. They build a path if every
value can stand for its parameter, and otherwise the first one that cannot is the error. The built path gives the same
parameters again, and where case counts it is the path that they came from, or that path with a slash put to its end
or taken from it. -/
theorem build_extract {pattern : Pattern} {path : String} {params : Params}
    (hextract : pattern.extract path = some params) :
    params.names = pattern.names ∧
      ((∃ built, pattern.build (some params) none = .ok built) ↔
        ∀ entry ∈ params.entries, isSubstitutable entry.2 = true) ∧
      (∀ error, pattern.build (some params) none = .error error ↔
        ∃ name value, params.entries.find? (fun entry => !isSubstitutable entry.2) = some (name, value) ∧
          error = .invalidParam pattern.template name value) ∧
      ∀ built, pattern.build (some params) none = .ok built →
        pattern.extract built = some params ∧
          (pattern.ignoreCase = false → built = path ∨ built = path ++ "/" ∨ path = built ++ "/") := by
  have hnames := names_of_extract hextract
  refine ⟨hnames, build_ok_iff hnames, fun error => build_eq_error_iff hnames, ?_⟩
  intro built hbuild
  exact ⟨extract_of_build_extract hextract hbuild, eq_or_closed_of_build_extract hextract hbuild⟩

/-- A pattern with two parameters around an empty segment, and a closing slash. -/
def memoPattern : Pattern where
  serial := 0
  template := "/:b//:a/"
  layout := ⟨[.param "b", .literal "", .param "a"], true⟩
  ignoreCase := false
  layout_eq := by decide
  nodup_names := by decide
  empty_notMem_names := by decide

/-- A value that an address reads as dots cannot build its path again, and one with a space in it can. -/
theorem build_extract_memoPattern :
    memoPattern.extract "/é//%2E" = some ⟨[("b", "é"), ("a", "%2E")]⟩ ∧
      memoPattern.build (some ⟨[("b", "é"), ("a", "%2E")]⟩) none = .error (.invalidParam "/:b//:a/" "a" "%2E") ∧
      memoPattern.extract "/é//a b" = some ⟨[("b", "é"), ("a", "a b")]⟩ ∧
      ∃ built, memoPattern.build (some ⟨[("b", "é"), ("a", "a b")]⟩) none = .ok built ∧
        memoPattern.extract built = some ⟨[("b", "é"), ("a", "a b")]⟩ ∧
        (built = "/é//a b" ∨ built = "/é//a b" ++ "/" ∨ "/é//a b" = built ++ "/") := by
  have hbad : memoPattern.extract "/é//%2E" = some ⟨[("b", "é"), ("a", "%2E")]⟩ := by decide +kernel
  have hgood : memoPattern.extract "/é//a b" = some ⟨[("b", "é"), ("a", "a b")]⟩ := by decide +kernel
  obtain ⟨-, -, herror, -⟩ := build_extract hbad
  obtain ⟨-, hok, -, hbuilt⟩ := build_extract hgood
  obtain ⟨built, hbuild⟩ := hok.2 (by decide +kernel)
  obtain ⟨hextract, hpath⟩ := hbuilt built hbuild
  exact ⟨hbad, (herror _).2 ⟨"a", "%2E", by decide +kernel, rfl⟩, hgood, built, hbuild, hextract, hpath rfl⟩

end Pattern

end PageRouter
