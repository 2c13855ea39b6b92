import PageRouter.Proofs.Route.Carried
import PageRouter.Proofs.Route.Grammar

namespace PageRouter

/-- The parts of a path, with the signs that they start with. -/
structure PathParts where
  pathname : String
  query : String
  fragment : String
  deriving DecidableEq, Repr

/-- Cuts a path at its first number sign, and what is in front of it at its first question mark. -/
def PathParts.ofPath (path : String) : PathParts :=
  let front := path.toList.takeWhile (· ≠ fragmentSign)
  { pathname := String.ofList (front.takeWhile (· ≠ querySign))
    query := String.ofList (front.dropWhile (· ≠ querySign))
    fragment := String.ofList (path.toList.dropWhile (· ≠ fragmentSign)) }

private theorem dropWhile_ne_eq_nil_or_cons (sign : Char) (text : List Char) :
    text.dropWhile (· ≠ sign) = [] ∨ ∃ more, text.dropWhile (· ≠ sign) = sign :: more := by
  induction text with
  | nil => exact .inl rfl
  | cons c text ih =>
    by_cases hc : c = sign
    · exact .inr ⟨text, by simp [hc]⟩
    · rw [List.dropWhile_cons_of_pos (by simpa using hc)]
      exact ih

/-- Neither sign is in the pathname that a path is cut to. -/
theorem PathParts.isInPath_of_mem_pathname {path : String} {c : Char} (hmem : c ∈ (ofPath path).pathname.toList) :
    Url.isInPath c = true := by
  rw [ofPath, String.toList_ofList] at hmem
  have hquery : c ≠ '?' := fun heq => Pattern.notMem_takeWhile_ne _ _ (heq ▸ hmem)
  have hfragment : c ≠ '#' := fun heq =>
    Pattern.notMem_takeWhile_ne _ _ (heq ▸ (List.takeWhile_sublist _).mem hmem)
  simp [Url.isInPath, hquery, hfragment]

/-- A path falls into a pathname that neither sign ends, the query up to its first number sign, and all that follows. -/
theorem PathParts.ofPath_append {pathname query fragment : List Char} (hpathname : ∀ c ∈ pathname, Url.isInPath c = true)
    (hquery : query = [] ∨ ∃ body, query = querySign :: body) (hfragment : Url.IsFragment fragment) :
    ofPath (String.ofList (pathname ++ query ++ fragment)) =
      ⟨String.ofList pathname, String.ofList (query.takeWhile (· ≠ fragmentSign)),
        String.ofList (query.dropWhile (· ≠ fragmentSign) ++ fragment)⟩ := by
  have hfree : fragmentSign ∉ pathname ∧ querySign ∉ pathname :=
    ⟨fun hmem => absurd (hpathname _ hmem) (by decide), fun hmem => absurd (hpathname _ hmem) (by decide)⟩
  have hsplit : pathname ++ query ++ fragment = (pathname ++ query.takeWhile (· ≠ fragmentSign)) ++
      (query.dropWhile (· ≠ fragmentSign) ++ fragment) := by
    conv_lhs => rw [← List.takeWhile_append_dropWhile (p := (· ≠ fragmentSign)) (l := query)]
    simp only [List.append_assoc]
  have hfront : fragmentSign ∉ pathname ++ query.takeWhile (· ≠ fragmentSign) := by
    rw [List.mem_append, not_or]
    exact ⟨hfree.1, Pattern.notMem_takeWhile_ne fragmentSign query⟩
  have hback : query.dropWhile (· ≠ fragmentSign) ++ fragment = [] ∨
      ∃ more, query.dropWhile (· ≠ fragmentSign) ++ fragment = fragmentSign :: more := by
    rcases dropWhile_ne_eq_nil_or_cons fragmentSign query with hnil | ⟨more, hmore⟩
    · rw [hnil]
      exact hfragment
    · exact .inr ⟨more ++ fragment, by rw [hmore, List.cons_append]⟩
  have hstart : query.takeWhile (· ≠ fragmentSign) = [] ∨
      ∃ more, query.takeWhile (· ≠ fragmentSign) = querySign :: more := by
    rcases hquery with rfl | ⟨body, rfl⟩
    · exact .inl rfl
    · exact .inr ⟨_, List.takeWhile_cons_of_pos (by decide)⟩
  obtain ⟨hbefore, hafter⟩ := Pattern.takeWhile_piece hfront hback
  obtain ⟨hname, hrest⟩ := Pattern.takeWhile_piece hfree.2 hstart
  simp only [ofPath, String.toList_ofList, hsplit, hbefore, hafter, hname, hrest]

namespace Extras

private theorem searchText_eq_nil_or_cons (extras : Extras) :
    extras.searchText.toList = [] ∨ ∃ body, extras.searchText.toList = querySign :: body := by
  obtain ⟨_ | ⟨raw⟩ | ⟨pairs⟩, hash⟩ := extras
  · exact .inl rfl
  · rw [searchText]
    dsimp only
    rw [Query.normalizeSearch?, Query.normalize?]
    split
    · exact .inl rfl
    · exact .inr ⟨_, String.toList_ofList⟩
  · cases pairs with
    | nil => exact .inl rfl
    | cons pair more => exact .inr ⟨_, toList_searchText_cons pair more hash⟩

/-- Taking question marks off a query leaves its number signs. -/
theorem fragmentSign_mem_normalizeSearch? (raw : String) :
    fragmentSign ∈ ((Query.normalizeSearch? raw).getD "").toList ↔ fragmentSign ∈ raw.toList := by
  have hsplit : fragmentSign ∈ raw.toList ↔ fragmentSign ∈ raw.toList.dropWhile (· == querySign) := by
    conv_lhs => rw [← List.takeWhile_append_dropWhile (p := (· == querySign)) (l := raw.toList)]
    rw [List.mem_append, or_iff_right]
    intro hmem
    exact absurd (List.mem_takeWhile_imp hmem) (by decide)
  rw [hsplit, Query.normalizeSearch?, Query.normalize?]
  split
  · next hnil => simp [hnil]
  · rw [Option.getD_some, String.toList_ofList, List.mem_cons, or_iff_right (by decide)]

/-- The query of a path holds a number sign exactly if it was supplied with one as it is. -/
theorem fragmentSign_notMem_searchText_iff {extras : Extras} :
    fragmentSign ∉ extras.searchText.toList ↔
      ∀ raw, extras.search = some (.raw raw) → fragmentSign ∉ raw.toList := by
  obtain ⟨_ | ⟨raw⟩ | ⟨pairs⟩, hash⟩ := extras
  · simp [searchText]
  · simp [searchText, fragmentSign_mem_normalizeSearch?]
  · have hfree : fragmentSign ∉ (searchText { search := some (.pairs pairs), hash := hash }).toList := by
      cases pairs with
      | nil => exact List.not_mem_nil
      | cons pair more =>
        rw [toList_searchText_cons, List.mem_cons, not_or]
        exact ⟨by decide, fun hmem => (Query.plain_of_mem_encode hmem).2.1 rfl⟩
    simp [hfree]

end Extras

namespace Pattern

/-- Whatever case is read as, the signs in a literal segment are in every path that is read. -/
theorem mem_spell_of_literal {ignoreCase : Bool} {segments : List Segment} {pieces : List (List Char)}
    (haccepts : List.Forall₂ (Segment.Accepts ignoreCase) segments pieces) {text : String}
    (htext : Segment.literal text ∈ segments) {sign : Char} (hsign : Text.IsLow sign) (hmem : sign ∈ text.toList) :
    sign ∈ spell pieces := by
  induction haccepts with
  | nil => cases htext
  | @cons segment piece more rest haccept _ ih =>
    rw [spell_cons]
    refine List.mem_cons_of_mem _ (List.mem_append.2 ?_)
    rcases List.mem_cons.1 htext with rfl | hmore
    · exact .inl ((mem_iff_of_sameLetters (accepts_literal_iff.1 haccept) hsign).2 hmem)
    · exact .inr (ih hmore)

/-- A pattern takes values only out of a pathname that holds all signs of its literal segments. -/
theorem signs_notMem_of_extract {pattern : Pattern} {pathname : String}
    (hplain : ∀ c ∈ pathname.toList, Url.isInPath c = true) {found : Params}
    (hextract : pattern.extract pathname = some found) {text : String}
    (htext : Segment.literal text ∈ pattern.segments) :
    querySign ∉ text.toList ∧ fragmentSign ∉ text.toList := by
  obtain ⟨pieces, ⟨haccepts, tail, -, hspelled⟩, -⟩ := extract_eq_some_iff.1 hextract
  have hsigns : ∀ sign, Text.IsLow sign → sign ∈ text.toList → Url.isInPath sign = true := by
    intro sign hsign hmem
    refine hplain sign ?_
    rw [hspelled]
    exact List.mem_append_left _ (mem_spell_of_literal haccepts htext hsign hmem)
  exact ⟨fun hmem => absurd (hsigns _ (by decide) hmem) (by decide),
    fun hmem => absurd (hsigns _ (by decide) hmem) (by decide)⟩

/-- A path that was built is the spelled pathname with the query and the fragment after it. -/
theorem ofPath_eq_of_build {pattern : Pattern}
    (hliterals : ∀ text, Segment.literal text ∈ pattern.segments →
      querySign ∉ text.toList ∧ fragmentSign ∉ text.toList)
    {params : Params} {pathname : String} (hpathname : pattern.buildPathname params = .ok pathname)
    (extras : Extras) :
    PathParts.ofPath (pathname ++ extras.searchText ++ extras.hashText) =
      ⟨pathname, String.ofList (extras.searchText.toList.takeWhile (· ≠ fragmentSign)),
        String.ofList (extras.searchText.toList.dropWhile (· ≠ fragmentSign) ++ extras.hashText.toList)⟩ := by
  obtain ⟨-, -, hvalues, rfl⟩ := buildPathname_eq_ok_iff.1 hpathname
  have hparts := PathParts.ofPath_append (fun c hc => isInPath_of_mem_spelledPathname hliterals hvalues hc)
    extras.searchText_eq_nil_or_cons extras.isFragment_hashText
  rwa [String.ofList_append, String.ofList_append, String.ofList_toList, String.ofList_toList] at hparts

/-- Cutting a path that was built gives a pathname from which the pattern extracts what was supplied, exactly if no
literal segment of its template holds a question mark or a number sign. In that case it also gives the query up to its
first number sign, and the rest of it with the fragment; which is the query and the fragment that were supplied,
exactly if no query with a number sign was supplied as it is. -/
theorem ofPath_build {pattern : Pattern} {params : Option Params} {extras : Option Extras} {path : String}
    (hbuild : pattern.build params extras = .ok path) :
    ((∃ found, pattern.extract (PathParts.ofPath path).pathname = some found ∧
        found.entries.map (fun entry => (entry.1, some entry.2)) =
          pattern.names.map fun name => (name, (params.getD .empty).get? name)) ↔
      ∀ text, Segment.literal text ∈ pattern.segments → querySign ∉ text.toList ∧ fragmentSign ∉ text.toList) ∧
    ((∀ text, Segment.literal text ∈ pattern.segments → querySign ∉ text.toList ∧ fragmentSign ∉ text.toList) →
      (PathParts.ofPath path).query.toList = (extras.getD {}).searchText.toList.takeWhile (· ≠ fragmentSign) ∧
      (PathParts.ofPath path).fragment.toList =
        (extras.getD {}).searchText.toList.dropWhile (· ≠ fragmentSign) ++ (extras.getD {}).hashText.toList ∧
      ((PathParts.ofPath path).query = (extras.getD {}).searchText ∧
          (PathParts.ofPath path).fragment = (extras.getD {}).hashText ↔
        ∀ raw, (extras.getD {}).search = some (.raw raw) → fragmentSign ∉ raw.toList)) := by
  obtain ⟨pathname, hpathname, hpath⟩ := bind_eq_ok_iff.1 hbuild
  rw [suppliedPathname_eq] at hpathname
  obtain rfl := Except.ok.inj hpath
  refine ⟨⟨?_, fun hliterals => ?_⟩, fun hliterals => ?_⟩
  · rintro ⟨found, hextract, -⟩ text htext
    exact signs_notMem_of_extract (fun c => PathParts.isInPath_of_mem_pathname) hextract htext
  · rw [ofPath_eq_of_build hliterals hpathname]
    have hplain : pattern.build params none = .ok pathname := by rwa [build_eq_build_some, build_none_eq]
    exact extract_of_build hplain
  · rw [ofPath_eq_of_build hliterals hpathname]
    refine ⟨String.toList_ofList, String.toList_ofList, ?_⟩
    rw [← Extras.fragmentSign_notMem_searchText_iff]
    constructor
    · rintro ⟨hquery, -⟩ hmem
      have hwhole := congrArg String.toList hquery
      rw [String.toList_ofList] at hwhole
      rw [← hwhole] at hmem
      exact notMem_takeWhile_ne _ _ hmem
    · intro hfree
      obtain ⟨hbefore, hafter⟩ := takeWhile_piece hfree (.inl rfl)
      rw [List.append_nil] at hbefore hafter
      simp only [hbefore, hafter, List.nil_append, String.ofList_toList, and_self]

/-- The path is cut at its first question mark and its first number sign; further ones stay in the query and in the
fragment. -/
theorem ofPath_build_notePattern :
    notePattern.build (some ⟨[("a", "x y")]⟩) (some { search := some (.raw "??q=?"), hash := some "top#" }) =
        .ok "/n/x y?q=?#top#" ∧
      (∃ found, notePattern.extract (PathParts.ofPath "/n/x y?q=?#top#").pathname = some found ∧
        found.entries.map (fun entry => (entry.1, some entry.2)) = [("a", some "x y")]) ∧
      (PathParts.ofPath "/n/x y?q=?#top#").query = "?q=?" ∧
      (PathParts.ofPath "/n/x y?q=?#top#").fragment = "#top#" := by
  have hbuild : notePattern.build (some ⟨[("a", "x y")]⟩)
      (some { search := some (.raw "??q=?"), hash := some "top#" }) = .ok "/n/x y?q=?#top#" := by decide +kernel
  obtain ⟨hextract, hparts⟩ := ofPath_build hbuild
  have hraw : ∀ raw, some (Search.raw "??q=?") = some (.raw raw) → fragmentSign ∉ raw.toList := by
    intro raw heq
    cases heq
    decide
  obtain ⟨hquery, hfragment⟩ := (hparts signs_notMem_literals_notePattern).2.2.2 hraw
  exact ⟨hbuild, hextract.2 signs_notMem_literals_notePattern, hquery.trans (by decide +kernel),
    hfragment.trans (by decide +kernel)⟩

/-- A pattern with a question mark in a literal segment. -/
def askingPattern : Pattern where
  serial := 0
  template := "/a?b"
  layout := ⟨[.literal "a?b"], false⟩
  ignoreCase := false
  layout_eq := by decide
  nodup_names := by decide
  empty_notMem_names := by decide

/-- A template with a question mark compiles, but not even from its own path without a query does the pattern take
anything; and a query with a number sign ends in front of it. -/
theorem ofPath_build_askingPattern :
    compile {} 0 "/a?b" = .ok askingPattern ∧ askingPattern.build none none = .ok "/a?b" ∧
      askingPattern.extract (PathParts.ofPath "/a?b").pathname = none ∧
      compile {} 0 "/n/:a" = .ok notePattern ∧
      notePattern.build (some ⟨[("a", "x")]⟩) (some { search := some (.raw "q#y") }) = .ok "/n/x?q#y" ∧
      Extras.searchText { search := some (.raw "q#y") } = "?q#y" ∧
      (PathParts.ofPath "/n/x?q#y").query = "?q" := by
  decide +kernel

end Pattern

end PageRouter
