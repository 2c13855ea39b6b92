import PageRouter.Proofs.Route.Address
import PageRouter.Proofs.Route.Query
import PageRouter.Proofs.Url.Tail

namespace PageRouter

open Url (isInPath IsFragment)

namespace Query

/-- The characters that a written query is made of mean nothing to an address. -/
theorem plain_of_isFormChar {c : Char} (hc : isFormChar c = true ∨ c = '&' ∨ c = '=') :
    0x20 < c.toNat ∧ c ≠ '#' ∧ ∀ special, Url.isEncodedInQuery special c = false := by
  have hascii : ∀ n ∈ List.range 128, isFormChar (Char.ofNat n) = true →
      0x20 < (Char.ofNat n).toNat ∧ Char.ofNat n ≠ '#' ∧
        ∀ special, Url.isEncodedInQuery special (Char.ofNat n) = false := by decide +kernel
  rcases hc with hform | rfl | rfl
  · have hlow : c.toNat < 128 := by
      rw [isFormChar, Bool.or_eq_true] at hform
      rcases hform with halnum | hsign
      · exact toNat_lt_of_isAlphanum halnum
      · have hsigns : ∀ sign ∈ "*-._+%".toList, sign.toNat < 128 := by simp
        exact hsigns c (by simpa using hsign)
    have hplain := hascii c.toNat (List.mem_range.2 hlow)
    rw [Char.ofNat_toNat] at hplain
    exact hplain hform
  · decide +kernel
  · decide +kernel

private theorem isFormChar_of_mem_encodeText {text : String} {c : Char} (hc : c ∈ encodeText text) :
    isFormChar c = true := by
  obtain ⟨b, -, hmem⟩ := List.mem_flatMap.1 hc
  exact isFormChar_of_mem_encodeByte hmem

/-- Nothing in a written query ends it, is encoded or left out by an address. -/
theorem plain_of_mem_encode {pairs : List (String × String)} {c : Char}
    (hc : c ∈ Text.joinPieces '&' (pairs.map encodePair)) :
    0x20 < c.toNat ∧ c ≠ '#' ∧ ∀ special, Url.isEncodedInQuery special c = false := by
  refine plain_of_isFormChar ?_
  by_cases hand : c = '&'
  · exact .inr (.inl hand)
  obtain ⟨piece, hpiece, hmem⟩ := mem_of_mem_joinPieces hand hc
  obtain ⟨pair, -, rfl⟩ := List.mem_map.1 hpiece
  rw [encodePair, List.mem_append, List.mem_cons] at hmem
  rcases hmem with hname | rfl | hvalue
  · exact .inl (isFormChar_of_mem_encodeText hname)
  · exact .inr (.inr rfl)
  · exact .inl (isFormChar_of_mem_encodeText hvalue)

/-- Even a pair of empty texts is written. -/
theorem encode_cons_ne_nil (pair : String × String) (more : List (String × String)) :
    Text.joinPieces '&' ((pair :: more).map encodePair) ≠ [] := by
  cases more <;> simp [Text.joinPieces, encodePair]

/-- A query that does not start with a question mark gets one. -/
theorem normalizeSearch?_of_notMem {body : List Char} (hne : body ≠ []) (hbody : '?' ∉ body) :
    normalizeSearch? (String.ofList body) = some (String.ofList ('?' :: body)) := by
  obtain ⟨c, rest, rfl⟩ := List.exists_cons_of_ne_nil hne
  have hc : (c == '?') = false := beq_eq_false_iff_ne.2 fun heq => hbody (heq ▸ List.mem_cons_self)
  rw [normalizeSearch?, normalize?, String.toList_ofList, querySign, List.dropWhile_cons_of_neg (by simp [hc])]

end Query

namespace Extras

/-- The query of a path with pairs is a question mark and the pairs as they are written. -/
theorem toList_searchText_cons (pair : String × String) (more : List (String × String)) (hash : Option String) :
    (searchText { search := some (.pairs (pair :: more)), hash := hash }).toList =
      '?' :: Text.joinPieces '&' ((pair :: more).map Query.encodePair) := by
  rw [searchText, String.toList_append, Query.encode]
  exact congrArg ('?' :: ·) String.toList_ofList

/-- What follows the query of a path that is built is a fragment, or nothing. -/
theorem isFragment_hashText (extras : Extras) : IsFragment extras.hashText.toList := by
  rcases hhash : extras.hash.bind Query.normalizeHash? with _ | text
  · exact .inl (by rw [hashText, hhash]; rfl)
  · obtain ⟨raw, -, hraw⟩ := Option.bind_eq_some_iff.1 hhash
    rw [Query.normalizeHash?, Query.normalize?] at hraw
    split at hraw
    · cases hraw
    · refine .inr ⟨raw.toList.dropWhile (· == fragmentSign), ?_⟩
      rw [hashText, hhash, ← Option.some.inj hraw, Option.getD_some, String.toList_ofList]
      rfl

end Extras

namespace Location

private theorem searchParams_of_no_query {url : Url} (hquery : url.query = none) : (ofUrl url).searchParams = [] := by
  rw [searchParams, ofUrl, hquery]
  rfl

private theorem searchParams_of_query {url : Url} {pairs : List (String × String)}
    (hquery : url.query = some (Text.joinPieces '&' (pairs.map Query.encodePair)))
    (hne : Text.joinPieces '&' (pairs.map Query.encodePair) ≠ []) : (ofUrl url).searchParams = pairs := by
  have hsearch := Query.normalizeSearch?_of_notMem hne (Query.question_notMem_encode pairs)
  rw [searchParams, ofUrl, hquery]
  dsimp only
  rw [Option.map_some, Option.bind_some, hsearch, Option.getD_some, Query.parse_question, Query.parseBody_encode]

end Location

namespace Pattern

private theorem notMem_spelledPathname {pattern : Pattern} {params : Params} {sign : Char} (hsign : sign ≠ '/')
    (hpieces : ∀ segment ∈ pattern.segments, sign ∉ pieceOf params segment) :
    sign ∉ pattern.spelledPathname params := by
  obtain ⟨tail, htail, -, hspelled⟩ := exists_spelledPathname_eq pattern params
  rw [hspelled, List.mem_append, not_or]
  refine ⟨notMem_spell hsign (List.forall_mem_map.2 hpieces), ?_⟩
  rcases htail with rfl | rfl
  · exact List.not_mem_nil
  · exact fun hmem => hsign (List.mem_singleton.1 hmem)

/-- Nothing in a path that is built starts a query or a fragment, if nothing in the literal segments does. -/
theorem isInPath_of_mem_spelledPathname {pattern : Pattern} {params : Params}
    (hliterals : ∀ text, Segment.literal text ∈ pattern.segments →
      querySign ∉ text.toList ∧ fragmentSign ∉ text.toList)
    (hvalues : ∀ name, Segment.param name ∈ pattern.segments →
      isSubstitutable ((params.get? name).getD "") = true)
    {c : Char} (hmem : c ∈ pattern.spelledPathname params) : isInPath c = true := by
  have hpieces : ∀ segment ∈ pattern.segments,
      '?' ∉ pieceOf params segment ∧ '#' ∉ pieceOf params segment := by
    intro segment hsegment
    cases segment with
    | literal text => exact hliterals text hsegment
    | param name =>
      obtain ⟨-, -, -, hquery, hfragment⟩ := isSubstitutable_iff.1 (hvalues name hsegment)
      exact ⟨hquery, hfragment⟩
  have hquery : c ≠ '?' := fun heq =>
    notMem_spelledPathname (by decide) (fun segment hsegment => (hpieces segment hsegment).1) (heq ▸ hmem)
  have hfragment : c ≠ '#' := fun heq =>
    notMem_spelledPathname (by decide) (fun segment hsegment => (hpieces segment hsegment).2) (heq ▸ hmem)
  simp [isInPath, hquery, hfragment]

private theorem spelledPathname_eq_cons (pattern : Pattern) (params : Params) :
    ∃ path, pattern.spelledPathname params = '/' :: path := by
  obtain ⟨tail, -, hroot, hspelled⟩ := exists_spelledPathname_eq pattern params
  rw [hspelled]
  rcases hsegments : pattern.segments with _ | ⟨segment, more⟩
  · exact ⟨[], by rw [hroot hsegments]; rfl⟩
  · exact ⟨_, by rw [List.map_cons, spell_cons, List.cons_append]⟩

/-- The pairs that a path is built with are the pairs of the location that it leads to, from everywhere and whatever
query was there, if the literal segments of the template hold no sign that starts a query or a fragment. -/
theorem searchParams_join_build {pattern : Pattern}
    (hliterals : ∀ text, Segment.literal text ∈ pattern.segments →
      querySign ∉ text.toList ∧ fragmentSign ∉ text.toList)
    {params : Option Params} {pairs : List (String × String)} {hash : Option String} {path : String}
    (hbuild : pattern.build params (some { search := some (.pairs pairs), hash := hash }) = .ok path)
    {base target : Location} (hjoin : base.join path = .ok target) : target.searchParams = pairs := by
  obtain ⟨pathname, hpathname, hpath⟩ := bind_eq_ok_iff.1 hbuild
  rw [suppliedPathname_eq] at hpathname
  obtain ⟨-, -, hvalues, rfl⟩ := buildPathname_eq_ok_iff.1 hpathname
  obtain ⟨rest, hspelled⟩ := pattern.spelledPathname_eq_cons (params.getD .empty)
  have hrest : ∀ c ∈ rest, isInPath c = true := fun c hc =>
    isInPath_of_mem_spelledPathname hliterals hvalues (hspelled ▸ List.mem_cons_of_mem _ hc)
  obtain ⟨baseUrl, -, url, hurl, rfl⟩ := Location.join_eq_ok_iff.1 hjoin
  have hhash := Extras.isFragment_hashText { search := some (.pairs pairs), hash := hash }
  have htext : path.toList = '/' :: rest ++ (Extras.searchText { search := some (.pairs pairs) }).toList ++
      (Extras.hashText { search := some (.pairs pairs), hash := hash }).toList := by
    rw [← Except.ok.inj hpath, String.toList_append, String.toList_append, String.toList_ofList, hspelled]
    rfl
  cases pairs with
  | nil =>
    rw [Extras.searchText, String.toList_empty, List.append_nil] at htext
    exact Location.searchParams_of_no_query (Url.query_join_of_no_query hrest hhash hurl htext)
  | cons pair more =>
    have hne : Text.joinPieces '&' ((pair :: more).map Query.encodePair) ≠ [] := Query.encode_cons_ne_nil pair more
    rw [Extras.toList_searchText_cons] at htext
    exact Location.searchParams_of_query
      (Url.query_join_of_query hrest hhash hurl hne (fun c => Query.plain_of_mem_encode) htext) hne

/-- A location with a query of its own. -/
def queriedLoopback : Location :=
  ⟨"http://[::1]", "http://[::1]/m?old=1", "/m", "?old=1", ""⟩

/-- Pairs with signs that mean something in an address, with empty texts and with letters outside of ASCII are carried
along, behind a value with a backslash. -/
theorem searchParams_join_build_notePattern :
    notePattern.build (some ⟨[("a", "x\\y")]⟩)
        (some { search := some (.pairs [("é?", "a&b=#"), ("", ""), ("'", " ")]), hash := some "top " }) =
      .ok "/n/x\\y?%C3%A9%3F=a%26b%3D%23&=&%27=+#top " ∧
      ∃ target, queriedLoopback.join "/n/x\\y?%C3%A9%3F=a%26b%3D%23&=&%27=+#top " = .ok target ∧
        target.searchParams = [("é?", "a&b=#"), ("", ""), ("'", " ")] := by
  have hbuild : notePattern.build (some ⟨[("a", "x\\y")]⟩)
      (some { search := some (.pairs [("é?", "a&b=#"), ("", ""), ("'", " ")]), hash := some "top " }) =
        .ok "/n/x\\y?%C3%A9%3F=a%26b%3D%23&=&%27=+#top " := by decide +kernel
  have hjoin : queriedLoopback.join "/n/x\\y?%C3%A9%3F=a%26b%3D%23&=&%27=+#top " =
      .ok ⟨"http://[::1]", "http://[::1]/n/x/y?%C3%A9%3F=a%26b%3D%23&=&%27=+#top", "/n/x/y",
        "?%C3%A9%3F=a%26b%3D%23&=&%27=+", "#top"⟩ := by decide +kernel
  exact ⟨hbuild, _, hjoin, searchParams_join_build signs_notMem_literals_notePattern hbuild hjoin⟩

end Pattern

end PageRouter
