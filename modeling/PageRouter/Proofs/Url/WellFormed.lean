import PageRouter.Proofs.Route.Parts
import PageRouter.Proofs.Url.Encoded

namespace PageRouter

/-- A text that is empty, or a sign with a text behind it that does not start with the sign again. -/
def HasOneSign (sign : Char) (text : String) : Prop :=
  text = "" ∨ ∃ body, body ≠ [] ∧ body.head? ≠ some sign ∧ text = String.ofList (sign :: body)

/-- Whatever text is put in normal form. -/
theorem Query.hasOneSign_normalize? (sign : Char) (raw : Option String) :
    HasOneSign sign ((raw.bind (normalize? sign)).getD "") := by
  rcases raw with _ | raw
  · exact .inl rfl
  rw [Option.bind_some, normalize?]
  split
  · exact .inl rfl
  · next body hbody =>
    refine .inr ⟨_, hbody, ?_, rfl⟩
    intro hhead
    have hdrop := List.head?_dropWhile_not (· == sign) raw.toList
    rw [hhead] at hdrop
    simp at hdrop

namespace Location

private theorem Obtained.exists_wellFormed {location : Location} (hobtained : location.Obtained) :
    ∃ url, location = ofUrl url ∧ ':' ∉ url.scheme ∧ Url.WellFormed url :=
  hobtained.exists_of_read (P := fun url => ':' ∉ url.scheme ∧ Url.WellFormed url) fun hbase _ _ hread =>
    ⟨Url.colon_notMem_scheme (fun own hown => (hbase own hown).1) hread,
      Url.wellFormed_read (fun own hown => (hbase own hown).2) hread⟩

/-- An address without an authority whose path does not start with a slash says the path right after its scheme. -/
theorem href_ofUrl_of_not_rooted {url : Url} (hauthority : url.authority = none) (hpath : ¬Url.IsRooted url.path) :
    ∃ rest, (ofUrl url).href = String.ofList url.scheme ++ ":" ++ (ofUrl url).pathname ++ rest := by
  have hslashes : "//".toList.isPrefixOf url.path = false := by
    cases hcase : url.path with
    | nil => rfl
    | cons c path =>
      have hc : c ≠ '/' := fun heq => hpath (by rw [hcase, heq]; rfl)
      simp [List.isPrefixOf, Ne.symm hc]
  have htext : ∃ rest, url.text = url.scheme ++ ':' :: url.path ++ rest := by
    simp only [Url.text, Url.textBeforeQuery, hauthority, hslashes, List.append_assoc]
    exact ⟨_, rfl⟩
  obtain ⟨rest, htext⟩ := htext
  refine ⟨String.ofList rest, String.toList_inj.1 ?_⟩
  simp [ofUrl, htext]

/-- The parts of a location that was read or followed to, in whatever steps. Query and fragment are nothing, or one sign
and a text that does not start with it; the pathname holds neither sign and the query no number sign. The pathname
starts with a slash, but for schemes that are neither of the web nor of files: there it may also be empty, or stand
right behind the scheme. -/
theorem obtained_wellFormed {location : Location} (hobtained : location.Obtained) :
    HasOneSign querySign location.search ∧
    HasOneSign fragmentSign location.hash ∧
    fragmentSign ∉ location.search.toList ∧
    (∀ c ∈ location.pathname.toList, c ≠ querySign ∧ c ≠ fragmentSign) ∧
    (location.pathname.toList.head? = some '/' ∨
      Url.SchemeKind.ofScheme location.scheme.toList = .other ∧
        (location.pathname = "" ∨
          ∃ rest, location.href = location.scheme ++ ":" ++ location.pathname ++ rest)) := by
  obtain ⟨url, rfl, hcolon, hurl⟩ := hobtained.exists_wellFormed
  have hpathname : (ofUrl url).pathname.toList = url.path := String.toList_ofList
  refine ⟨Query.hasOneSign_normalize? _ _, Query.hasOneSign_normalize? _ _, ?_, ?_, ?_⟩
  · rcases hquery : url.query with _ | query
    · simp [ofUrl, hquery]
    · have hsearch : (ofUrl url).search = (Query.normalizeSearch? (String.ofList query)).getD "" := by
        rw [ofUrl, hquery]
        rfl
      rw [hsearch, Extras.fragmentSign_mem_normalizeSearch?, String.toList_ofList]
      exact Url.sign_notMem_of_query (hurl.query query hquery)
  · rw [hpathname]
    intro c hc
    have hpath := hurl.inPath c hc
    exact ⟨fun heq => absurd (heq ▸ hpath) (by decide), fun heq => absurd (heq ▸ hpath) (by decide)⟩
  · rw [hpathname, scheme_ofUrl hcolon, String.toList_ofList]
    rcases hurl.rooted with hrooted | ⟨hkind, hnil | hauthority⟩
    · exact .inl hrooted
    · exact .inr ⟨hkind, .inl (by rw [ofUrl, hnil])⟩
    · by_cases hrooted : Url.IsRooted url.path
      · exact .inl hrooted
      · exact .inr ⟨hkind, .inr (href_ofUrl_of_not_rooted hauthority hrooted)⟩

/-- A target with more signs than are kept. -/
theorem obtained_wellFormed_relative :
    (parse "http://[::1]/a/b?x").bind (·.join "..\\c d???a##") =
      .ok ⟨"http://[::1]", "http://[::1]/c%20d???a##", "/c%20d", "?a", ""⟩ ∧
    HasOneSign querySign "?a" ∧ HasOneSign fragmentSign "" ∧ fragmentSign ∉ "?a".toList ∧
    "/c%20d".toList.head? = some '/' := by
  have hparse : parse "http://[::1]/a/b?x" = .ok ⟨"http://[::1]", "http://[::1]/a/b?x", "/a/b", "?x", ""⟩ := by
    decide +kernel
  have hjoin : (⟨"http://[::1]", "http://[::1]/a/b?x", "/a/b", "?x", ""⟩ : Location).join "..\\c d???a##" =
      .ok ⟨"http://[::1]", "http://[::1]/c%20d???a##", "/c%20d", "?a", ""⟩ := by decide +kernel
  obtain ⟨hsearch, hhash, hsign, -, hpathname⟩ := obtained_wellFormed (.join hjoin)
  refine ⟨by rw [hparse]; exact hjoin, hsearch, hhash, hsign, hpathname.resolve_right ?_⟩
  rintro ⟨hother, -⟩
  exact absurd hother (by decide)

/-- Neither an address of another scheme that ends at its host nor one without any host has a path that starts with a
slash. -/
theorem pathname_without_slash :
    parse "foo://h" = .ok ⟨"null", "foo://h", "", "", ""⟩ ∧
    parse "mailto:a@b" = .ok ⟨"null", "mailto:a@b", "a@b", "", ""⟩ ∧
    "".toList.head? ≠ some '/' ∧ "a@b".toList.head? ≠ some '/' := by
  refine ⟨by decide +kernel, by decide +kernel, by decide, by decide⟩

end Location

end PageRouter
