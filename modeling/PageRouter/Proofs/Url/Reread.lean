import PageRouter.Proofs.Route.Recapture
import PageRouter.Proofs.Url.Authority

namespace PageRouter.Url

/-- An address that has an authority that was read, if it is one of the web. -/
def HasWebAuthority (url : Url) : Prop :=
  url.kind = .web → ∃ authority, url.authority = some authority ∧ IsWebAuthority url.scheme authority

private theorem hasWebAuthority_readAfterSlashes {scheme text : List Char} {url : Url}
    (hread : readAfterSlashes scheme text = .ok url) : HasWebAuthority url := by
  intro hweb
  obtain ⟨hscheme, authority, rest, hauthority, rfl⟩ := exists_readAuthority hread hweb
  rw [authority_extend, scheme_extend]
  exact ⟨authority, rfl, isWebAuthority_readAuthority hscheme hauthority⟩

private theorem hasWebAuthority_readRelative {base url : Url} {text : List Char} (hbase : HasWebAuthority base)
    (hread : readRelative base text = .ok url) : HasWebAuthority url := by
  unfold readRelative at hread
  split at hread
  · cases hread
    exact hbase
  · cases hread
    rw [HasWebAuthority, kind, scheme_withTail, authority_withTail]
    exact hbase
  · cases hread
    exact hbase
  · split at hread
    · split at hread
      · exact hasWebAuthority_readAfterSlashes hread
      · cases hread
        rw [HasWebAuthority, kind, scheme_extend, authority_extend]
        exact hbase
    · cases hread
      rw [HasWebAuthority, kind, scheme_extend, authority_extend]
      exact hbase

/-- The authority of an address of the web was read, from its own text or from that of its base. -/
theorem hasWebAuthority_read {base : Option Url} (hbase : ∀ own ∈ base, HasWebAuthority own) {text : List Char}
    {url : Url} (hread : read base text = .ok url) : HasWebAuthority url := by
  intro hweb
  cases webReading_of_read hread hweb with
  | absolute hread => exact hasWebAuthority_readAfterSlashes hread hweb
  | @relative own hown _ _ hread => exact hasWebAuthority_readRelative (hbase own hown) hread hweb
  | @fragment own hown _ fragment hurl =>
    subst hurl
    exact hbase own hown hweb

private theorem scheme_of_web {scheme : List Char} (hweb : SchemeKind.ofScheme scheme = .web) :
    scheme ∈ ["http".toList, "https".toList, "ws".toList, "wss".toList, "ftp".toList] := by
  unfold SchemeKind.ofScheme at hweb
  split at hweb
  · cases hweb
  split at hweb
  · next hport =>
    have hscheme {name : String} (heq : String.ofList scheme = name) : scheme = name.toList := by
      rw [← heq, String.toList_ofList]
    unfold defaultPort? at hport
    split at hport
    · next heq => simp [hscheme heq]
    · next heq => simp [hscheme heq]
    · next heq => simp [hscheme heq]
    · next heq => simp [hscheme heq]
    · next heq => simp [hscheme heq]
    · cases hport
  · cases hweb

/-- A scheme of the web is cut at its colon. -/
theorem cutScheme?_web {scheme : List Char} (hweb : SchemeKind.ofScheme scheme = .web) (rest : List Char) :
    cutScheme? (scheme ++ ':' :: rest) = some (scheme, rest) := by
  have hscheme := scheme_of_web hweb
  simp only [List.mem_cons, List.not_mem_nil, or_false] at hscheme
  rcases hscheme with rfl | rfl | rfl | rfl | rfl <;> rfl

private theorem isOf_scheme_of_web {scheme : List Char} (hweb : SchemeKind.ofScheme scheme = .web) :
    IsOf (0x20 < ·.toNat) scheme := by
  have hall : ∀ scheme ∈ ["http".toList, "https".toList, "ws".toList, "wss".toList, "ftp".toList],
      scheme.all (0x20 < ·.toNat) = true := by decide +kernel
  exact fun c hc => of_decide_eq_true (List.all_eq_true.1 (hall scheme (scheme_of_web hweb)) c hc)

/-- The tail that is written for a query and a fragment. -/
def tailText (query fragment : Option (List Char)) : List Char :=
  (query.map ('?' :: ·)).getD [] ++ (fragment.map ('#' :: ·)).getD []

/-- A query and a fragment that are encoded are read as they are written. -/
theorem withTail_tailText (url : Url) {query fragment : Option (List Char)}
    (hquery : ∀ text ∈ query, IsOf (isEncodedInQuery url.kind.isSpecial · = false) text)
    (hfragment : ∀ text ∈ fragment, IsOf (isEncodedInFragment · = false) text) :
    url.withTail (tailText query fragment) = { url with query, fragment } := by
  have hfragment' {text : List Char} (hmem : fragment = some text) : encodePart isEncodedInFragment text = text :=
    encodePart_eq_self (hfragment text hmem)
  rcases query with _ | query
  · rcases fragment with _ | fragment
    · rfl
    · change Url.withFragment { url with query := none } fragment = _
      rw [withFragment, hfragment' rfl]
  · have hplain := hquery query rfl
    have hall : ∀ c ∈ query, decide (c ≠ '#') = true := fun c hc => by
      have hne : c ≠ '#' := fun heq => sign_notMem_of_query hplain (heq ▸ hc)
      simpa using hne
    change Url.withTail url ('?' :: (query ++ (fragment.map ('#' :: ·)).getD [])) = _
    rw [withTail, List.takeWhile_append_of_pos hall, List.dropWhile_append_of_pos hall]
    rcases fragment with _ | fragment
    · simp [encodePart_eq_self hplain]
    · simp [encodePart_eq_self hplain, withFragment, hfragment' rfl]

/-- There is no blank in a query and a fragment that are encoded. -/
theorem shows_tailText {special : Bool} {query fragment : Option (List Char)}
    (hquery : ∀ text ∈ query, IsOf (isEncodedInQuery special · = false) text)
    (hfragment : ∀ text ∈ fragment, IsOf (isEncodedInFragment · = false) text) :
    IsOf (0x20 < ·.toNat) (tailText query fragment) := by
  refine IsOf.append ?_ ?_
  · rcases query with _ | query
    · exact isOf_nil
    · exact IsOf.cons (by decide) fun c hc => lt_toNat_of_query (hquery query rfl c hc)
  · rcases fragment with _ | fragment
    · exact isOf_nil
    · exact IsOf.cons (by decide) fun c hc => lt_toNat_of_fragment (hfragment fragment rfl c hc)

/-- A tail starts with the sign of its query or of its fragment. -/
theorem cutAtPathEnd_append_tailText {path : List Char} (hpath : InPath path) (query fragment : Option (List Char)) :
    cutAtPathEnd (path ++ tailText query fragment) = (path, tailText query fragment) := by
  have hpath : ∀ c ∈ path, (c != '?' && c != '#') = true := hpath
  have htail : (tailText query fragment).takeWhile (fun c => c != '?' && c != '#') = [] ∧
      (tailText query fragment).dropWhile (fun c => c != '?' && c != '#') = tailText query fragment := by
    rcases query with _ | query
    · rcases fragment with _ | fragment
      · exact ⟨rfl, rfl⟩
      · exact ⟨rfl, rfl⟩
    · exact ⟨rfl, rfl⟩
  rw [cutAtPathEnd, List.takeWhile_append_of_pos hpath, List.dropWhile_append_of_pos hpath, htail.1, htail.2,
    List.append_nil]

/-- A text without blanks has no breaks to drop. -/
theorem dropBreaks_eq_self {text : List Char} (htext : IsOf (0x20 < ·.toNat) text) : dropBreaks text = text :=
  List.filter_eq_self.2 fun c hc => by rw [isBreak_eq_false (htext c hc)]; rfl

/-- The path of a web address is read as it is written. -/
theorem extendPath_self {path text : List Char} (hspelled : IsSpelled path) (hplain : IsOf IsPlain path)
    (hpath : path = '/' :: text) : extendPath .web ['/'] text = path := by
  obtain ⟨segments, -, hsegments, hspell⟩ := hspelled
  have hpieces : Text.pieces '/' ('/' :: text) = [] :: segments := by
    rw [← hpath, hspell, Pattern.pieces_spell fun segment hsegment => (hsegments segment hsegment).slash_notMem]
  rw [Text.pieces, if_pos rfl] at hpieces
  have htext : IsOf IsPlain text := hplain.of_subset (hpath ▸ List.subset_cons_self '/' text)
  rw [hpath, extendPath_web (fun c hc => isBreak_eq_false (lt_toNat_of_plain (htext c hc)))
    (fun hmem => (htext _ hmem).2 rfl), encodePart_eq_self fun c hc => (htext c hc).1]
  intro segment hsegment
  rw [(List.cons.inj hpieces).2] at hsegment
  exact (hsegments segment hsegment).stays

/-- Extending the root of a web address by a path, a query and a fragment that were read gives these. -/
theorem extend_self {url : Url} (hweb : url.kind = .web) {path text : List Char} (hspelled : IsSpelled path)
    (hplain : IsOf IsPlain path) (hpath : path = '/' :: text) (hinPath : InPath path)
    {query fragment : Option (List Char)}
    (hquery : ∀ text ∈ query, IsOf (isEncodedInQuery url.kind.isSpecial · = false) text)
    (hfragment : ∀ text ∈ fragment, IsOf (isEncodedInFragment · = false) text) :
    url.extend ['/'] (text ++ tailText query fragment) = { url with path, query, fragment } := by
  have htext : InPath text := hinPath.of_subset (hpath ▸ List.subset_cons_self '/' text)
  rw [extend, cutAtPathEnd_append_tailText htext]
  dsimp only
  rw [dropBreaks_eq_self (shows_tailText hquery hfragment), hweb, extendPath_self hspelled hplain hpath]
  exact withTail_tailText { url with path } hquery hfragment

/-- An address of the web is written from its parts, each behind its sign. -/
theorem text_of_authority {url : Url} {authority : Authority} (hsome : url.authority = some authority) :
    url.text = url.scheme ++ ':' :: '/' :: '/' :: (authority.text ++ (url.path ++ tailText url.query url.fragment)) := by
  obtain ⟨scheme, authority, path, query, fragment⟩ := url
  subst hsome
  cases query <;> cases fragment <;> simp [text, textBeforeQuery, tailText]

section Text

variable {url : Url} (hweb : url.kind = .web) (hurl : WellFormed url) {authority : Authority}
  (hsome : url.authority = some authority) (hauthority : IsWebAuthority url.scheme authority)

include hweb hurl hsome hauthority

/-- What follows the two slashes of a web address is read as it is written, if its host is. -/
theorem readAfterSlashes_text (hspelled : IsSpelled url.path) :
    (webHost authority.host = .ok authority.host →
      readAfterSlashes url.scheme (authority.text ++ (url.path ++ tailText url.query url.fragment)) = .ok url) ∧
    ∀ error, webHost authority.host = .error error →
      readAfterSlashes url.scheme (authority.text ++ (url.path ++ tailText url.query url.fragment)) = .error error := by
  obtain ⟨path, hpath⟩ := hurl.exists_path hweb
  obtain ⟨hself, hrefused⟩ := hauthority.readAuthority_text hweb (path ++ tailText url.query url.fragment)
  rw [readAfterSlashes, hpath, List.cons_append]
  refine ⟨fun hhost => ?_, fun error hhost => by rw [hrefused error hhost]; rfl⟩
  have hspecial : kind { scheme := url.scheme, authority := some authority } = .web := hweb
  have hextend : extend { scheme := url.scheme, authority := some authority } ['/']
      (path ++ tailText url.query url.fragment) = url := by
    rw [extend_self hspecial hspelled (hurl.plain hweb) hpath hurl.inPath (hspecial ▸ hweb ▸ hurl.query) hurl.fragment,
      ← hsome]
  rw [hself hhost]
  change (if (kind { scheme := url.scheme, authority := some authority }).isSpecial = true then _ else _) = _
  rw [hspecial, if_pos (by decide)]
  exact congrArg Except.ok hextend

/-- The text of a web address is read from its two slashes on. -/
theorem read_eq_readAfterSlashes : read none url.text =
    readAfterSlashes url.scheme (authority.text ++ (url.path ++ tailText url.query url.fragment)) := by
  let rest := authority.text ++ (url.path ++ tailText url.query url.fragment)
  have hplain := hurl.plain hweb
  have hrest : IsOf (0x20 < ·.toNat) rest :=
    IsOf.append (fun c hc => (hauthority.isOf_text c hc).2)
      (IsOf.append (fun c hc => lt_toNat_of_plain (hplain c hc)) (shows_tailText hurl.query hurl.fragment))
  have hslashed : IsOf (0x20 < ·.toNat) ('/' :: '/' :: rest) := .cons (by decide) (.cons (by decide) hrest)
  have hshown : IsOf (0x20 < ·.toNat) url.text := by
    rw [text_of_authority hsome]
    exact (isOf_scheme_of_web hweb).append (.cons (by decide) hslashed)
  have hstrip : strip url.text = url.text :=
    strip_eq_self (fun c hc => hshown c (List.mem_of_mem_head? hc)) fun c hc => hshown c (List.mem_of_getLast? hc)
  have hslashes : ('/' :: '/' :: rest).dropWhile isSlash = rest := by
    obtain ⟨c, more, htext⟩ := List.exists_cons_of_ne_nil hauthority.text_ne_nil
    have hends := (hauthority.isOf_text c (htext ▸ List.mem_cons_self)).1
    have hslash : ¬isSlash c = true := fun hslash => by
      simp only [isSlash, Bool.or_eq_true, beq_iff_eq] at hslash
      rcases hslash with rfl | rfl <;> exact absurd hends (by decide)
    have hcons : rest = c :: (more ++ (url.path ++ tailText url.query url.fragment)) := by
      rw [← List.cons_append, ← htext]
    rw [List.dropWhile_cons_of_pos (by decide), List.dropWhile_cons_of_pos (by decide), hcons,
      List.dropWhile_cons_of_neg hslash]
  have hkind : SchemeKind.ofScheme url.scheme = .web := hweb
  unfold read
  dsimp only
  rw [hstrip, text_of_authority hsome, cutScheme?_web hweb]
  dsimp only
  unfold readScheme
  rw [hkind]
  dsimp only
  rw [dropBreaks_eq_self hslashed, hslashes]

end Text

end PageRouter.Url
