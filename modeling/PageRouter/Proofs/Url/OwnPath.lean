import PageRouter.Proofs.Url.Domains
import PageRouter.Proofs.Url.Reread
import PageRouter.Proofs.Url.WellFormed

namespace PageRouter.Url

/-- A query or a fragment without the signs that it starts with, if anything is left of it. -/
def trimmed (sign : Char) (raw : Option (List Char)) : Option (List Char) :=
  raw.bind fun text => if text.dropWhile (· == sign) = [] then none else some (text.dropWhile (· == sign))

private theorem trimmed_trimmed (sign : Char) (raw : Option (List Char)) :
    trimmed sign (trimmed sign raw) = trimmed sign raw := by
  rcases raw with _ | raw
  · rfl
  · by_cases hnil : raw.dropWhile (· == sign) = []
    · rw [trimmed, trimmed, Option.bind_some, if_pos hnil, Option.bind_none]
    · rw [trimmed, trimmed, Option.bind_some, if_neg hnil, Option.bind_some, List.dropWhile_idempotent, if_neg hnil]

private theorem isOf_trimmed {p : Char → Prop} (sign : Char) {raw : Option (List Char)}
    (hraw : ∀ text ∈ raw, IsOf p text) : ∀ text ∈ trimmed sign raw, IsOf p text := by
  intro text hmem
  obtain ⟨whole, hwhole, htrimmed⟩ := Option.bind_eq_some_iff.1 hmem
  split at htrimmed
  · cases htrimmed
  · exact Option.some.inj htrimmed ▸ (hraw whole hwhole).of_subset (List.dropWhile_suffix _).subset

/-- The sign is put in front of what is left. -/
theorem normalize?_eq_trimmed (sign : Char) (raw : Option (List Char)) :
    ((raw.map String.ofList).bind (Query.normalize? sign)).getD "" =
      String.ofList (((trimmed sign raw).map (sign :: ·)).getD []) := by
  rcases raw with _ | raw
  · rfl
  · rw [Option.map_some, Option.bind_some, Query.normalize?, String.toList_ofList, trimmed, Option.bind_some]
    split
    · next hnil => rw [if_pos hnil]; rfl
    · next body hbody => rw [if_neg hbody]; rfl

/-- A web address that does not start with two slashes leads to itself, but for the signs that its query and its
fragment start with. -/
theorem join_own_path {url : Url} (hweb : url.kind = .web) (hurl : WellFormed url) (hspelled : IsSpelled url.path)
    (hauthority : url.authority.isSome = true) (hslashes : ¬['/', '/'] <+: url.path) {query fragment : Option (List Char)}
    (hquery : ∀ text ∈ query, IsOf (isEncodedInQuery url.kind.isSpecial · = false) text)
    (hfragment : ∀ text ∈ fragment, IsOf (isEncodedInFragment · = false) text) :
    url.join (String.ofList (url.path ++ tailText query fragment)) = .ok { url with query, fragment } := by
  obtain ⟨text, hpath⟩ := hurl.exists_path hweb
  have hplain := hurl.plain hweb
  have htext : IsOf IsPlain text := hplain.of_subset (hpath ▸ List.subset_cons_self '/' text)
  have hshown : IsOf (0x20 < ·.toNat) (text ++ tailText query fragment) :=
    IsOf.append (fun c hc => lt_toNat_of_plain (htext c hc)) (shows_tailText hquery hfragment)
  have hstrip : strip (String.ofList (url.path ++ tailText query fragment)).toList =
      '/' :: (text ++ tailText query fragment) := by
    have hall : IsOf (0x20 < ·.toNat) ('/' :: (text ++ tailText query fragment)) := .cons (by decide) hshown
    rw [String.toList_ofList, hpath, List.cons_append]
    exact strip_eq_self (fun c hc => hall c (List.mem_of_mem_head? hc)) fun c hc => hall c (List.mem_of_getLast? hc)
  have hrooted : (text ++ tailText query fragment).head?.any isSlash = false := by
    rcases text with _ | ⟨c, text⟩
    · rcases query with _ | query
      · rcases fragment with _ | fragment <;> rfl
      · rfl
    · have hslash : c ≠ '/' := fun heq => hslashes (by rw [hpath, heq]; exact ⟨text, rfl⟩)
      have hback : c ≠ '\\' := (htext c List.mem_cons_self).2
      simp [isSlash, hslash, hback]
  have hbreaks := dropBreaks_eq_self hshown
  rw [join_rooted hweb hauthority hstrip (hbreaks.symm ▸ hrooted), hbreaks,
    extend_self hweb hspelled hplain hpath hurl.inPath hquery hfragment]

end PageRouter.Url

namespace PageRouter.Location

open Url (tailText trimmed)

/-- The search of a location is what is left of its query, behind one sign. -/
theorem search_ofUrl (url : Url) :
    (ofUrl url).search = String.ofList (((trimmed '?' url.query).map ('?' :: ·)).getD []) :=
  Url.normalize?_eq_trimmed '?' url.query

/-- The hash of a location is what is left of its fragment, behind one sign. -/
theorem hash_ofUrl (url : Url) :
    (ofUrl url).hash = String.ofList (((trimmed '#' url.fragment).map ('#' :: ·)).getD []) :=
  Url.normalize?_eq_trimmed '#' url.fragment

private theorem path_ofUrl (url : Url) :
    (ofUrl url).path = String.ofList (url.path ++ tailText (trimmed '?' url.query) (trimmed '#' url.fragment)) := by
  rw [path, search_ofUrl, hash_ofUrl, tailText, String.ofList_append, String.ofList_append, ← String.append_assoc]
  rfl

/-- A location that its own address gives, and that does not start with two slashes, stays where it is when it follows
its own path. -/
theorem join_path_ofUrl {url : Url} (hself : Url.parse (ofUrl url).href = .ok url) (hweb : url.kind = .web)
    (hslashes : ¬['/', '/'] <+: url.path) :
    ∃ target, (ofUrl url).join (ofUrl url).path = .ok target ∧ target.origin = (ofUrl url).origin ∧
      target.pathname = (ofUrl url).pathname ∧ target.search = (ofUrl url).search ∧ target.hash = (ofUrl url).hash := by
  have hurl : Url.WellFormed url := Url.wellFormed_read (fun own hown => absurd hown (Option.not_mem_none own)) hself
  have hspelled := Url.isSpelled_read (fun own hown => absurd hown (Option.not_mem_none own)) hself hweb
  have hauthority := Url.authority_isSome_of_parse hself hweb
  have hjoin := Url.join_own_path hweb hurl hspelled hauthority hslashes (Url.isOf_trimmed '?' hurl.query)
    (Url.isOf_trimmed '#' hurl.fragment)
  let target : Url := { url with query := trimmed '?' url.query, fragment := trimmed '#' url.fragment }
  have hkind : target.kind = .web := hweb
  refine ⟨ofUrl target, ?_, ?_, rfl, ?_, ?_⟩
  · rw [join_of_parse hself, path_ofUrl, hjoin]
    rfl
  · have horigin : target.origin = url.origin := by
      rw [Url.origin_of_web hkind, Url.origin_of_web hweb]
      rfl
    exact congrArg String.ofList horigin
  · rw [search_ofUrl, search_ofUrl, Url.trimmed_trimmed]
  · rw [hash_ofUrl, hash_ofUrl, Url.trimmed_trimmed]

/-- The host that the origin of a location names, behind its scheme and two slashes. -/
def host (location : Location) : List Char :=
  (Url.cutAtPort false (location.origin.toList.drop (location.scheme.length + 3))).1

section Web

variable {url : Url} (hweb : url.kind = .web) {authority : Authority} (hsome : url.authority = some authority)
  (hauthority : Url.IsWebAuthority url.scheme authority)

include hweb hsome hauthority

private theorem host_ofUrl (hcolon : ':' ∉ url.scheme) : (ofUrl url).host = authority.host := by
  have horigin : (ofUrl url).origin.toList =
      url.scheme ++ ':' :: '/' :: '/' :: (authority.host ++ Url.portText authority.port) := by
    rw [ofUrl, String.toList_ofList, Url.origin_of_web hweb, Url.webOrigin?, hweb, hsome]
    dsimp only
    rw [Option.getD_some, Url.text_eq, List.append_assoc]
    rfl
  have hlength : (ofUrl url).scheme.length = url.scheme.length := by
    rw [scheme_ofUrl hcolon, String.length_ofList]
  rw [host, horigin, hlength, List.drop_append, List.drop_of_length_le (Nat.le_add_right _ _), List.nil_append,
    Nat.add_sub_cancel_left]
  exact congrArg Prod.fst (Url.cutAtPort_append (Url.head_portText _) hauthority.isHostText)

/-- An address of the web that was read is read again if the labels of its host are short enough. -/
theorem parse_href (hurl : Url.WellFormed url) (hspelled : Url.IsSpelled url.path) :
    (Url.HasShortLabels authority.host → Url.parse (ofUrl url).href = .ok url) ∧
    (¬Url.HasShortLabels authority.host → Url.parse (ofUrl url).href = .error .invalidDomain) := by
  obtain ⟨text, hhost⟩ := hauthority.host
  obtain ⟨hself, hrefused⟩ := Url.webHost_host hhost
  obtain ⟨hread, herror⟩ := Url.readAfterSlashes_text hweb hurl hsome hauthority hspelled
  rw [Url.parse, ofUrl, String.toList_ofList, Url.read_eq_readAfterSlashes hweb hurl hsome hauthority]
  exact ⟨fun hshort => hread (hself hshort), fun hlong => herror _ (hrefused hlong)⟩

end Web

/-- A location of the web whose path does not start with two slashes stays where it is when it follows its own path. It
is refused if its host has labels in Punycode of a length that is written, but not read. -/
theorem join_path_stays {location : Location} (hobtained : location.Obtained)
    (hscheme : location.scheme = "http" ∨ location.scheme = "https")
    (hslashes : ¬['/', '/'] <+: location.pathname.toList) :
    (Url.HasShortLabels location.host →
      ∃ target, location.join location.path = .ok target ∧ target.origin = location.origin ∧
        target.pathname = location.pathname ∧ target.search = location.search ∧ target.hash = location.hash) ∧
    (¬Url.HasShortLabels location.host →
      location.join location.path = .error (.invalidLocation location.path (.malformed .invalidDomain))) := by
  obtain ⟨url, rfl, hcolon, hurl, hspelled, hauthority⟩ := hobtained.exists_of_read
    (P := fun url => ':' ∉ url.scheme ∧ Url.WellFormed url ∧ (url.kind = .web → Url.IsSpelled url.path) ∧
      Url.HasWebAuthority url)
    fun hbase _ _ hread => ⟨Url.colon_notMem_scheme (fun own hown => (hbase own hown).1) hread,
      Url.wellFormed_read (fun own hown => (hbase own hown).2.1) hread,
      Url.isSpelled_read (fun own hown => (hbase own hown).2.2.1) hread,
      Url.hasWebAuthority_read (fun own hown => (hbase own hown).2.2.2) hread⟩
  have hweb : url.kind = .web := by
    rw [scheme_ofUrl hcolon] at hscheme
    rcases hscheme with heq | heq <;> rw [Url.kind, ← String.toList_ofList (l := url.scheme), heq] <;> decide
  obtain ⟨authority, hsome, hauthority⟩ := hauthority hweb
  rw [show (ofUrl url).pathname.toList = url.path from String.toList_ofList] at hslashes
  obtain ⟨hself, hrefused⟩ := parse_href hweb hsome hauthority hurl (hspelled hweb)
  rw [host_ofUrl hweb hsome hauthority hcolon]
  refine ⟨fun hshort => join_path_ofUrl (hself hshort) hweb hslashes, fun hlong => ?_⟩
  rw [join, hrefused hlong]
  rfl

/-- The signs that a query and a fragment start with are not followed, and a host in Punycode is read as it is. -/
theorem join_path_stays_signs : ∃ target,
    (⟨"http://xn--bcher-kva:81", "http://u@xn--bcher-kva:81/a%20//b???x%27##t", "/a%20//b", "?x%27", "#t"⟩ : Location).join
      "/a%20//b?x%27#t" = .ok target ∧
    target.origin = "http://xn--bcher-kva:81" ∧ target.pathname = "/a%20//b" ∧ target.search = "?x%27" ∧
    target.hash = "#t" := by
  have hparse : parse "http://u@B\u00FCcher:81/a%20//b???x%27##t" =
      .ok ⟨"http://xn--bcher-kva:81", "http://u@xn--bcher-kva:81/a%20//b???x%27##t", "/a%20//b", "?x%27", "#t"⟩ := by
    decide +kernel
  exact (join_path_stays (.parse hparse) (.inl (by decide +kernel)) (by decide +kernel)).1 (by decide +kernel)

/-- A path that starts with two slashes is followed to another host. -/
theorem join_path_leaves :
    parse "http://[::1]//[::2]" = .ok ⟨"http://[::1]", "http://[::1]//[::2]", "//[::2]", "", ""⟩ ∧
    (⟨"http://[::1]", "http://[::1]//[::2]", "//[::2]", "", ""⟩ : Location).path = "//[::2]" ∧
    (⟨"http://[::1]", "http://[::1]//[::2]", "//[::2]", "", ""⟩ : Location).join "//[::2]" =
      .ok ⟨"http://[::2]", "http://[::2]/", "/", "", ""⟩ := by
  refine ⟨by decide +kernel, by decide +kernel, by decide +kernel⟩

end PageRouter.Location
