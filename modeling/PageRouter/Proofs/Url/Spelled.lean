import PageRouter.Proofs.Url.Tail

namespace PageRouter.Url

open Pattern (spell spell_cons)

/-- A segment as it stands in a path that was read: it is one segment, it stays, and nothing in it ends the path. -/
structure Clean (segment : List Char) : Prop where
  slash_notMem : '/' ∉ segment
  question_notMem : '?' ∉ segment
  sign_notMem : '#' ∉ segment
  stays : Stays segment

/-- A path of clean segments. -/
def IsSpelled (path : List Char) : Prop :=
  ∃ segments, segments ≠ [] ∧ (∀ segment ∈ segments, Clean segment) ∧ path = spell segments

/-- A path of clean segments with a slash at its end. -/
def IsDirectory (path : List Char) : Prop :=
  ∃ segments, (∀ segment ∈ segments, Clean segment) ∧ path = spell segments ++ ['/']

private theorem clean_nil : Clean [] :=
  ⟨List.not_mem_nil, List.not_mem_nil, List.not_mem_nil, by decide, by decide⟩

/-- The last segment of a path is written behind a slash. -/
theorem spell_concat (segments : List (List Char)) (last : List Char) :
    spell (segments ++ [last]) = spell segments ++ '/' :: last := by
  simp [spell]

private theorem IsDirectory.isSpelled {path : List Char} (hpath : IsDirectory path) : IsSpelled path := by
  obtain ⟨segments, hsegments, rfl⟩ := hpath
  refine ⟨segments ++ [[]], by simp, ?_, (spell_concat segments []).symm⟩
  rw [List.forall_mem_append]
  exact ⟨hsegments, List.forall_mem_singleton.2 clean_nil⟩

private theorem isDirectory_root : IsDirectory ['/'] :=
  ⟨[], by simp, rfl⟩

/-- A path is a directory and its last segment. -/
theorem IsSpelled.eq_concat {path : List Char} (hpath : IsSpelled path) :
    ∃ directory last, IsDirectory directory ∧ Clean last ∧ path = directory ++ last := by
  obtain ⟨segments, hne, hsegments, rfl⟩ := hpath
  obtain ⟨init, last, rfl⟩ := List.eq_nil_or_concat' segments |>.resolve_left hne
  rw [List.forall_mem_append, List.forall_mem_singleton] at hsegments
  exact ⟨_, last, ⟨init, hsegments.1, rfl⟩, hsegments.2, by rw [spell_concat]; simp⟩

/-- Behind the slash of a directory a clean segment can be put. -/
theorem IsDirectory.append {path segment : List Char} (hpath : IsDirectory path) (hsegment : Clean segment) :
    IsSpelled (path ++ segment) := by
  obtain ⟨segments, hsegments, rfl⟩ := hpath
  refine ⟨segments ++ [segment], by simp, ?_, ?_⟩
  · rw [List.forall_mem_append]
    exact ⟨hsegments, List.forall_mem_singleton.2 hsegment⟩
  · rw [spell_concat, List.append_assoc]
    rfl

/-- A path is a directory with a slash at its end. -/
theorem IsSpelled.append_slash {path : List Char} (hpath : IsSpelled path) : IsDirectory (path ++ ['/']) := by
  obtain ⟨segments, -, hsegments, rfl⟩ := hpath
  exact ⟨segments, hsegments, rfl⟩

private theorem notMem_percentEscape {c : Char} (hpercent : c ≠ '%') (hdigit : ∀ n : Fin 16, Text.hexDigit n ≠ c)
    (b : UInt8) : c ∉ Text.percentEscape b := by
  have hhigh := hdigit ⟨b.toNat / 16, by have := b.toNat_lt; omega⟩
  have hlow := hdigit ⟨b.toNat % 16, Nat.mod_lt _ (by decide)⟩
  simp [Text.percentEscape, hpercent, hhigh.symm, hlow.symm]

/-- A character that has to be encoded is not shown. -/
theorem notMem_encodePart {isEncoded : Char → Bool} {c : Char} (hc : isEncoded c = true) (hpercent : c ≠ '%')
    (hdigit : ∀ n : Fin 16, Text.hexDigit n ≠ c) (text : List Char) : c ∉ encodePart isEncoded text := by
  rw [encodePart, List.mem_flatMap]
  rintro ⟨d, -, hmem⟩
  split at hmem
  · obtain ⟨b, -, hb⟩ := List.mem_flatMap.1 hmem
    exact notMem_percentEscape hpercent hdigit b hb
  · next hplain => exact hplain (List.mem_singleton.1 hmem ▸ hc)

/-- A segment is clean when it is encoded, unless it stands for dots. -/
theorem clean_encodePart {segment : List Char} (hslash : '/' ∉ segment)
    (hstays : Stays (encodePart isEncodedInPath segment)) : Clean (encodePart isEncodedInPath segment) where
  slash_notMem := slash_notMem_encodePart hslash
  question_notMem := notMem_encodePart (by decide +kernel) (by decide) (by decide +kernel) segment
  sign_notMem := notMem_encodePart (by decide +kernel) (by decide) (by decide +kernel) segment
  stays := hstays

private theorem IsDirectory.reverse_eq_cons {path : List Char} (hpath : IsDirectory path) :
    ∃ rest, path.reverse = '/' :: rest := by
  obtain ⟨segments, -, rfl⟩ := hpath
  exact ⟨(spell segments).reverse, by simp⟩

private theorem dropTrailSegment_web (trail : List Char) :
    dropTrailSegment .web trail = trail.dropWhile (· ≠ '/') := by
  simp [dropTrailSegment]

/-- What is left of a path without its last segment. -/
theorem isDirectory_dropTrailSegment {trail : List Char} (htrail : IsSpelled trail.reverse) :
    IsDirectory (dropTrailSegment .web trail).reverse := by
  obtain ⟨directory, last, hdirectory, hlast, heq⟩ := htrail.eq_concat
  obtain ⟨rest, hrest⟩ := hdirectory.reverse_eq_cons
  have hslash : '/' ∉ last.reverse := fun hmem => hlast.slash_notMem (List.mem_reverse.1 hmem)
  have hdrop := (Pattern.takeWhile_piece hslash (.inr ⟨rest, hrest⟩)).2
  rw [dropTrailSegment_web, ← trail.reverse_reverse, heq, List.reverse_append, hdrop, List.reverse_reverse]
  exact hdirectory

private theorem contains_of_canDropSlash {trail : List Char} (hcan : canDropSlash ('/' :: trail) = true) :
    '/' ∈ trail := by
  rw [canDropSlash, Bool.and_eq_true] at hcan
  exact List.contains_iff_mem.1 hcan.1

/-- Taking back a segment leaves a directory: the one that the segment was in, or the root. -/
theorem isDirectory_takeBack {trail : List Char} (htrail : IsDirectory trail.reverse) :
    IsDirectory (takeBack .web trail).reverse := by
  apply isDirectory_dropTrailSegment
  split
  · next hcan =>
    obtain ⟨segments, hsegments, heq⟩ := htrail
    have htrail : trail = '/' :: (spell segments).reverse := by
      rw [← trail.reverse_reverse, heq, List.reverse_append]
      rfl
    rw [htrail] at hcan ⊢
    have hne : segments ≠ [] := by
      rintro rfl
      exact absurd (contains_of_canDropSlash hcan) List.not_mem_nil
    exact ⟨segments, hne, hsegments, by simp⟩
  · exact htrail.isSpelled

private theorem closeSlash_eq_self {trail : List Char} (htrail : IsDirectory trail.reverse) :
    closeSlash trail = trail := by
  obtain ⟨rest, hrest⟩ := htrail.reverse_eq_cons
  rw [List.reverse_reverse] at hrest
  rw [hrest]
  rfl

/-- A segment that is put at the end of a directory either leaves a directory, as dots do, or stands there clean. -/
theorem addSegment_web_cases {trail segment : List Char} (htrail : IsDirectory trail.reverse) (hslash : '/' ∉ segment)
    (closed : Bool) : IsDirectory (addSegment .web trail segment closed).reverse ∨
      ∃ text, Clean text ∧ (addSegment .web trail segment closed).reverse =
        trail.reverse ++ text ++ if closed then ['/'] else [] := by
  have hbreaks : '/' ∉ dropBreaks segment := fun hmem => hslash (List.mem_filter.1 hmem).1
  have hback := isDirectory_takeBack htrail
  have hadd : addSegment .web trail segment closed =
      if isDoubleDot (encodePart isEncodedInPath (dropBreaks segment)) then
        if closed then closeSlash (takeBack .web trail) else takeBack .web trail
      else if isSingleDot (encodePart isEncodedInPath (dropBreaks segment)) then closeSlash trail
      else (if closed then ['/'] else []) ++ (encodePart isEncodedInPath (dropBreaks segment)).reverse ++ trail := by
    simp [addSegment]
  rw [hadd, closeSlash_eq_self hback, closeSlash_eq_self htrail, ite_self]
  split
  · exact .inl hback
  split
  · exact .inl htrail
  · next hdouble hsingle =>
    refine .inr ⟨_, clean_encodePart hbreaks ⟨Bool.eq_false_iff.2 hsingle, Bool.eq_false_iff.2 hdouble⟩, ?_⟩
    cases closed <;> simp

/-- Segments that are put at the end of a directory, one after the other, leave a path of clean segments. -/
theorem isSpelled_addSegments {segments : List (List Char)} (hne : segments ≠ [])
    (hsegments : ∀ segment ∈ segments, '/' ∉ segment) {trail : List Char} (htrail : IsDirectory trail.reverse) :
    IsSpelled (addSegments .web trail segments).reverse := by
  induction segments generalizing trail with
  | nil => exact absurd rfl hne
  | cons segment more ih =>
    obtain ⟨hslash, hmore⟩ := List.forall_mem_cons.1 hsegments
    cases more with
    | nil =>
      rw [addSegments]
      rcases addSegment_web_cases htrail hslash false with hdirectory | ⟨text, htext, heq⟩
      · exact hdirectory.isSpelled
      · rw [heq, if_neg Bool.false_ne_true, List.append_nil]
        exact htrail.append htext
    | cons next more =>
      rw [addSegments]
      · apply ih (List.cons_ne_nil next more) hmore
        rcases addSegment_web_cases htrail hslash true with hdirectory | ⟨text, htext, heq⟩
        · exact hdirectory
        · rw [heq, if_pos rfl]
          exact (htrail.append htext).append_slash
      · exact List.cons_ne_nil next more

/-- Whatever text is put at the end of a directory, the path is one of clean segments. -/
theorem isSpelled_extendPath {path : List Char} (hpath : IsDirectory path) (text : List Char) :
    IsSpelled (extendPath .web path text) := by
  have hextend : extendPath .web path text = (addSegments .web path.reverse (pathSegments .web text)).reverse := rfl
  rw [hextend]
  refine isSpelled_addSegments (Text.pieces_ne_nil _ _) (fun segment => Text.not_mem_of_mem_pieces) ?_
  rw [List.reverse_reverse]
  exact hpath

private theorem isSpelled_extend {url : Url} (hweb : url.kind = .web) {path : List Char} (hpath : IsDirectory path)
    (text : List Char) : IsSpelled (url.extend path text).path := by
  rw [path_extend, hweb]
  exact isSpelled_extendPath hpath _

private theorem isDirectory_dropLastSegment {path : List Char} (hpath : IsSpelled path) :
    IsDirectory (dropLastSegment .web path) := by
  refine isDirectory_dropTrailSegment ?_
  rw [List.reverse_reverse]
  exact hpath

/-- Behind the authority of an address of the web stands a path from the root, whatever is written there. -/
theorem exists_readAuthority {scheme text : List Char} {url : Url} (hread : readAfterSlashes scheme text = .ok url)
    (hweb : url.kind = .web) :
    SchemeKind.ofScheme scheme = .web ∧ ∃ authority rest, readAuthority scheme text = .ok (authority, rest) ∧
      url = Url.extend { scheme, authority := some authority } ['/'] (dropSlash rest) := by
  rw [kind, (stands_of_readAfterSlashes hread).1] at hweb
  obtain ⟨⟨authority, rest⟩, hauthority, hread⟩ := bind_eq_ok_iff.1 hread
  have hkind : kind { scheme := scheme, authority := some authority } = .web := hweb
  dsimp only at hread
  rw [hkind, if_pos (by decide)] at hread
  exact ⟨hweb, authority, rest, hauthority, (Except.ok.inj hread).symm⟩

/-- What is read behind the slashes of a web address has a path of clean segments. -/
theorem isSpelled_readAfterSlashes {scheme text : List Char} {url : Url}
    (hread : readAfterSlashes scheme text = .ok url) (hweb : url.kind = .web) : IsSpelled url.path := by
  obtain ⟨hscheme, authority, rest, -, rfl⟩ := exists_readAuthority hread hweb
  have hkind : kind { scheme := scheme, authority := some authority } = .web := hscheme
  exact isSpelled_extend hkind isDirectory_root _

/-- What is read relative to an address of the web has a path of clean segments, if the base has. -/
theorem isSpelled_readRelative {base url : Url} {text : List Char} (hbase : base.kind = .web)
    (hpath : IsSpelled base.path) (hread : readRelative base text = .ok url) (hweb : url.kind = .web) :
    IsSpelled url.path := by
  unfold readRelative at hread
  split at hread
  · cases hread
    exact hpath
  · cases hread
    rw [path_withTail]
    exact hpath
  · cases hread
    exact hpath
  · split at hread
    · split at hread
      · exact isSpelled_readAfterSlashes hread hweb
      · cases hread
        exact isSpelled_extend hbase isDirectory_root _
    · cases hread
      refine isSpelled_extend hbase ?_ _
      split
      · exact isDirectory_root
      · rw [hbase]
        exact isDirectory_dropLastSegment hpath

/-- An address of the web has a path that is spelled by clean segments, if the base it was read against has one.
Reading takes the path apart at the slashes, removes the segments that stand for dots and encodes what would end the
path. -/
theorem isSpelled_read {base : Option Url} (hbase : ∀ url ∈ base, url.kind = .web → IsSpelled url.path)
    {text : List Char} {url : Url} (hread : read base text = .ok url) (hweb : url.kind = .web) :
    IsSpelled url.path := by
  cases webReading_of_read hread hweb with
  | absolute hread => exact isSpelled_readAfterSlashes hread hweb
  | @relative own hown hkind _ hread => exact isSpelled_readRelative hkind (hbase own hown hkind) hread hweb
  | @fragment own hown hkind fragment hurl =>
    subst hurl
    exact hbase own hown hkind

private theorem eq_colon_of_toLower {c : Char} (hc : c.toLower = ':') : c = ':' := by
  unfold Char.toLower at hc
  split at hc
  · next hupper =>
    have hval := congrArg Char.val hc
    grind
  · exact hc

private theorem colon_notMem_cutScheme {text scheme rest : List Char} (hcut : cutScheme? text = some (scheme, rest)) :
    ':' ∉ scheme := by
  unfold cutScheme? at hcut
  dsimp only at hcut
  split at hcut
  · split at hcut
    · cases hcut
      intro hmem
      obtain ⟨c, hc, hlower⟩ := List.mem_map.1 hmem
      rw [eq_colon_of_toLower hlower] at hc
      have hpart := List.mem_takeWhile_imp (List.mem_filter.1 hc).1
      exact absurd hpart (by decide)
    · cases hcut
  · cases hcut

/-- No scheme holds the colon that ends it, if that of the base does not. -/
theorem colon_notMem_scheme {base : Option Url} (hbase : ∀ url ∈ base, ':' ∉ url.scheme) {text : List Char} {url : Url}
    (hread : read base text = .ok url) : ':' ∉ url.scheme := by
  cases reading_of_read hread with
  | file hown hread =>
    rw [kind_eq_file_iff.1 (kind_of_readFile (fun other hother => (hown other hother).2) hread)]
    decide
  | other hcut _ hread =>
    rw [scheme_of_readOther hread]
    exact colon_notMem_cutScheme hcut
  | web hcut _ hread =>
    rw [(stands_of_readAfterSlashes hread).1]
    exact colon_notMem_cutScheme hcut
  | @relative own hown _ hread =>
    rw [scheme_of_readRelative hread]
    exact hbase own hown
  | @fragment own hown fragment hurl =>
    subst hurl
    exact hbase own hown

end PageRouter.Url

namespace PageRouter.Location

open Url (IsSpelled)

/-- The scheme that an address begins with. -/
def scheme (location : Location) : String :=
  String.ofList (Text.cutAtFirst ':' location.href.toList).1

/-- A location that can be had: from an address, or by following a target. -/
inductive Obtained : Location → Prop
  | parse {href : String} {location : Location} (hparse : parse href = .ok location) : Obtained location
  | join {base location : Location} {target : String} (hjoin : base.join target = .ok location) : Obtained location

/-- The scheme of a location is that of its address. -/
theorem scheme_ofUrl {url : Url} (hcolon : ':' ∉ url.scheme) : (ofUrl url).scheme = String.ofList url.scheme := by
  have htext : ∃ rest, url.text = url.scheme ++ ':' :: rest := by
    rw [Url.text, Url.textBeforeQuery]
    simp only [List.append_assoc, List.cons_append]
    exact ⟨_, rfl⟩
  obtain ⟨rest, htext⟩ := htext
  rw [scheme, ofUrl]
  dsimp only
  rw [String.toList_ofList, htext, Text.cutAtFirst_append hcolon]

/-- What reading gives every address, if it is read against one that has it, holds of the address of a location. -/
theorem Obtained.exists_of_read {P : Url → Prop}
    (hread : ∀ {base : Option Url}, (∀ own ∈ base, P own) → ∀ {text : List Char} {url : Url},
      Url.read base text = .ok url → P url)
    {location : Location} (hobtained : location.Obtained) : ∃ url, location = ofUrl url ∧ P url := by
  have hparsed {text : String} {url : Url} (hparse : Url.parse text = .ok url) : P url :=
    hread (fun own hown => absurd hown (Option.not_mem_none own)) hparse
  cases hobtained with
  | parse hparse =>
    obtain ⟨url, hurl, rfl⟩ := ofResult_eq_ok_iff.1 hparse
    exact ⟨url, rfl, hparsed hurl⟩
  | join hjoin =>
    obtain ⟨base, hbase, url, hurl, rfl⟩ := join_eq_ok_iff.1 hjoin
    exact ⟨url, rfl, hread (fun own hown => Option.some.inj hown ▸ hparsed hbase) hurl⟩

/-- A location is that of an address, which has a path of clean segments if it is one of the web. -/
theorem Obtained.exists_url {location : Location} (hobtained : location.Obtained) :
    ∃ url, location = ofUrl url ∧ ':' ∉ url.scheme ∧ (url.kind = .web → IsSpelled url.path) :=
  hobtained.exists_of_read (P := fun url => ':' ∉ url.scheme ∧ (url.kind = .web → IsSpelled url.path))
    fun hbase _ _ hread =>
      ⟨Url.colon_notMem_scheme (fun own hown => (hbase own hown).1) hread,
        Url.isSpelled_read (fun own hown => (hbase own hown).2) hread⟩

/-- The path of a location on the web is spelled by clean segments. -/
theorem Obtained.isSpelled {location : Location} (hobtained : location.Obtained)
    (hscheme : location.scheme = "http" ∨ location.scheme = "https") : IsSpelled location.pathname.toList := by
  obtain ⟨url, rfl, hcolon, hspelled⟩ := hobtained.exists_url
  rw [scheme_ofUrl hcolon] at hscheme
  have hweb : url.kind = .web := by
    rcases hscheme with heq | heq <;> rw [Url.kind, ← String.toList_ofList (l := url.scheme), heq] <;> decide
  rw [ofUrl]
  dsimp only
  rw [String.toList_ofList]
  exact hspelled hweb

end PageRouter.Location
