import PageRouter.Proofs.Url.Spelled

namespace PageRouter.Url

/-- A text of certain characters. -/
def IsOf (p : Char → Prop) (text : List Char) : Prop :=
  ∀ c ∈ text, p c

section Characters

variable {p : Char → Prop}

/-- Whatever a text is made of, its parts are made of. -/
theorem IsOf.of_subset {text part : List Char} (htext : IsOf p text) (hpart : part ⊆ text) : IsOf p part :=
  fun c hc => htext c (hpart hc)

private theorem IsOf.reverse {text : List Char} (htext : IsOf p text) : IsOf p text.reverse :=
  fun c hc => htext c (List.mem_reverse.1 hc)

/-- Two texts of certain characters make one of such characters. -/
theorem IsOf.append {first second : List Char} (hfirst : IsOf p first) (hsecond : IsOf p second) :
    IsOf p (first ++ second) :=
  List.forall_mem_append.2 ⟨hfirst, hsecond⟩

/-- A text of certain characters may have one more of them in front. -/
theorem IsOf.cons {c : Char} {text : List Char} (hc : p c) (htext : IsOf p text) : IsOf p (c :: text) :=
  List.forall_mem_cons.2 ⟨hc, htext⟩

/-- The empty text is of any characters. -/
theorem isOf_nil : IsOf p [] :=
  List.forall_mem_nil _

/-- One character of a kind is a text of that kind. -/
theorem isOf_singleton {c : Char} (hc : p c) : IsOf p [c] :=
  List.forall_mem_singleton.2 hc

private theorem dropTrailSegment_suffix (kind : SchemeKind) (trail : List Char) :
    dropTrailSegment kind trail <:+ trail := by
  unfold dropTrailSegment
  dsimp only
  split
  · exact List.suffix_refl trail
  · exact List.dropWhile_suffix _

private theorem takeBack_suffix (kind : SchemeKind) (trail : List Char) : takeBack kind trail <:+ trail := by
  refine (dropTrailSegment_suffix kind _).trans ?_
  split
  · exact List.drop_suffix 1 trail
  · exact List.suffix_refl trail

private theorem IsOf.dropLastSegment {path : List Char} (hpath : IsOf p path) (kind : SchemeKind) :
    IsOf p (dropLastSegment kind path) :=
  (hpath.reverse.of_subset (dropTrailSegment_suffix kind path.reverse).subset).reverse

variable (hslash : p '/') (hcolon : p ':')

include hslash

private theorem IsOf.closeSlash {trail : List Char} (htrail : IsOf p trail) : IsOf p (closeSlash trail) := by
  unfold Url.closeSlash
  split
  · exact htrail
  · exact .cons hslash htrail

include hcolon

/-- A path with one more segment is made of what it was before and of the encoded segment. -/
theorem IsOf.addSegment {trail : List Char} (htrail : IsOf p trail) (kind : SchemeKind) {segment : List Char}
    (htext : IsOf p (encodePart isEncodedInPath (dropBreaks segment))) (closed : Bool) :
    IsOf p (addSegment kind trail segment closed) := by
  have hback : IsOf p (takeBack kind trail) := htrail.of_subset (takeBack_suffix kind trail).subset
  have hadd {text : List Char} (htext : IsOf p text) :
      IsOf p ((if closed then ['/'] else []) ++ text.reverse ++ trail) := by
    refine (IsOf.append ?_ htext.reverse).append htrail
    cases closed
    · exact isOf_nil
    · exact isOf_singleton hslash
  have hstart (n : Nat) : IsOf p ((encodePart isEncodedInPath (dropBreaks segment)).take n) :=
    htext.of_subset (List.take_subset n _)
  unfold Url.addSegment
  extract_lets text atRoot add trail'
  split
  · exact hadd ((hstart 2).append (.cons hslash (htext.of_subset (List.drop_subset 2 _))))
  split
  · split
    · exact hback.closeSlash hslash
    · exact hback
  split
  · exact htrail.closeSlash hslash
  split
  · exact hadd ((hstart 1).append (isOf_singleton hcolon))
  · exact hadd htext

private theorem IsOf.addSegments {trail : List Char} (htrail : IsOf p trail) (kind : SchemeKind)
    {segments : List (List Char)}
    (hsegments : ∀ segment ∈ segments, IsOf p (encodePart isEncodedInPath (dropBreaks segment))) :
    IsOf p (addSegments kind trail segments) := by
  induction segments generalizing trail with
  | nil => exact htrail
  | cons segment more ih =>
    obtain ⟨hsegment, hmore⟩ := List.forall_mem_cons.1 hsegments
    cases more with
    | nil => exact htrail.addSegment hslash hcolon kind hsegment false
    | cons next more => exact ih (htrail.addSegment hslash hcolon kind hsegment true) hmore

/-- A path is made of what it was before and of the segments that it is extended by. -/
theorem IsOf.extendPath {path : List Char} (hpath : IsOf p path) {kind : SchemeKind} {text : List Char}
    (hsegments : ∀ segment ∈ pathSegments kind text, IsOf p (encodePart isEncodedInPath (dropBreaks segment))) :
    IsOf p (extendPath kind path text) := by
  have hjoined : IsOf p (joinPath kind path text) := by
    unfold joinPath
    refine (IsOf.addSegments hslash hcolon ?_ kind hsegments).reverse
    split
    · exact .cons hslash hpath.reverse
    · exact hpath.reverse
  unfold Url.extendPath
  dsimp only
  split
  · exact .cons hslash (hjoined.of_subset (List.dropWhile_suffix _).subset)
  · exact hjoined

end Characters

/-- A text that holds nothing that ends a path. -/
abbrev InPath : List Char → Prop :=
  IsOf (isInPath · = true)

/-- What is cut off at the end of a path holds nothing that ends one. -/
theorem inPath_cutAtPathEnd (text : List Char) : InPath (cutAtPathEnd text).1 :=
  fun _ => List.mem_takeWhile_imp (p := isInPath)

private theorem isInPath_eq_false_iff {c : Char} : isInPath c = false ↔ c = '?' ∨ c = '#' := by
  simp [isInPath, Decidable.or_iff_not_imp_left]

/-- A text is encoded to the characters that are shown as they are, and to percent signs and digits. -/
theorem isOf_encodePart {p : Char → Prop} {isEncoded : Char → Bool} (hpercent : p '%')
    (hdigit : ∀ n : Fin 16, p (Text.hexDigit n)) {text : List Char} (hplain : ∀ c ∈ text, isEncoded c = false → p c) :
    IsOf p (encodePart isEncoded text) := by
  intro c hc
  obtain ⟨d, hd, hmem⟩ := List.mem_flatMap.1 hc
  split at hmem
  · obtain ⟨b, -, hb⟩ := List.mem_flatMap.1 hmem
    have hhigh := hdigit ⟨b.toNat / 16, by have := b.toNat_lt; omega⟩
    have hlow := hdigit ⟨b.toNat % 16, Nat.mod_lt _ (by decide)⟩
    simp only [Text.percentEscape, List.mem_cons, List.not_mem_nil, or_false] at hb
    rcases hb with rfl | rfl | rfl
    · exact hpercent
    · exact hhigh
    · exact hlow
  · next hshown =>
    obtain rfl := List.mem_singleton.1 hmem
    exact hplain c hd (Bool.eq_false_iff.2 hshown)

private theorem inPath_encodeSegment (segment : List Char) : InPath (encodePart isEncodedInPath segment) := by
  refine isOf_encodePart (by decide) (by decide +kernel) fun c _ hshown => ?_
  by_contra hends
  rcases isInPath_eq_false_iff.1 (Bool.eq_false_iff.2 hends) with rfl | rfl
  · exact absurd hshown (by decide +kernel)
  · exact absurd hshown (by decide +kernel)

/-- A path stays one, whatever text it is extended by. -/
theorem InPath.extendPath {path : List Char} (hpath : InPath path) (kind : SchemeKind) (text : List Char) :
    InPath (extendPath kind path text) :=
  IsOf.extendPath (by decide) (by decide) hpath fun segment _ => inPath_encodeSegment (dropBreaks segment)

/-- A character that the path of a web address shows as it is, and that is no slash of another kind. -/
def IsPlain (c : Char) : Prop :=
  isEncodedInPath c = false ∧ c ≠ '\\'

instance (c : Char) : Decidable (IsPlain c) :=
  inferInstanceAs (Decidable (_ ∧ _))

/-- What the path of a web address is extended by holds no backslash. -/
theorem isPlain_extendPath {path : List Char} (hpath : IsOf IsPlain path) (text : List Char) :
    IsOf IsPlain (extendPath .web path text) := by
  refine hpath.extendPath (by decide +kernel) (by decide +kernel) fun segment hsegment => ?_
  refine isOf_encodePart (by decide +kernel) (by decide +kernel) fun c hc hshown => ⟨hshown, ?_⟩
  obtain ⟨d, -, hd⟩ := List.mem_map.1 (mem_of_mem_pieces hsegment (List.mem_filter.1 hc).1)
  rintro rfl
  split at hd
  · exact absurd hd (by decide)
  · next hne => exact hne hd

private theorem lt_toNat_of_not_isControl {c : Char} (hcontrol : isControl c = false) (hspace : c ≠ ' ') :
    0x20 < c.toNat := by
  have hne : c.toNat ≠ 0x20 := fun heq => hspace (Char.toNat_inj.1 heq)
  simp only [isControl, Bool.or_eq_false_iff, decide_eq_false_iff_not] at hcontrol
  omega

/-- A fragment shows no blank. -/
theorem lt_toNat_of_fragment {c : Char} (hshown : isEncodedInFragment c = false) : 0x20 < c.toNat := by
  rw [isEncodedInFragment, Bool.or_eq_false_iff] at hshown
  refine lt_toNat_of_not_isControl hshown.1 ?_
  rintro rfl
  exact absurd hshown.2 (by decide)

/-- The path of a web address shows no blank. -/
theorem lt_toNat_of_plain {c : Char} (hplain : IsPlain c) : 0x20 < c.toNat := by
  have hshown := hplain.1
  rw [isEncodedInPath, Bool.or_eq_false_iff] at hshown
  exact lt_toNat_of_fragment hshown.1

/-- A query shows no blank. -/
theorem lt_toNat_of_query {special : Bool} {c : Char} (hshown : isEncodedInQuery special c = false) :
    0x20 < c.toNat := by
  rw [isEncodedInQuery, Bool.or_eq_false_iff, Bool.or_eq_false_iff] at hshown
  refine lt_toNat_of_not_isControl hshown.1.1 ?_
  rintro rfl
  exact absurd hshown.1.2 (by decide)

/-- A trail that ends at the slash that its path starts with. -/
def IsGrounded (trail : List Char) : Prop :=
  trail.getLast? = some '/'

private theorem IsGrounded.of_suffix {trail rest : List Char} (htrail : IsGrounded trail) (hrest : rest <:+ trail)
    (hne : rest ≠ []) : IsGrounded rest := by
  obtain ⟨front, rfl⟩ := hrest
  rwa [IsGrounded, List.getLast?_append_of_ne_nil _ hne] at htrail

private theorem IsGrounded.append {trail : List Char} (htrail : IsGrounded trail) (front : List Char) :
    IsGrounded (front ++ trail) := by
  rw [IsGrounded, List.getLast?_append, htrail, Option.some_or]

private theorem IsGrounded.mem {trail : List Char} (htrail : IsGrounded trail) : '/' ∈ trail :=
  List.mem_of_getLast? htrail

/-- The first slash is not dropped with a segment. -/
theorem IsGrounded.dropTrailSegment {trail : List Char} (htrail : IsGrounded trail) (kind : SchemeKind) :
    IsGrounded (dropTrailSegment kind trail) := by
  refine htrail.of_suffix (dropTrailSegment_suffix kind trail) ?_
  unfold Url.dropTrailSegment
  dsimp only
  split
  · exact List.ne_nil_of_mem htrail.mem
  · intro hnil
    exact absurd (List.dropWhile_eq_nil_iff.1 hnil '/' htrail.mem) (by decide)

/-- The first slash is not taken back. -/
theorem IsGrounded.takeBack {trail : List Char} (htrail : IsGrounded trail) (kind : SchemeKind) :
    IsGrounded (takeBack kind trail) := by
  refine IsGrounded.dropTrailSegment ?_ kind
  split
  · next hcan =>
    refine htrail.of_suffix (List.drop_suffix 1 trail) ?_
    unfold canDropSlash at hcan
    split at hcan
    · rw [Bool.and_eq_true] at hcan
      exact List.ne_nil_of_mem (List.contains_iff_mem.1 hcan.1)
    · cases hcan
  · exact htrail

private theorem IsGrounded.closeSlash {trail : List Char} (htrail : IsGrounded trail) :
    IsGrounded (closeSlash trail) := by
  unfold Url.closeSlash
  split
  · exact htrail
  · exact htrail.append ['/']

private theorem IsGrounded.addSegment {trail : List Char} (htrail : IsGrounded trail) {kind : SchemeKind}
    (segment : List Char) (closed : Bool) : IsGrounded (addSegment kind trail segment closed) := by
  unfold Url.addSegment
  extract_lets text atRoot add trail'
  have hadd (text : List Char) : IsGrounded (add text) := htrail.append _
  have hback : IsGrounded trail' := htrail.takeBack kind
  split
  · exact hadd _
  split
  · split
    · exact hback.closeSlash
    · exact hback
  split
  · exact htrail.closeSlash
  split
  · exact hadd _
  · exact hadd _

/-- Segments are added behind the first slash. -/
theorem IsGrounded.addSegments {trail : List Char} (htrail : IsGrounded trail) (kind : SchemeKind)
    (segments : List (List Char)) : IsGrounded (addSegments kind trail segments) := by
  induction segments generalizing trail with
  | nil => exact htrail
  | cons segment more ih =>
    cases more with
    | nil => exact htrail.addSegment segment false
    | cons next more => exact ih (htrail.addSegment segment true)

/-- A path that starts with a slash. -/
def IsRooted (path : List Char) : Prop :=
  path.head? = some '/'

private theorem IsRooted.reverse {path : List Char} (hpath : IsRooted path) : IsGrounded path.reverse := by
  rw [IsGrounded, List.getLast?_reverse, hpath]

/-- A path that starts with a slash keeps it, and a path of a file is given one. -/
theorem IsRooted.extendPath {kind : SchemeKind} {path : List Char} (hpath : kind = .file ∨ IsRooted path)
    (text : List Char) : IsRooted (extendPath kind path text) := by
  unfold Url.extendPath
  dsimp only
  split
  · rfl
  · next hkind =>
    have hpath := hpath.resolve_left fun heq => hkind (by rw [heq]; rfl)
    rw [joinPath, IsRooted, List.head?_reverse]
    refine IsGrounded.addSegments ?_ kind _
    split
    · exact hpath.reverse.append ['/']
    · exact hpath.reverse

/-- A path that fits an address: nothing in it ends it, and it starts with a slash unless the scheme is one of its own
and there is no path at all, or no authority that a slash would have to follow. -/
structure PathFits (url : Url) : Prop where
  inPath : InPath url.path
  rooted : IsRooted url.path ∨ url.kind = .other ∧ (url.path = [] ∨ url.authority = none)
  plain : url.kind = .web → IsOf IsPlain url.path

/-- An address the parts of which are encoded, so that none of them holds a sign that starts a later part, whatever
text it was read from. -/
structure WellFormed (url : Url) : Prop extends PathFits url where
  query : ∀ query ∈ url.query, IsOf (isEncodedInQuery url.kind.isSpecial · = false) query
  fragment : ∀ fragment ∈ url.fragment, IsOf (isEncodedInFragment · = false) fragment

/-- The path of an address of the web starts with a slash. -/
theorem WellFormed.exists_path {url : Url} (hurl : WellFormed url) (hweb : url.kind = .web) :
    ∃ path, url.path = '/' :: path := by
  rcases hurl.rooted with hrooted | ⟨hother, -⟩
  · exact List.head?_eq_some_iff.1 hrooted
  · exact absurd (hweb.symm.trans hother) (by decide)

/-- No query holds the sign that starts a fragment. -/
theorem sign_notMem_of_query {special : Bool} {query : List Char}
    (hquery : IsOf (isEncodedInQuery special · = false) query) : '#' ∉ query := by
  intro hmem
  have hshown := hquery '#' hmem
  cases special <;> exact absurd hshown (by decide +kernel)

private theorem isOf_encodeFragment (fragment : List Char) :
    IsOf (isEncodedInFragment · = false) (encodePart isEncodedInFragment fragment) :=
  isOf_encodePart (by decide +kernel) (by decide +kernel) fun _ _ hshown => hshown

private theorem isOf_encodeQuery (special : Bool) (query : List Char) :
    IsOf (isEncodedInQuery special · = false) (encodePart (isEncodedInQuery special) query) :=
  isOf_encodePart (by cases special <;> decide +kernel) (by cases special <;> decide +kernel) fun _ _ hshown => hshown

/-- The fragment is encoded when it is set. -/
theorem WellFormed.withFragment {url : Url} (hurl : WellFormed url) (fragment : List Char) :
    WellFormed (url.withFragment fragment) where
  toPathFits := ⟨hurl.inPath, hurl.rooted, hurl.plain⟩
  query := hurl.query
  fragment _ hmem := Option.some.inj hmem ▸ isOf_encodeFragment fragment

private theorem WellFormed.withoutFragment {url : Url} (hurl : WellFormed url) :
    WellFormed { url with fragment := none } where
  toPathFits := ⟨hurl.inPath, hurl.rooted, hurl.plain⟩
  query := hurl.query
  fragment := nofun

/-- Query and fragment are encoded when they are set behind a path that fits. -/
theorem PathFits.withTail {url : Url} (hpath : PathFits url) (tail : List Char) : WellFormed (url.withTail tail) := by
  have hfits (query fragment : Option (List Char)) : PathFits { url with query, fragment } :=
    ⟨hpath.inPath, hpath.rooted, hpath.plain⟩
  have hnone : WellFormed { url with query := none, fragment := none } := ⟨hfits none none, nofun, nofun⟩
  unfold Url.withTail
  split
  · next rest =>
    have hquery : WellFormed { url with
        query := some (encodePart (isEncodedInQuery url.kind.isSpecial) (rest.takeWhile (· ≠ '#'))), fragment := none } :=
      ⟨hfits _ none, fun _ hmem => Option.some.inj hmem ▸ isOf_encodeQuery _ _, nofun⟩
    dsimp only
    split
    · exact hquery.withFragment _
    · exact hquery
  · exact hnone.withFragment _
  · exact hnone

/-- Extending a path that fits, or any path of a file. -/
theorem wellFormed_extend {url : Url} {path : List Char} (hpath : InPath path)
    (hrooted : url.kind = .file ∨ IsRooted path ∨ url.kind = .other ∧ url.authority = none)
    (hplain : url.kind = .web → IsOf IsPlain path) (text : List Char) : WellFormed (url.extend path text) := by
  refine PathFits.withTail ⟨hpath.extendPath _ _, ?_, fun hweb => ?_⟩ _
  · rcases or_assoc.2 hrooted with hrooted | ⟨hkind, hauthority⟩
    · exact .inl (IsRooted.extendPath hrooted _)
    · exact .inr ⟨hkind, .inr hauthority⟩
  · rw [show url.kind = .web from hweb]
    exact isPlain_extendPath (hplain hweb) _

private theorem wellFormed_extend_root (url : Url) (text : List Char) : WellFormed (url.extend ['/'] text) :=
  wellFormed_extend (isOf_singleton (by decide)) (.inr (.inl rfl)) (fun _ => isOf_singleton (by decide +kernel)) text

private theorem eq_other_of_not_isSpecial {kind : SchemeKind} (hkind : ¬kind.isSpecial = true) : kind = .other := by
  cases kind with
  | web => exact absurd rfl hkind
  | file => exact absurd rfl hkind
  | other => rfl

/-- A path that begins with the slash of the text that extends it. -/
theorem extend_nil_slash {url : Url} (hkind : url.kind = .other) (text : List Char) :
    url.extend [] ('/' :: text) = url.extend ['/'] text := by
  have hpath (text : List Char) : extendPath .other [] ('/' :: text) = extendPath .other ['/'] text := by
    have hpieces : pathSegments .other ('/' :: text) = [] :: pathSegments .other text := rfl
    obtain ⟨first, more, hsegments⟩ := List.exists_cons_of_ne_nil (Text.pieces_ne_nil '/' text)
    have hsegments : pathSegments .other text = first :: more := hsegments
    simp only [extendPath, joinPath, hpieces, hsegments]
    rfl
  have hcut : cutAtPathEnd ('/' :: text) = ('/' :: (cutAtPathEnd text).1, (cutAtPathEnd text).2) := rfl
  rw [extend, extend, hkind, hcut]
  dsimp only
  rw [hpath]

/-- What is read behind two slashes is well formed. -/
theorem wellFormed_readAfterSlashes {scheme text : List Char} {url : Url}
    (hread : readAfterSlashes scheme text = .ok url) : WellFormed url := by
  obtain ⟨⟨authority, rest⟩, -, hread⟩ := bind_eq_ok_iff.1 hread
  dsimp only at hread
  split at hread
  · cases hread
    exact wellFormed_extend_root _ _
  · next hspecial =>
    have hkind := eq_other_of_not_isSpecial hspecial
    have hfits : PathFits { scheme := scheme, authority := some authority } :=
      ⟨isOf_nil, .inr ⟨hkind, .inl rfl⟩, fun _ => isOf_nil⟩
    split at hread <;> cases hread
    · exact hfits.withTail _
    · exact hfits.withTail _
    · exact hfits.withTail _
    · rw [extend_nil_slash hkind]
      exact wellFormed_extend_root _ _
    · exact wellFormed_extend_root _ _

/-- What is read behind a scheme of its own is well formed. -/
theorem wellFormed_readOther {scheme text : List Char} (hscheme : SchemeKind.ofScheme scheme = .other) {url : Url}
    (hread : readOther scheme text = .ok url) : WellFormed url := by
  unfold readOther at hread
  split at hread
  · exact wellFormed_readAfterSlashes hread
  · cases hread
    exact wellFormed_extend_root _ _
  · cases hread
    have hpath : InPath (encodePart isControl (cutAtPathEnd text).1) :=
      isOf_encodePart (by decide) (by decide +kernel) fun c hc _ => inPath_cutAtPathEnd text c hc
    have hfits : PathFits { scheme := scheme, path := encodePart isControl (cutAtPathEnd text).1 } :=
      ⟨hpath, .inr ⟨hscheme, .inr rfl⟩, fun hweb => absurd (hscheme.symm.trans hweb) (by decide)⟩
    exact hfits.withTail _

/-- A file on a host is well formed. -/
theorem wellFormed_readFileHost {text : List Char} {url : Url} (hread : readFileHost text = .ok url) :
    WellFormed url := by
  unfold readFileHost at hread
  simp only at hread
  split at hread
  · cases hread
    exact wellFormed_extend_root _ _
  obtain ⟨host, -, hread⟩ := bind_eq_ok_iff.1 hread
  split at hread
  · cases hread
    exact wellFormed_extend_root _ _
  · cases hread
    exact wellFormed_extend_root _ _

/-- What a file path takes from its base. -/
theorem fileRoot_fits {base : Option Url} (hbase : ∀ own ∈ base, InPath own.path) (text : List Char) :
    (fileRoot base text).1.kind = .file ∧ InPath (fileRoot base text).2 := by
  refine ⟨kind_eq_file_iff.2 scheme_fileRoot, ?_⟩
  unfold fileRoot
  split
  · exact List.forall_mem_nil _
  · next own =>
    dsimp only
    split
    · exact List.forall_mem_nil _
    split
    · exact IsOf.cons (by decide) ((hbase own rfl).of_subset
        (List.Subset.trans (List.takeWhile_sublist _).subset (List.drop_subset 1 own.path)))
    · exact List.forall_mem_nil _

/-- A file is well formed, also one that is read relative to another. -/
theorem wellFormed_readFile {base : Option Url} (hbase : ∀ own ∈ base, own.kind = .file ∧ WellFormed own)
    {text : List Char} {url : Url} (hread : readFile base text = .ok url) : WellFormed url := by
  unfold readFile at hread
  dsimp only at hread
  split at hread
  · split at hread
    · split at hread
      · exact wellFormed_readFileHost hread
      · cases hread
        obtain ⟨hkind, hpath⟩ := fileRoot_fits (fun own hown => (hbase own hown).2.inPath) (text.dropWhile isBreak)
        exact wellFormed_extend hpath (.inl hkind) (fun hweb => absurd (hkind.symm.trans hweb) (by decide)) _
    · split at hread
      · cases hread
        exact wellFormed_extend_root _ _
      · next own =>
        obtain ⟨hkind, hown⟩ := hbase own rfl
        split at hread
        · cases hread
          exact hown.toPathFits.withTail _
        split at hread
        · cases hread
          exact hown.withFragment _
        split at hread
        · cases hread
          exact wellFormed_extend_root _ _
        · cases hread
          exact wellFormed_extend (hown.inPath.dropLastSegment .file) (.inl hkind)
            (fun hweb => absurd (hkind.symm.trans hweb) (by decide)) _
  · split at hread
    · cases hread
      exact wellFormed_extend_root _ _
    · next own =>
      cases hread
      obtain ⟨-, hown⟩ := hbase own rfl
      exact hown.withoutFragment

/-- What is read relative to a well-formed base is well formed. -/
theorem wellFormed_readRelative {base url : Url} (hbase : WellFormed base) {text : List Char}
    (hread : readRelative base text = .ok url) : WellFormed url := by
  unfold readRelative at hread
  split at hread
  · cases hread
    exact hbase.withoutFragment
  · cases hread
    exact hbase.toPathFits.withTail _
  · cases hread
    exact hbase.withFragment _
  · split at hread
    · split at hread
      · exact wellFormed_readAfterSlashes hread
      · cases hread
        exact wellFormed_extend_root _ _
    · cases hread
      split
      · exact wellFormed_extend_root _ _
      · next hne =>
        refine wellFormed_extend (hbase.inPath.dropLastSegment _) ?_ (fun hweb => (hbase.plain hweb).dropLastSegment _) _
        rcases hbase.rooted with hrooted | ⟨hkind, hnil | hauthority⟩
        · refine .inr (.inl ?_)
          rw [dropLastSegment, IsRooted, List.head?_reverse]
          exact hrooted.reverse.dropTrailSegment _
        · rw [hnil, hkind] at hne
          exact absurd rfl hne
        · exact .inr (.inr ⟨hkind, hauthority⟩)

/-- Reading an address gives one that is well formed, if the base it was read against is. -/
theorem wellFormed_read {base : Option Url} (hbase : ∀ own ∈ base, WellFormed own) {text : List Char} {url : Url}
    (hread : read base text = .ok url) : WellFormed url := by
  cases reading_of_read hread with
  | file hown hread =>
    exact wellFormed_readFile (fun own hmem => ⟨(hown own hmem).2, hbase own (hown own hmem).1⟩) hread
  | other _ hkind hread => exact wellFormed_readOther hkind hread
  | web _ _ hread => exact wellFormed_readAfterSlashes hread
  | @relative own hown _ hread => exact wellFormed_readRelative (hbase own hown) hread
  | @fragment own hown fragment hurl => exact hurl ▸ (hbase own hown).withFragment fragment

end PageRouter.Url

