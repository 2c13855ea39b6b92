import PageRouter.Proofs.Route.Rebuild
import PageRouter.Proofs.Url.Relative

namespace PageRouter

open Url (encodePart isEncodedInPath isBreak Stays)

/-- Letters and digits are characters of ASCII. -/
theorem toNat_lt_of_isAlphanum {c : Char} (hc : c.isAlphanum = true) : c.toNat < 128 := by
  change ((decide ('A'.val ≤ c.val ∧ c.val ≤ 'Z'.val) || (decide ('a'.val ≤ c.val) && decide (c.val ≤ 'z'.val))) ||
    (decide ('0'.val ≤ c.val) && decide (c.val ≤ '9'.val))) = true at hc
  simp only [Bool.or_eq_true, Bool.and_eq_true, decide_eq_true_eq, UInt32.le_iff_toNat_le] at hc
  change ((65 ≤ c.toNat ∧ c.toNat ≤ 90) ∨ (97 ≤ c.toNat ∧ c.toNat ≤ 122)) ∨ (48 ≤ c.toNat ∧ c.toNat ≤ 57) at hc
  omega

/-- Letters and digits mean nothing special in a path. -/
theorem plain_of_isAlphanum {c : Char} (hc : c.isAlphanum = true) :
    isEncodedInPath c = false ∧ c.toLower ≠ '.' ∧ c.toLower ≠ '%' := by
  have hascii : ∀ n : Fin 128, (Char.ofNat n).isAlphanum = true → isEncodedInPath (Char.ofNat n) = false ∧
      (Char.ofNat n).toLower ≠ '.' ∧ (Char.ofNat n).toLower ≠ '%' := by decide +kernel
  have hplain := hascii ⟨c.toNat, toNat_lt_of_isAlphanum hc⟩
  rw [Char.ofNat_toNat] at hplain
  exact hplain hc

namespace Pattern

/-- The values that stand for no parameter as dots are those that an address reads as dots. -/
theorem isDotSegment_eq (segment : List Char) :
    isDotSegment segment = (Url.isSingleDot segment || Url.isDoubleDot segment) := by
  simp [isDotSegment, Url.isSingleDot, Url.isDoubleDot, Bool.or_assoc]

private theorem stays_nil : Stays [] :=
  ⟨by decide, by decide⟩

private theorem stays_of_isAlphanum {text : List Char} (hne : text ≠ []) (htext : ∀ c ∈ text, c.isAlphanum = true) :
    Stays text := by
  have hdots (a : Bool) (spelling : List Bool) : text.map Char.toLower ≠ Url.dots (a :: spelling) := by
    cases text with
    | nil => exact absurd rfl hne
    | cons c text =>
      obtain ⟨-, hdot, hpercent⟩ := plain_of_isAlphanum (htext c List.mem_cons_self)
      intro heq
      cases a with
      | false => exact hdot (List.cons.inj heq).1
      | true => exact hpercent (List.cons.inj heq).1
  refine ⟨Bool.eq_false_iff.2 fun hsingle => ?_, Bool.eq_false_iff.2 fun hdouble => ?_⟩
  · obtain ⟨a, heq⟩ := Url.isSingleDot_iff.1 hsingle
    exact hdots a [] heq
  · obtain ⟨a, b, heq⟩ := Url.isDoubleDot_iff.1 hdouble
    exact hdots a [b] heq

/-- A spelled path is encoded piece by piece. -/
theorem encodePart_spell (pieces : List (List Char)) :
    encodePart isEncodedInPath (spell pieces) = spell (pieces.map (encodePart isEncodedInPath)) := by
  induction pieces with
  | nil => rfl
  | cons piece more ih =>
    have hslash : isEncodedInPath '/' = false := by decide +kernel
    rw [spell_cons, Url.encodePart_cons, hslash, Url.encodePart_append, ih, List.map_cons, spell_cons]
    rfl

/-- A sign that is in no piece is in no spelled path. -/
theorem notMem_spell {c : Char} {pieces : List (List Char)} (hc : c ≠ '/') (hpieces : ∀ piece ∈ pieces, c ∉ piece) :
    c ∉ spell pieces := by
  rw [spell, List.mem_flatMap]
  rintro ⟨piece, hpiece, hmem⟩
  rcases List.mem_cons.1 hmem with heq | hmem
  · exact hc heq
  · exact hpieces piece hpiece hmem

/-- The segments that a path is read as are its pieces, and an empty one after a slash at the end. -/
theorem eq_of_mem_pieces_spell {first : List Char} {pieces : List (List Char)} {tail segment : List Char}
    (hpieces : ∀ piece ∈ first :: pieces, '/' ∉ piece) (htail : tail = [] ∨ tail = ['/'])
    (hsegment : segment ∈ Text.pieces '/' (first ++ (spell pieces ++ tail))) :
    segment = [] ∨ segment ∈ first :: pieces := by
  induction pieces generalizing first with
  | nil =>
    have hfirst := hpieces first List.mem_cons_self
    rcases htail with rfl | rfl
    · rw [spell, List.flatMap_nil, List.nil_append, List.append_nil, Text.pieces_of_notMem hfirst] at hsegment
      exact .inr hsegment
    · rw [spell, List.flatMap_nil, List.nil_append, Text.pieces_append_separator hfirst] at hsegment
      rcases List.mem_cons.1 hsegment with rfl | hlast
      · exact .inr List.mem_cons_self
      · exact .inl (List.mem_singleton.1 hlast)
  | cons piece more ih =>
    obtain ⟨hfirst, hmore⟩ := List.forall_mem_cons.1 hpieces
    rw [spell_cons, List.cons_append, Text.pieces_append_separator hfirst, List.append_assoc] at hsegment
    rcases List.mem_cons.1 hsegment with rfl | hlater
    · exact .inr List.mem_cons_self
    · exact (ih hmore hlater).imp_right (List.mem_cons_of_mem first)

/-- A value that can stand for a parameter stands for no dots in a path. -/
theorem stays_of_isSubstitutable {value : String} (hvalue : isSubstitutable value = true) : Stays value.toList := by
  obtain ⟨-, hdots, -⟩ := isSubstitutable_iff.1 hvalue
  rw [isDotSegment_eq, Bool.or_eq_false_iff] at hdots
  exact hdots

section Built

variable {pattern : Pattern} {params : Params}
  (hliterals : ∀ text, Segment.literal text ∈ pattern.segments →
    text.toList ≠ [] ∧ ∀ c ∈ text.toList, c.isAlphanum = true)
  (hvalues : ∀ name, Segment.param name ∈ pattern.segments →
    isSubstitutable ((params.get? name).getD "") = true)

include hliterals hvalues

/-- The pieces of a built path are segments that stay, and hold nothing that ends a path. -/
theorem piece_of_mem {segment : Segment} (hsegment : segment ∈ pattern.segments) :
    pieceOf params segment ≠ [] ∧ Stays (pieceOf params segment) ∧ '/' ∉ pieceOf params segment ∧
      '?' ∉ pieceOf params segment ∧ '#' ∉ pieceOf params segment := by
  cases segment with
  | literal text =>
    obtain ⟨hne, htext⟩ := hliterals text hsegment
    have hother {c : Char} (hc : c.isAlphanum = false) : c ∉ text.toList := fun hmem => by
      rw [htext c hmem] at hc
      cases hc
    exact ⟨hne, stays_of_isAlphanum hne htext, hother (by decide), hother (by decide), hother (by decide)⟩
  | param name =>
    have hvalue := hvalues name hsegment
    obtain ⟨hne, -, hslash, hquery, hfragment⟩ := isSubstitutable_iff.1 hvalue
    exact ⟨hne, stays_of_isSubstitutable hvalue, hslash, hquery, hfragment⟩

/-- The pieces of a built path still fill their segments when they are encoded. -/
theorem forall₂_fills_encodePart : List.Forall₂ (Fills pattern.ignoreCase) pattern.segments
    ((pattern.segments.map (pieceOf params)).map (encodePart isEncodedInPath)) := by
  rw [List.map_map, List.forall₂_map_right_iff, List.forall₂_same]
  intro segment hsegment
  obtain ⟨hne, -, hslash, -, -⟩ := piece_of_mem hliterals hvalues hsegment
  refine ⟨Url.slash_notMem_encodePart hslash, ?_⟩
  cases segment with
  | literal text =>
    obtain ⟨-, htext⟩ := hliterals text hsegment
    have hplain : encodePart isEncodedInPath text.toList = text.toList :=
      Url.encodePart_eq_self fun c hc => (plain_of_isAlphanum (htext c hc)).1
    simp [fits, pieceOf, hplain, Text.sameFolded_refl]
  | param name =>
    have hencoded : encodePart isEncodedInPath (pieceOf params (.param name)) ≠ [] := Url.encodePart_ne_nil hne
    simpa [fits] using hencoded

/-- A built path is a slash and segments that stay, without anything that ends the path. -/
theorem exists_spelledPathname_eq_cons : ∃ text, pattern.spelledPathname params = '/' :: text ∧
    text.head? ≠ some '/' ∧ '?' ∉ text ∧ '#' ∉ text ∧ ∀ segment ∈ Text.pieces '/' text, Stays segment := by
  have hpieces : ∀ piece ∈ pattern.segments.map (pieceOf params), piece ≠ [] ∧ Stays piece ∧ '/' ∉ piece ∧
      '?' ∉ piece ∧ '#' ∉ piece := by
    rw [List.forall_mem_map]
    exact fun segment hsegment => piece_of_mem hliterals hvalues hsegment
  obtain ⟨tail, htail, hroot, hspelled⟩ := exists_spelledPathname_eq pattern params
  rw [hspelled]
  rcases hsegments : pattern.segments.map (pieceOf params) with _ | ⟨first, more⟩
  · rw [hroot (List.map_eq_nil_iff.1 hsegments)]
    exact ⟨[], rfl, by simp, by simp, by simp, fun segment hsegment => List.mem_singleton.1 hsegment ▸ stays_nil⟩
  · rw [hsegments] at hpieces
    have hother {c : Char} (hc : c ≠ '/') (hmem : ∀ piece ∈ first :: more, c ∉ piece) :
        c ∉ first ++ (spell more ++ tail) := by
      have hspelled : c ∉ spell (first :: more) := notMem_spell hc hmem
      rw [spell_cons, List.mem_cons, not_or, List.mem_append, not_or] at hspelled
      rw [List.mem_append, List.mem_append, not_or, not_or]
      refine ⟨hspelled.2.1, hspelled.2.2, ?_⟩
      rcases htail with rfl | rfl
      · exact List.not_mem_nil
      · exact fun hslash => hc (List.mem_singleton.1 hslash)
    refine ⟨first ++ (spell more ++ tail), ?_, ?_,
      hother (by decide) fun piece hpiece => (hpieces piece hpiece).2.2.2.1,
      hother (by decide) fun piece hpiece => (hpieces piece hpiece).2.2.2.2, fun segment hsegment => ?_⟩
    · rw [spell_cons, List.cons_append, List.append_assoc]
    · obtain ⟨hne, -, hslash, -⟩ := hpieces first List.mem_cons_self
      obtain ⟨c, rest, rfl⟩ := List.exists_cons_of_ne_nil hne
      exact fun hhead => hslash (Option.some.inj hhead ▸ List.mem_cons_self)
    · rcases eq_of_mem_pieces_spell (fun piece hpiece => (hpieces piece hpiece).2.2.1) htail hsegment with rfl | hmem
      · exact stays_nil
      · exact (hpieces segment hmem).2.1

/-- A built path is accepted by its pattern when it is encoded. -/
theorem accepts_encodePart :
    pattern.accepts (String.ofList (encodePart isEncodedInPath (pattern.spelledPathname params))) = true := by
  obtain ⟨tail, htail, -, hspelled⟩ := exists_spelledPathname_eq pattern params
  have hclosed : encodePart isEncodedInPath tail = tail := by
    rcases htail with rfl | rfl
    · rfl
    · decide +kernel
  have hcapture := capture_spell (forall₂_fills_encodePart hliterals hvalues) htail
  rw [accepts, extract, String.toList_ofList, hspelled, Url.encodePart_append, encodePart_spell, hclosed, hcapture]
  rfl

end Built

/-- A path that was built from a pattern, and followed from an address of the web that reads as itself, leads to a
path of the pattern at the same origin, if its literal segments are letters and digits, and if no value holds a
backslash, a tab or a line break, or leaves a blank at the end of the path. -/
theorem accepts_join_build {pattern : Pattern} (hliterals : ∀ text, Segment.literal text ∈ pattern.segments →
      text.toList ≠ [] ∧ ∀ c ∈ text.toList, c.isAlphanum = true)
    {base : Location} {url : Url} (hurl : Url.parse base.href = .ok url) (hbase : base = .ofUrl url)
    (hweb : url.scheme = "http".toList ∨ url.scheme = "https".toList) {params : Params} {path : String}
    (hbuild : pattern.build (some params) none = .ok path)
    (hclean : ∀ c ∈ path.toList, c ≠ '\\' ∧ isBreak c = false)
    (hlast : ∀ c, path.toList.getLast? = some c → 0x20 < c.toNat) :
    ∃ target, base.join path = .ok target ∧ target.origin = base.origin ∧
      pattern.accepts target.pathname = true := by
  rw [build_none_eq] at hbuild
  obtain ⟨-, -, hvalues, rfl⟩ := buildPathname_eq_ok_iff.1 hbuild
  rw [String.toList_ofList] at hclean hlast
  obtain ⟨text, hspelled, hhead, hquery, hfragment, hstays⟩ := exists_spelledPathname_eq_cons hliterals hvalues
  have hkind : url.kind = .web := by
    rcases hweb with hscheme | hscheme <;> rw [Url.kind, hscheme] <;> decide
  have hclean : ∀ c ∈ text, c ≠ '\\' ∧ isBreak c = false := fun c hc =>
    hclean c (hspelled ▸ List.mem_cons_of_mem _ hc)
  have hjoin := Url.join_clean hkind hclean (Url.authority_isSome_of_parse hurl hkind) hhead (hspelled ▸ hlast)
  have hpath := Url.path_extend_clean hkind hclean hquery hfragment hstays
  rw [← hspelled] at hjoin hpath
  refine ⟨.ofUrl (url.extend ['/'] text), ?_, ?_, ?_⟩
  · rw [Location.join_of_parse hurl, hjoin, Location.ofResult]
  · rw [hbase, Location.ofUrl, Location.ofUrl, Url.origin_extend hkind]
  · rw [Location.ofUrl]
    dsimp only
    rw [hpath]
    exact accepts_encodePart hliterals hvalues

/-- A location at a host that is a number. -/
def loopback : Location :=
  ⟨"http://[::1]", "http://[::1]/", "/", "", ""⟩

/-- The address of that location. -/
def loopbackUrl : Url where
  scheme := "http".toList
  authority := some { host := "[::1]".toList }
  path := "/".toList

/-- A pattern with a literal segment and a parameter. -/
def notePattern : Pattern where
  serial := 0
  template := "/n/:a"
  layout := ⟨[.literal "n", .param "a"], false⟩
  ignoreCase := false
  layout_eq := by decide
  nodup_names := by decide
  empty_notMem_names := by decide

/-- The literal segment of the pattern. -/
theorem eq_of_literal_mem_notePattern {text : String} (htext : .literal text ∈ notePattern.segments) : text = "n" := by
  simpa [segments, notePattern] using htext

/-- Nothing in the pattern itself starts a query or a fragment. -/
theorem signs_notMem_literals_notePattern (text : String) (htext : .literal text ∈ notePattern.segments) :
    querySign ∉ text.toList ∧ fragmentSign ∉ text.toList := by
  obtain rfl := eq_of_literal_mem_notePattern htext
  decide

/-- A value with a dot, a space and a letter outside of ASCII. -/
theorem accepts_join_build_notePattern :
    notePattern.build (some ⟨[("a", ". é")]⟩) none = .ok "/n/. é" ∧
      ∃ target, loopback.join "/n/. é" = .ok target ∧ target.origin = loopback.origin ∧
        notePattern.accepts target.pathname = true := by
  have hbuild : notePattern.build (some ⟨[("a", ". é")]⟩) none = .ok "/n/. é" := by decide +kernel
  have hurl : Url.parse loopback.href = .ok loopbackUrl := by decide +kernel
  have hbase : loopback = .ofUrl loopbackUrl := by decide +kernel
  have hliterals : ∀ text, Segment.literal text ∈ notePattern.segments →
      text.toList ≠ [] ∧ ∀ c ∈ text.toList, c.isAlphanum = true := by
    intro text htext
    obtain rfl := eq_of_literal_mem_notePattern htext
    exact ⟨by decide, List.all_eq_true.1 (by decide)⟩
  have hclean : "/n/. é".toList.all (fun c => c != '\\' && !isBreak c) = true := by decide +kernel
  refine ⟨hbuild, accepts_join_build hliterals hurl hbase (.inl rfl) hbuild (fun c hc => ?_) fun c hc => ?_⟩
  · simpa using List.all_eq_true.1 hclean c hc
  · obtain rfl : c = 'é' := by simpa using hc.symm
    decide

/-- A pattern with nothing but a parameter. -/
def slidePattern : Pattern where
  serial := 0
  template := "/:a"
  layout := ⟨[.param "a"], false⟩
  ignoreCase := false
  layout_eq := by decide
  nodup_names := by decide
  empty_notMem_names := by decide

/-- A backslash is as good as a slash in an address, so that a value with one in front leads to another host. -/
theorem join_build_leaves_origin :
    slidePattern.build (some ⟨[("a", "\\[::2]")]⟩) none = .ok "/\\[::2]" ∧
      Location.parse "http://[::1]" = .ok loopback ∧
      ∃ target, loopback.join "/\\[::2]" = .ok target ∧ target.origin = "http://[::2]" ∧
        slidePattern.accepts target.pathname = false := by
  refine ⟨by decide +kernel, by decide +kernel, ⟨"http://[::2]", "http://[::2]/", "/", "", ""⟩, ?_, rfl, ?_⟩
  · decide +kernel
  · decide +kernel

end Pattern

end PageRouter
