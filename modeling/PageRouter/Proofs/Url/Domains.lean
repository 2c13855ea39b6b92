import PageRouter.Proofs.Text.Utf8
import PageRouter.Proofs.Url.Composed
import PageRouter.Proofs.Url.Images
import PageRouter.Proofs.Url.Numbers
import PageRouter.Proofs.Url.Punycode

namespace PageRouter.Url

private theorem domainImage?_ascii {c : Char} (hc : c.toNat < 128) : domainImage? c = some [c.toLower] :=
  if_pos hc

/-- A label as it is read from a domain: composed of own characters, and in Punycode only if it needs that. -/
structure IsReadLabel (label : List Char) : Prop where
  own : ∀ c ∈ label, domainImage? c = some [c]
  dotless : '.' ∉ label
  composed : compose label = label
  plain : label.all (·.toNat < 128) = true → ¬punycodeMark <+: label
  fits : label.all (·.toNat < 128) = false → isLabel label = true

private theorem IsReadLabel.isCanonical {label : List Char} (hlabel : IsReadLabel label) :
    isCanonical label = true := by
  rw [Url.isCanonical, Bool.and_eq_true, beq_iff_eq, List.all_eq_true]
  exact ⟨fun c hc => beq_iff_eq.2 (hlabel.own c hc), hlabel.composed⟩

/-- A label is read as it is, or from Punycode behind its mark, and has to be a label. -/
theorem readLabel?_eq_some_iff {piece label : List Char} : readLabel? piece = some label ↔
    (if punycodeMark.isPrefixOf piece then punycodeLabel? (piece.drop 4) else some piece) = some label ∧
      (label.all (·.toNat < 128) || isLabel label) = true := by
  have hbind : readLabel? piece =
      (if punycodeMark.isPrefixOf piece then punycodeLabel? (piece.drop 4) else some piece).bind
        fun label => if label.all (·.toNat < 128) || isLabel label then some label else none := by
    rw [readLabel?]
    split
    · rfl
    · rfl
  rw [hbind, Option.bind_eq_some_iff]
  constructor
  · rintro ⟨body, hbody, hfits⟩
    split at hfits
    · next hall => cases hfits; exact ⟨hbody, hall⟩
    · cases hfits
  · rintro ⟨hbody, hfits⟩
    exact ⟨label, hbody, if_pos hfits⟩

private theorem punycodeLabel?_eq_some_iff {text label : List Char} : punycodeLabel? text = some label ↔
    text.length ≤ 2000 ∧ Punycode.decode? text = some label ∧ label.any (128 ≤ ·.toNat) = true ∧
      isCanonical label = true := by
  rw [punycodeLabel?]
  split
  · next hlong => exact iff_of_false (by simp) fun h => absurd h.1 (Nat.not_le_of_lt hlong)
  · next hshort =>
    rw [Option.bind_eq_bind, Option.bind_eq_some_iff]
    constructor
    · rintro ⟨decoded, hdecoded, hneeds⟩
      split at hneeds
      · next hall => cases hneeds; exact ⟨Nat.le_of_not_lt hshort, hdecoded, Bool.and_eq_true_iff.1 hall⟩
      · cases hneeds
    · rintro ⟨-, hdecoded, hneeds⟩
      exact ⟨label, hdecoded, if_pos (Bool.and_eq_true_iff.2 hneeds)⟩

/-- What is read from a composed piece of own characters is such a label. -/
theorem isReadLabel_of_readLabel? {piece label : List Char} (hown : ∀ c ∈ piece, domainImage? c = some [c])
    (hdotless : '.' ∉ piece) (hcomposed : compose piece = piece) (hread : readLabel? piece = some label) :
    IsReadLabel label := by
  obtain ⟨hbody, hfits⟩ := readLabel?_eq_some_iff.1 hread
  have hlabel : label.all (·.toNat < 128) = false → isLabel label = true := fun hascii => by
    rwa [hascii, Bool.false_or] at hfits
  split at hbody
  · next hmark =>
    -- A label from Punycode is its own canonical form, and takes its ASCII characters from the text.
    obtain ⟨-, hdecoded, hother, hcanonical⟩ := punycodeLabel?_eq_some_iff.1 hbody
    obtain ⟨hall, hcompose⟩ := Bool.and_eq_true_iff.1 hcanonical
    refine ⟨fun c hc => beq_iff_eq.1 (List.all_eq_true.1 hall c hc), fun hdot => ?_, beq_iff_eq.1 hcompose,
      fun hascii => ?_, hlabel⟩
    · exact hdotless (List.mem_of_mem_drop (Punycode.mem_of_decode? hdecoded hdot (by decide)))
    · obtain ⟨c, hc, hhigh⟩ := List.any_eq_true.1 hother
      have hlow := of_decide_eq_true (List.all_eq_true.1 hascii c hc)
      exact absurd hlow (Nat.not_lt_of_le (of_decide_eq_true hhigh))
  · next hmark =>
    cases hbody
    exact ⟨hown, hdotless, hcomposed, fun _ hstarts => hmark (List.isPrefixOf_iff_prefix.2 hstarts), hlabel⟩

/-- Digits of Punycode are written as themselves. -/
theorem digit_own : ∀ n : Fin 36, (Punycode.digit n).toLower = Punycode.digit n ∧ Punycode.digit n ≠ '.' := by decide

/-- What is written for a label are ASCII characters that are written as themselves. -/
theorem IsReadLabel.of_mem_labelText {label : List Char} (hlabel : IsReadLabel label) {c : Char}
    (hc : c ∈ labelText label) : c.toNat < 128 ∧ c.toLower = c ∧ c ≠ '.' := by
  have hown {c : Char} (hc : c ∈ label) (hascii : c.toNat < 128) : c.toNat < 128 ∧ c.toLower = c ∧ c ≠ '.' := by
    have himage := (domainImage?_ascii hascii).symm.trans (hlabel.own c hc)
    exact ⟨hascii, (List.cons.inj (Option.some.inj himage)).1, fun hdot => hlabel.dotless (hdot ▸ hc)⟩
  rw [labelText] at hc
  split at hc
  · next hascii => exact hown hc (of_decide_eq_true (List.all_eq_true.1 hascii c hc))
  rcases List.mem_append.1 hc with hmark | hencoded
  · have hall : punycodeMark.all (fun c => c.toNat < 128 ∧ c.toLower = c ∧ c ≠ '.') = true := by decide
    exact of_decide_eq_true (List.all_eq_true.1 hall c hmark)
  rcases Punycode.mem_encode hencoded with hbasic | rfl | ⟨n, rfl⟩
  · obtain ⟨hmem, hascii⟩ := List.mem_filter.1 hbasic
    exact hown hmem (of_decide_eq_true hascii)
  · decide
  · exact ⟨(Punycode.digit_ascii n).1, digit_own n⟩

/-- A label that, if it is in Punycode, has at most 2000 characters behind its mark, which is as many as are read. -/
def IsShortLabel (label : List Char) : Prop :=
  punycodeMark <+: label → label.length ≤ punycodeMark.length + 2000

instance (label : List Char) : Decidable (IsShortLabel label) :=
  inferInstanceAs (Decidable (punycodeMark <+: label → label.length ≤ punycodeMark.length + 2000))

/-- A label is read from what is written for it. -/
theorem IsReadLabel.readLabel?_labelText {label : List Char} (hlabel : IsReadLabel label)
    (hshort : IsShortLabel (labelText label)) : readLabel? (labelText label) = some label := by
  rw [readLabel?_eq_some_iff]
  rcases hascii : label.all (·.toNat < 128) with _ | _
  · have htext : labelText label = punycodeMark ++ Punycode.encode label := if_neg (by rw [hascii]; decide)
    have hstarts : punycodeMark <+: labelText label := htext ▸ List.prefix_append _ _
    have hlength : (Punycode.encode label).length ≤ 2000 := by
      have hle := hshort hstarts
      rw [htext, List.length_append] at hle
      exact Nat.le_of_add_le_add_left hle
    have hdrop : (labelText label).drop 4 = Punycode.encode label := by
      rw [htext]
      exact List.drop_left' rfl
    have hother : label.any (128 ≤ ·.toNat) = true := by
      obtain ⟨c, hc, hhigh⟩ := List.all_eq_false.1 hascii
      exact List.any_eq_true.2 ⟨c, hc, decide_eq_true (Nat.le_of_not_lt fun hlow => hhigh (decide_eq_true hlow))⟩
    rw [if_pos (List.isPrefixOf_iff_prefix.2 hstarts), hdrop, punycodeLabel?_eq_some_iff, hlabel.fits hascii]
    exact ⟨⟨hlength, Punycode.decode?_encode label, hother, hlabel.isCanonical⟩, rfl⟩
  · have htext : labelText label = label := if_pos hascii
    rw [htext, if_neg fun hstarts => hlabel.plain hascii (List.isPrefixOf_iff_prefix.1 hstarts)]
    exact ⟨rfl, rfl⟩

/-- Small letters, digits and signs of ASCII are read as they are. -/
theorem domain?_ascii_iff {text domain : List Char} (htext : IsOf (fun c => c.toNat < 128 ∧ c.toLower = c) text)
    (hplain : IsOf (isForbiddenInDomain · = false) text) : domain? text = some domain ↔
      ∃ labels, (Text.pieces '.' text).mapM readLabel? = some labels ∧
        domain = Text.joinPieces '.' (labels.map labelText) ∧ keepOrder labels = true ∧
        domain.any isForbiddenInDomain = false := by
  have hpercent : '%' ∉ text := fun hmem => absurd (hplain '%' hmem) (by decide +kernel)
  have hdecoded : Text.decode? (Text.percentDecode (Text.encode text)) = some text := by
    rw [Text.percentDecode_encode fun c hc => ⟨(htext c hc).1, fun heq => hpercent (heq ▸ hc)⟩, Text.decode?_encode]
  have himages : text.mapM domainImage? = some (text.map fun c => [c]) :=
    mapM_eq_some_iff.2 (List.forall₂_map_right_iff.2 (List.forall₂_same.2 fun c hc => by
      rw [domainImage?_ascii (htext c hc).1, (htext c hc).2]))
  have hcomposed : compose (text.map fun c => [c]).flatten = text := by
    rw [← List.flatMap_def, List.flatMap_singleton', compose_ascii fun c hc => (htext c hc).1]
  rw [domain?_eq_some_iff]
  constructor
  · rintro ⟨decoded, images, labels, hdecoded', himages', hlabels⟩
    cases hdecoded.symm.trans hdecoded'
    cases himages.symm.trans himages'
    rw [hcomposed] at hlabels
    exact ⟨labels, hlabels⟩
  · rintro ⟨labels, hlabels⟩
    rw [← hcomposed] at hlabels
    exact ⟨text, _, labels, hdecoded, himages, hlabels⟩

section Labels

variable {labels : List (List Char)} (hlabels : ∀ label ∈ labels, IsReadLabel label)

include hlabels

private theorem isOf_labelTexts :
    IsOf (fun c => c.toNat < 128 ∧ c.toLower = c) (Text.joinPieces '.' (labels.map labelText)) := by
  refine isOf_joinPieces (by decide) fun piece hpiece c hc => ?_
  obtain ⟨label, hlabel, rfl⟩ := List.mem_map.1 hpiece
  have hc := (hlabels label hlabel).of_mem_labelText hc
  exact ⟨hc.1, hc.2.1⟩

/-- A domain is cut into what is written for its labels. -/
theorem pieces_labelTexts (hne : labels ≠ []) :
    Text.pieces '.' (Text.joinPieces '.' (labels.map labelText)) = labels.map labelText := by
  obtain ⟨first, more, rfl⟩ := List.exists_cons_of_ne_nil hne
  refine Text.pieces_joinPieces fun piece hpiece hdot => ?_
  rw [← List.map_cons] at hpiece
  obtain ⟨label, hlabel, rfl⟩ := List.mem_map.1 hpiece
  exact ((hlabels label hlabel).of_mem_labelText hdot).2.2 rfl

/-- Labels that are read again make a domain that is read as itself. -/
theorem domain?_joinPieces (hne : labels ≠ [])
    (hshort : ∀ label ∈ labels, IsShortLabel (labelText label)) (horder : keepOrder labels = true)
    (hplain : IsOf (isForbiddenInDomain · = false) (Text.joinPieces '.' (labels.map labelText))) :
    domain? (Text.joinPieces '.' (labels.map labelText)) = some (Text.joinPieces '.' (labels.map labelText)) := by
  refine (domain?_ascii_iff (isOf_labelTexts hlabels) hplain).2 ⟨labels, ?_, rfl, horder, ?_⟩
  · rw [pieces_labelTexts hlabels hne]
    exact mapM_eq_some_map fun label hlabel => (hlabels label hlabel).readLabel?_labelText (hshort label hlabel)
  · exact List.any_eq_false.2 fun c hc => Bool.eq_false_iff.1 (hplain c hc)

end Labels

/-- The labels of a domain that is read. -/
theorem exists_labels {text domain : List Char} (hdomain : domain? text = some domain) :
    ∃ labels, labels ≠ [] ∧ (∀ label ∈ labels, IsReadLabel label) ∧ domain = Text.joinPieces '.' (labels.map labelText) ∧
      keepOrder labels = true := by
  obtain ⟨decoded, images, labels, -, himages, hlabels, hjoin, horder, -⟩ := domain?_eq_some_iff.1 hdomain
  have hown : ∀ c ∈ compose images.flatten, domainImage? c = some [c] := by
    refine forall_compose domainImage?_parts domainImage?_composite fun c hc => ?_
    obtain ⟨image, himage, hc⟩ := List.mem_flatten.1 hc
    obtain ⟨d, -, hd⟩ := exists_of_mem_mapM himages himage
    exact domainImage?_of_image hd c hc
  refine ⟨labels, fun hnil => ?_, fun label hlabel => ?_, hjoin, horder⟩
  · have hlength := (mapM_eq_some_iff.1 hlabels).length_eq
    rw [hnil, List.length_nil] at hlength
    exact Text.pieces_ne_nil _ _ (List.length_eq_zero_iff.1 hlength)
  · obtain ⟨piece, hpiece, hread⟩ := exists_of_mem_mapM hlabels hlabel
    exact isReadLabel_of_readLabel? (fun c hc => hown c (mem_of_mem_pieces hpiece hc)) (Text.not_mem_of_mem_pieces hpiece)
      (compose_label hpiece) hread

/-- A host all of whose labels can be read. -/
def HasShortLabels (host : List Char) : Prop :=
  ∀ label ∈ Text.pieces '.' host, IsShortLabel label

instance (host : List Char) : Decidable (HasShortLabels host) :=
  inferInstanceAs (Decidable (∀ label ∈ Text.pieces '.' host, IsShortLabel label))

/-- A domain that was read is read as itself if its labels are short enough, and otherwise not at all. -/
theorem domain?_domain {text domain : List Char} (hdomain : domain? text = some domain) :
    (HasShortLabels domain → domain? domain = some domain) ∧ (¬HasShortLabels domain → domain? domain = none) := by
  have hplain := isOf_domain hdomain
  obtain ⟨labels, hne, hlabels, rfl, horder⟩ := exists_labels hdomain
  constructor
  · intro hshort
    refine domain?_joinPieces hlabels hne (fun label hlabel => hshort _ ?_) horder hplain
    rw [pieces_labelTexts hlabels hne]
    exact List.mem_map_of_mem hlabel
  · intro hlong
    refine Option.eq_none_iff_forall_ne_some.2 fun domain hagain => hlong fun label hlabel hmark => ?_
    -- If the domain is read again, so is each of its labels, behind its mark.
    obtain ⟨again, hread, -⟩ := (domain?_ascii_iff (isOf_labelTexts hlabels) hplain).1 hagain
    obtain ⟨body, hbody⟩ := isSome_of_mapM hread hlabel
    rw [readLabel?_eq_some_iff, if_pos (List.isPrefixOf_iff_prefix.2 hmark), punycodeLabel?_eq_some_iff,
      List.length_drop] at hbody
    have hfour : punycodeMark.length = 4 := rfl
    have hlength := hbody.1.1
    omega

/-- Decimal digits are small letters of ASCII for a domain, and do not change its order. -/
theorem of_mem_toDigits {n : Nat} {c : Char} (hc : c ∈ Nat.toDigits 10 n) : c.toNat < 128 ∧ c.toLower = c ∧ c ≠ '.' ∧
    c ≠ 'x' ∧ (direction c == .right || direction c == .arabicDigit) = false := by
  have hall : ∀ d < 10, (Nat.digitChar d).toNat < 128 ∧ (Nat.digitChar d).toLower = Nat.digitChar d ∧
      Nat.digitChar d ≠ '.' ∧ Nat.digitChar d ≠ 'x' ∧
      (direction (Nat.digitChar d) == .right || direction (Nat.digitChar d) == .arabicDigit) = false := by decide +kernel
  obtain ⟨d, hd, rfl⟩ := exists_digitChar_of_mem_toDigits (by decide) hc
  exact hall d hd

private theorem all_ascii_toDigits (n : Nat) : (Nat.toDigits 10 n).all (·.toNat < 128) = true :=
  List.all_eq_true.2 fun _ hc => decide_eq_true (of_mem_toDigits hc).1

/-- A numeral is a label. -/
theorem isReadLabel_toDigits (n : Nat) : IsReadLabel (Nat.toDigits 10 n) := by
  refine ⟨fun c hc => ?_, fun hdot => (of_mem_toDigits hdot).2.2.1 rfl, compose_ascii fun c hc => (of_mem_toDigits hc).1,
    fun _ hstarts => ?_, fun hother => ?_⟩
  · rw [domainImage?_ascii (of_mem_toDigits hc).1, (of_mem_toDigits hc).2.1]
  · exact (of_mem_toDigits (hstarts.subset List.mem_cons_self)).2.2.2.1 rfl
  · rw [all_ascii_toDigits] at hother
    cases hother

/-- A number that is a host is a domain, of four labels. -/
theorem domain?_ipv4Text (n : Nat) : domain? (ipv4Text n) = some (ipv4Text n) := by
  have hlabelText (byte : Nat) : labelText (Nat.toDigits 10 byte) = Nat.toDigits 10 byte := if_pos (all_ascii_toDigits byte)
  have htext : ipv4Text n = Text.joinPieces '.' (((bytes n).map (Nat.toDigits 10)).map labelText) := by
    rw [List.map_map, show labelText ∘ Nat.toDigits 10 = Nat.toDigits 10 from funext hlabelText]
    exact ipv4Text_eq_joinPieces n
  have hplain : IsOf (isForbiddenInDomain · = false) (ipv4Text n) :=
    isOf_ipv4Text digitChar_not_forbidden (by decide +kernel) n
  have horder : keepOrder ((bytes n).map (Nat.toDigits 10)) = true := by
    refine if_neg (Bool.eq_false_iff.1 (List.any_eq_false.2 fun label hlabel => ?_))
    obtain ⟨byte, -, rfl⟩ := List.mem_map.1 hlabel
    exact Bool.eq_false_iff.1 (List.any_eq_false.2 fun c hc => Bool.eq_false_iff.1 (of_mem_toDigits hc).2.2.2.2)
  rw [htext] at hplain ⊢
  refine domain?_joinPieces (fun label hlabel => ?_) (List.cons_ne_nil _ _) (fun label hlabel hmark => ?_) horder hplain
  · obtain ⟨byte, -, rfl⟩ := List.mem_map.1 hlabel
    exact isReadLabel_toDigits byte
  · obtain ⟨byte, -, rfl⟩ := List.mem_map.1 hlabel
    rw [hlabelText] at hmark
    exact absurd rfl (of_mem_toDigits (hmark.subset List.mem_cons_self)).2.2.2.1

/-- Hosts without an `x` have no labels in Punycode. -/
theorem hasShortLabels_of_notMem {host : List Char} (hhost : 'x' ∉ host) : HasShortLabels host :=
  fun _ hlabel hmark => absurd (mem_of_mem_pieces hlabel (hmark.subset List.mem_cons_self)) hhost

private theorem digitChar_ne_x : ∀ d < 16, Nat.digitChar d ≠ 'x' := by decide

/-- A host in brackets has no labels in Punycode. -/
theorem hasShortLabels_bracketHost {text host : List Char} (hread : bracketHost text = .ok host) : HasShortLabels host := by
  unfold bracketHost at hread
  split at hread
  · cases hread
  split at hread
  · next address haddress =>
    cases hread
    obtain ⟨groups, -, rfl⟩ := Option.map_eq_some_iff.1 haddress
    have haddress : IsOf (· ≠ 'x') (ipv6Text groups) := isOf_ipv6Text digitChar_ne_x (by decide) groups
    exact hasShortLabels_of_notMem fun hmem =>
      (IsOf.cons (by decide) haddress).append (isOf_singleton (by decide)) 'x' hmem rfl
  · cases hread

private theorem webHost_plain {host : List Char} (hplain : IsOf (isForbiddenInDomain · = false) host) :
    (domain? host = none → webHost host = .error .invalidDomain) ∧
    (domain? host = some host → host ≠ [] → (endsInNumber host = true → ipv4? host = some host) →
      webHost host = .ok host) := by
  have hbracket (rest : List Char) : host ≠ '[' :: rest := by
    rintro rfl
    exact absurd (hplain '[' List.mem_cons_self) (by decide +kernel)
  unfold webHost
  split
  · next rest => exact absurd rfl (hbracket rest)
  · refine ⟨fun hnone => by rw [hnone], fun hself hne hnumber => ?_⟩
    rw [hself]
    split
    · next hnone => cases hnone
    · next hnil => exact absurd (Option.some.inj hnil) hne
    · next domain _ hdomain =>
      cases hdomain
      split
      · next hends => rw [hnumber hends]
      · rfl

/-- A host of the web is read as itself if its labels are short enough, and otherwise not at all. -/
theorem webHost_host {text host : List Char} (hhost : webHost text = .ok host) :
    (HasShortLabels host → webHost host = .ok host) ∧
    (¬HasShortLabels host → webHost host = .error .invalidDomain) := by
  unfold webHost at hhost
  split at hhost
  · exact ⟨fun _ => webHost_bracketHost hhost, fun hlong => absurd (hasShortLabels_bracketHost hhost) hlong⟩
  split at hhost
  · cases hhost
  · cases hhost
  · next domain hne hdomain =>
    split at hhost
    · split at hhost
      · next address haddress =>
        cases hhost
        obtain ⟨n, rfl⟩ := exists_ipv4Text haddress
        have hx : IsOf (· ≠ 'x') (ipv4Text n) := isOf_ipv4Text digitChar_ne_x (by decide) n
        have hself := domain?_ipv4Text n
        exact ⟨fun _ => (webHost_plain (isOf_domain hself)).2 hself (isHostText_ipv4Text n).ne_nil fun _ => ipv4?_ipv4Text n,
          fun hlong => absurd (hasShortLabels_of_notMem fun hmem => hx 'x' hmem rfl) hlong⟩
      · cases hhost
    · next hends =>
      cases hhost
      obtain ⟨hself, hrefused⟩ := domain?_domain hdomain
      have hplain := webHost_plain (isOf_domain hdomain)
      exact ⟨fun hshort => hplain.2 (hself hshort) hne fun hnumber => absurd hnumber hends,
        fun hlong => hplain.1 (hrefused hlong)⟩

end PageRouter.Url
