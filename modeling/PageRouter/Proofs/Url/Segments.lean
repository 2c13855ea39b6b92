import PageRouter.Url.Path

namespace PageRouter

namespace Text

private theorem exists_encode_eq_cons (c : Char) :
    ∃ b rest, encode [c] = b :: rest ∧ (b.toNat = c.toNat ∨ 128 ≤ b.toNat) := by
  have hencode : encode [c] = String.utf8EncodeChar c := by simp [encode]
  rw [hencode, String.utf8EncodeChar]
  split
  · next hascii =>
    refine ⟨_, _, rfl, .inl ?_⟩
    rw [UInt8.toNat_ofNat', Char.toNat, Nat.mod_eq_of_lt (by omega)]
  · split
    · refine ⟨_, _, rfl, .inr ?_⟩
      rw [UInt8.toNat_ofNat']
      omega
    · split
      · refine ⟨_, _, rfl, .inr ?_⟩
        rw [UInt8.toNat_ofNat']
        omega
      · refine ⟨_, _, rfl, .inr ?_⟩
        rw [UInt8.toNat_ofNat']
        omega

private theorem toLower_hexDigit_eq_two : ∀ n : Fin 16, (hexDigit n).toLower = '2' → n = 2 := by
  decide +kernel

private theorem toLower_hexDigit_eq_e : ∀ n : Fin 16, (hexDigit n).toLower = 'e' → n = 14 := by
  decide +kernel

/-- The byte whose escape reads `%2e` is the dot. -/
theorem eq_dot_of_percentEscape {b : UInt8} (hhigh : (hexDigit (b.toNat / 16)).toLower = '2')
    (hlow : (hexDigit (b.toNat % 16)).toLower = 'e') : b.toNat = '.'.toNat := by
  have hhigh := toLower_hexDigit_eq_two ⟨b.toNat / 16, by have := b.toNat_lt; omega⟩ hhigh
  have hlow := toLower_hexDigit_eq_e ⟨b.toNat % 16, Nat.mod_lt _ (by decide)⟩ hlow
  have hhigh : b.toNat / 16 = 2 := congrArg Fin.val hhigh
  have hlow : b.toNat % 16 = 14 := congrArg Fin.val hlow
  change b.toNat = 46
  omega

private theorem slash_notMem_percentEscape (b : UInt8) : '/' ∉ percentEscape b := by
  have hdigit : ∀ n : Fin 16, hexDigit n ≠ '/' := by decide +kernel
  have hhigh := hdigit ⟨b.toNat / 16, by have := b.toNat_lt; omega⟩
  have hlow := hdigit ⟨b.toNat % 16, Nat.mod_lt _ (by decide)⟩
  simp [percentEscape, hhigh.symm, hlow.symm]

end Text

namespace Url

/-- A text is encoded character by character. -/
theorem encodePart_cons (isEncoded : Char → Bool) (c : Char) (text : List Char) :
    encodePart isEncoded (c :: text) =
      (if isEncoded c then (Text.encode [c]).flatMap Text.percentEscape else [c]) ++ encodePart isEncoded text := by
  simp [encodePart]

/-- What need not be encoded stays as it is. -/
theorem encodePart_eq_self {isEncoded : Char → Bool} {text : List Char}
    (hplain : ∀ c ∈ text, isEncoded c = false) : encodePart isEncoded text = text := by
  induction text with
  | nil => rfl
  | cons c text ih =>
    have hmore := ih fun other hother => hplain other (List.mem_cons_of_mem _ hother)
    rw [encodePart_cons, hplain c List.mem_cons_self, hmore]
    rfl

/-- Encoding writes no slash. -/
theorem slash_notMem_encodePart {isEncoded : Char → Bool} {text : List Char} (hslash : '/' ∉ text) :
    '/' ∉ encodePart isEncoded text := by
  rw [encodePart, List.mem_flatMap]
  rintro ⟨c, hc, hmem⟩
  split at hmem
  · obtain ⟨b, -, hb⟩ := List.mem_flatMap.1 hmem
    exact Text.slash_notMem_percentEscape b hb
  · exact hslash (List.mem_singleton.1 hmem ▸ hc)

/-- Encoding leaves no text empty. -/
theorem encodePart_ne_nil {isEncoded : Char → Bool} {text : List Char} (hne : text ≠ []) :
    encodePart isEncoded text ≠ [] := by
  cases text with
  | nil => exact absurd rfl hne
  | cons c text =>
    rw [encodePart_cons]
    split
    · obtain ⟨b, rest, hencode, -⟩ := Text.exists_encode_eq_cons c
      simp [hencode, Text.percentEscape]
    · simp

/-- Dots in a row, each as it is or percent-encoded, in small letters. -/
def dots (spelling : List Bool) : List Char :=
  spelling.flatMap fun escaped => if escaped then ['%', '2', 'e'] else ['.']

/-- A text whose encoding starts with a character other than the percent sign starts with that character. -/
theorem exists_cons_of_encodePart {text rest : List Char} {d : Char} (hd : d ≠ '%')
    (hencoded : (encodePart isEncodedInPath text).map Char.toLower = d :: rest) :
    ∃ c more, text = c :: more ∧ isEncodedInPath c = false ∧
      (encodePart isEncodedInPath more).map Char.toLower = rest := by
  cases text with
  | nil => cases hencoded
  | cons c more =>
    rw [encodePart_cons] at hencoded
    cases hplain : isEncodedInPath c with
    | false =>
      rw [hplain] at hencoded
      exact ⟨c, more, rfl, hplain, (List.cons.inj hencoded).2⟩
    | true =>
      obtain ⟨b, bytes, hencode, -⟩ := Text.exists_encode_eq_cons c
      rw [hplain, if_pos rfl, hencode] at hencoded
      exact absurd (List.cons.inj hencoded).1.symm hd

/-- A percent sign in front of what reads as the code of a dot stands for itself. -/
theorem exists_percent_of_encodePart {text rest : List Char}
    (hencoded : (encodePart isEncodedInPath text).map Char.toLower = '%' :: '2' :: 'e' :: rest) :
    ∃ c more, text = c :: more ∧ isEncodedInPath c = false ∧
      (encodePart isEncodedInPath more).map Char.toLower = '2' :: 'e' :: rest := by
  cases text with
  | nil => cases hencoded
  | cons c more =>
    rw [encodePart_cons] at hencoded
    cases hplain : isEncodedInPath c with
    | false =>
      rw [hplain] at hencoded
      exact ⟨c, more, rfl, hplain, (List.cons.inj hencoded).2⟩
    | true =>
      obtain ⟨b, bytes, hencode, hfirst⟩ := Text.exists_encode_eq_cons c
      rw [hplain, if_pos rfl, hencode] at hencoded
      obtain ⟨-, hcode⟩ := List.cons.inj hencoded
      obtain ⟨hhigh, hcode⟩ := List.cons.inj hcode
      obtain ⟨hlow, -⟩ := List.cons.inj hcode
      have hdot : b.toNat = '.'.toNat := Text.eq_dot_of_percentEscape hhigh hlow
      -- A dot does not have to be encoded.
      rcases hfirst with hascii | hbeyond
      · rw [Char.toNat_inj.1 (hascii.symm.trans hdot)] at hplain
        exact absurd hplain (by decide +kernel)
      · rw [hdot] at hbeyond
        exact absurd hbeyond (by decide)

/-- A text is encoded as dots only if nothing in it has to be encoded. -/
theorem forall_plain_of_dots {spelling : List Bool} : ∀ {text : List Char},
    (encodePart isEncodedInPath text).map Char.toLower = dots spelling → ∀ c ∈ text, isEncodedInPath c = false := by
  induction spelling with
  | nil =>
    intro text hdots c hc
    have hne : text ≠ [] := List.ne_nil_of_mem hc
    exact absurd (List.map_eq_nil_iff.1 hdots) (encodePart_ne_nil hne)
  | cons escaped spelling ih =>
    intro text hdots
    cases escaped with
    | false =>
      obtain ⟨c, more, rfl, hplain, hmore⟩ := exists_cons_of_encodePart (by decide) hdots
      exact List.forall_mem_cons.2 ⟨hplain, ih hmore⟩
    | true =>
      obtain ⟨percent, text, rfl, hpercent, hdots⟩ := exists_percent_of_encodePart hdots
      obtain ⟨two, text, rfl, htwo, hdots⟩ := exists_cons_of_encodePart (by decide) hdots
      obtain ⟨e, text, rfl, he, hmore⟩ := exists_cons_of_encodePart (by decide) hdots
      simp only [List.forall_mem_cons]
      exact ⟨hpercent, htwo, he, ih hmore⟩

/-- A segment stands for one dot, however that is written. -/
theorem isSingleDot_iff {segment : List Char} :
    isSingleDot segment = true ↔ ∃ a, segment.map Char.toLower = dots [a] := by
  simp [isSingleDot, dots]

/-- A segment stands for two dots, however these are written. -/
theorem isDoubleDot_iff {segment : List Char} :
    isDoubleDot segment = true ↔ ∃ a b, segment.map Char.toLower = dots [a, b] := by
  simp [isDoubleDot, dots, or_assoc]

/-- A segment that stays in a path: it stands for no dots. -/
def Stays (segment : List Char) : Prop :=
  isSingleDot segment = false ∧ isDoubleDot segment = false

/-- Nothing that is encoded turns into a dot, so that a segment that stands for no dots stays what it is. -/
theorem Stays.encodePart {segment : List Char} (h : Stays segment) :
    Stays (encodePart isEncodedInPath segment) := by
  have hsame {spelling : List Bool}
      (hdots : (Url.encodePart isEncodedInPath segment).map Char.toLower = dots spelling) :
      segment.map Char.toLower = dots spelling := by
    rwa [encodePart_eq_self (forall_plain_of_dots hdots)] at hdots
  refine ⟨Bool.eq_false_iff.2 fun hsingle => ?_, Bool.eq_false_iff.2 fun hdouble => ?_⟩
  · obtain ⟨a, hdots⟩ := isSingleDot_iff.1 hsingle
    exact Bool.eq_false_iff.1 h.1 (isSingleDot_iff.2 ⟨a, hsame hdots⟩)
  · obtain ⟨a, b, hdots⟩ := isDoubleDot_iff.1 hdouble
    exact Bool.eq_false_iff.1 h.2 (isDoubleDot_iff.2 ⟨a, b, hsame hdots⟩)

/-- A text is encoded piece by piece. -/
theorem encodePart_append (isEncoded : Char → Bool) (first second : List Char) :
    encodePart isEncoded (first ++ second) = encodePart isEncoded first ++ encodePart isEncoded second :=
  List.flatMap_append

/-- Pieces are encoded one by one, if what stands between them is not. -/
theorem encodePart_joinPieces {isEncoded : Char → Bool} {separator : Char} (hplain : isEncoded separator = false)
    (pieces : List (List Char)) :
    encodePart isEncoded (Text.joinPieces separator pieces) =
      Text.joinPieces separator (pieces.map (encodePart isEncoded)) := by
  induction pieces with
  | nil => rfl
  | cons piece more ih =>
    cases more with
    | nil => rfl
    | cons next more =>
      rw [Text.joinPieces, encodePart_append, encodePart_cons, hplain, ih]
      · rfl
      · exact List.cons_ne_nil _ _

/-- A segment that stays is written down, and a slash after it if there is one. -/
theorem addSegment_web {trail segment : List Char} (closed : Bool) (hbreaks : ∀ c ∈ segment, isBreak c = false)
    (hstays : Stays segment) : addSegment .web trail segment closed =
      (if closed then ['/'] else []) ++ (encodePart isEncodedInPath segment).reverse ++ trail := by
  have hwhole : dropBreaks segment = segment := List.filter_eq_self.2 fun c hc => by simp [hbreaks c hc]
  obtain ⟨hsingle, hdouble⟩ := hstays.encodePart
  rw [addSegment, hwhole, hsingle, hdouble]
  rfl

/-- Segments that stay are written down one after the other, with slashes between them. -/
theorem addSegments_web {segments : List (List Char)} (hne : segments ≠ []) (trail : List Char)
    (hsegments : ∀ segment ∈ segments, (∀ c ∈ segment, isBreak c = false) ∧ Stays segment) :
    (addSegments .web trail segments).reverse =
      trail.reverse ++ Text.joinPieces '/' (segments.map (encodePart isEncodedInPath)) := by
  induction segments generalizing trail with
  | nil => exact absurd rfl hne
  | cons segment more ih =>
    obtain ⟨⟨hbreaks, hstays⟩, hmore⟩ := List.forall_mem_cons.1 hsegments
    cases more with
    | nil =>
      rw [addSegments, addSegment_web false hbreaks hstays]
      simp [Text.joinPieces]
    | cons next more =>
      rw [addSegments, ih (List.cons_ne_nil _ _) _ hmore, addSegment_web true hbreaks hstays]
      · simp [Text.joinPieces]
      · exact List.cons_ne_nil _ _

/-- The characters of a piece are characters of the text. -/
theorem mem_of_mem_pieces {separator c : Char} {text piece : List Char}
    (hpiece : piece ∈ Text.pieces separator text) (hc : c ∈ piece) : c ∈ text := by
  rw [← Text.joinPieces_pieces separator text]
  generalize Text.pieces separator text = pieces at hpiece
  induction pieces with
  | nil => cases hpiece
  | cons first more ih =>
    cases more with
    | nil => exact List.mem_singleton.1 hpiece ▸ hc
    | cons next more =>
      rw [Text.joinPieces, List.mem_append, List.mem_cons]
      · rcases List.mem_cons.1 hpiece with rfl | hmore
        · exact .inl hc
        · exact .inr (.inr (ih hmore))
      · exact List.cons_ne_nil _ _

/-- A path of segments that stay is written down character by character. -/
theorem extendPath_web {text : List Char} (hbreaks : ∀ c ∈ text, isBreak c = false) (hback : '\\' ∉ text)
    (hstays : ∀ segment ∈ Text.pieces '/' text, Stays segment) :
    extendPath .web ['/'] text = '/' :: encodePart isEncodedInPath text := by
  have hslashes : (text.map fun c => if c = '\\' then '/' else c) = text := by
    refine (List.map_congr_left fun c hc => ?_).trans (List.map_id text)
    have hne : c ≠ '\\' := fun heq => hback (heq ▸ hc)
    exact if_neg hne
  have hsegments : pathSegments .web text = Text.pieces '/' text :=
    congrArg (Text.pieces '/') hslashes
  have hadded := addSegments_web (Text.pieces_ne_nil '/' text) ['/'] fun segment hsegment =>
    ⟨fun c hc => hbreaks c (mem_of_mem_pieces hsegment hc), hstays segment hsegment⟩
  rw [← encodePart_joinPieces (by decide +kernel), Text.joinPieces_pieces] at hadded
  change (addSegments .web ['/'] (pathSegments .web text)).reverse = _
  rw [hsegments, hadded]
  rfl

end Url

end PageRouter
