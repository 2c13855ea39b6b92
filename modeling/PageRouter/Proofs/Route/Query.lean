import PageRouter.Proofs.Text.Utf8
import PageRouter.Route.Query

namespace PageRouter

namespace Text

private theorem percentDecode_escape {high low : UInt8} {h l : Nat} (hhigh : hexByteValue? high = some h)
    (hlow : hexByteValue? low = some l) (rest : List UInt8) :
    percentDecode (0x25 :: high :: low :: rest) = UInt8.ofNat (h * 16 + l) :: percentDecode rest := by
  rw [percentDecode, if_pos rfl, hhigh, hlow]

/-- The byte of a hexadecimal digit. -/
def digitByte (n : Nat) : UInt8 :=
  UInt8.ofNat (hexDigit n).toNat

private theorem of_digitByte {n : Nat} (hn : n < 16) :
    encode [hexDigit n] = [digitByte n] ∧ hexByteValue? (digitByte n) = some n ∧ digitByte n ≠ 0x2B := by
  have hdigit : ∀ n : Fin 16, encode [hexDigit n] = [digitByte n] ∧ hexByteValue? (digitByte n) = some n.val ∧
      digitByte n ≠ 0x2B := by decide +kernel
  exact hdigit ⟨n, hn⟩

end Text

namespace Query

/-- The characters that names and values are written with. -/
def isFormChar (c : Char) : Bool :=
  c.isAlphanum || "*-._+%".toList.contains c

/-- A plus sign stands for a space. -/
def spaceOfPlus (b : UInt8) : UInt8 :=
  if b = 0x2B then 0x20 else b

/-- The bytes that a text stands for in the form encoding. -/
def formBytes (text : List Char) : List UInt8 :=
  Text.percentDecode ((Text.encode text).map spaceOfPlus)

private theorem spaceOfPlus_of_ne {b : UInt8} (hb : b ≠ 0x2B) : spaceOfPlus b = b :=
  if_neg hb

/-- Reading a text is reading the bytes that it stands for. -/
theorem decodeText_eq (text : List Char) : decodeText text = String.ofList (Text.decodeLossy (formBytes text)) :=
  rfl

/-- A byte that is written as it is belongs to ASCII, and is neither a plus nor a percent sign. -/
theorem of_isPlain {b : UInt8} (hb : isPlain b = true) :
    b.toNat < 0x80 ∧ b ≠ 0x2B ∧ b ≠ 0x25 ∧ isFormChar (Char.ofNat b.toNat) = true := by
  have hplain : ∀ n : Fin 256, isPlain (UInt8.ofNat n) = true → n.val < 0x80 ∧ UInt8.ofNat n ≠ 0x2B ∧
      UInt8.ofNat n ≠ 0x25 ∧ isFormChar (Char.ofNat n) = true := by decide +kernel
  have hbyte := hplain ⟨b.toNat, b.toNat_lt⟩
  rw [UInt8.ofNat_toNat] at hbyte
  exact hbyte hb

/-- A byte is written with characters that separate nothing. -/
theorem isFormChar_of_mem_encodeByte {b : UInt8} {c : Char} (hc : c ∈ encodeByte b) : isFormChar c = true := by
  have hdigit : ∀ n : Fin 16, isFormChar (Text.hexDigit n) = true := by decide +kernel
  rw [encodeByte] at hc
  split at hc
  · next hplain =>
    rw [List.mem_singleton.1 hc]
    exact (of_isPlain hplain).2.2.2
  split at hc
  · rw [List.mem_singleton.1 hc]
    decide
  · rw [Text.percentEscape] at hc
    rcases List.mem_cons.1 hc with rfl | hc
    · decide
    rcases List.mem_cons.1 hc with rfl | hc
    · exact hdigit ⟨b.toNat / 16, by have := b.toNat_lt; omega⟩
    · rw [List.mem_singleton.1 hc]
      exact hdigit ⟨b.toNat % 16, Nat.mod_lt _ (by decide)⟩

/-- Nothing that separates pairs, or names from values, is in a name or a value as it is written. -/
theorem notMem_encodeText {c : Char} (hc : isFormChar c = false) (text : String) : c ∉ encodeText text := by
  rw [encodeText, List.mem_flatMap]
  rintro ⟨b, -, hmem⟩
  rw [isFormChar_of_mem_encodeByte hmem] at hc
  cases hc

private theorem notMem_encodePair {c : Char} (hc : isFormChar c = false) (hequals : c ≠ '=') (pair : String × String) :
    c ∉ encodePair pair := by
  rw [encodePair, List.mem_append, List.mem_cons, not_or, not_or]
  exact ⟨notMem_encodeText hc _, hequals, notMem_encodeText hc _⟩

private theorem formBytes_percentEscape_append (b : UInt8) (text : List Char) :
    formBytes (Text.percentEscape b ++ text) = b :: formBytes text := by
  have hbound : b.toNat / 16 < 16 := by
    have := b.toNat_lt
    omega
  obtain ⟨hhigh, hhighValue, hhighPlus⟩ := Text.of_digitByte hbound
  obtain ⟨hlow, hlowValue, hlowPlus⟩ := Text.of_digitByte (n := b.toNat % 16) (Nat.mod_lt _ (by decide))
  have hpercent : Text.encode ['%'] = [0x25] := by decide +kernel
  have hbyte : UInt8.ofNat (b.toNat / 16 * 16 + b.toNat % 16) = b := by
    rw [Nat.div_add_mod', UInt8.ofNat_toNat]
  have hescape : (Text.encode (Text.percentEscape b)).map spaceOfPlus =
      [0x25, Text.digitByte (b.toNat / 16), Text.digitByte (b.toNat % 16)] := by
    rw [Text.percentEscape, Text.encode_cons, Text.encode_cons (Text.hexDigit _), hpercent, hhigh, hlow,
      List.map_append, List.map_append, List.map_singleton, List.map_singleton, List.map_singleton,
      spaceOfPlus_of_ne (by decide), spaceOfPlus_of_ne hhighPlus, spaceOfPlus_of_ne hlowPlus]
    rfl
  rw [formBytes, Text.encode_append, List.map_append, hescape, List.cons_append, List.cons_append,
    List.singleton_append, Text.percentDecode_escape hhighValue hlowValue, hbyte, formBytes]

/-- A byte is read from the characters that it is written with. -/
theorem formBytes_encodeByte_append (b : UInt8) (text : List Char) :
    formBytes (encodeByte b ++ text) = b :: formBytes text := by
  rw [encodeByte]
  split
  · next hplain =>
    obtain ⟨hascii, hplus, hpercent, -⟩ := of_isPlain hplain
    rw [formBytes, Text.encode_append, Text.encode_ofNat hascii, List.map_append, List.map_singleton,
      List.singleton_append, spaceOfPlus_of_ne hplus, Text.percentDecode_cons_of_ne hpercent, formBytes]
  split
  · next hspace =>
    have hplus : (Text.encode ['+']).map spaceOfPlus = [0x20] := by decide +kernel
    rw [formBytes, Text.encode_append, List.map_append, hplus, List.singleton_append, hspace,
      Text.percentDecode_cons_of_ne (by decide), formBytes]
  · exact formBytes_percentEscape_append b text

private theorem formBytes_flatMap_encodeByte (bytes : List UInt8) : formBytes (bytes.flatMap encodeByte) = bytes := by
  induction bytes with
  | nil => rfl
  | cons b bytes ih => rw [List.flatMap_cons, formBytes_encodeByte_append, ih]

/-- A name or a value is read as it was. -/
theorem decodeText_encodeText (text : String) : decodeText (encodeText text) = text := by
  rw [decodeText_eq, encodeText, formBytes_flatMap_encodeByte, Text.decodeLossy_encode, String.ofList_toList]

/-- A pair is read as it was, since its name holds no equals sign. -/
theorem decodePair_encodePair (pair : String × String) : decodePair (encodePair pair) = pair := by
  have hequals : '=' ∉ encodeText pair.1 := notMem_encodeText (by decide) _
  rw [decodePair, encodePair, Text.cutAtFirst_append hequals]
  dsimp only
  rw [decodeText_encodeText, decodeText_encodeText]

/-- The pairs in a query without its question mark. -/
def parseBody (body : List Char) : List (String × String) :=
  ((Text.pieces '&' body).filter (!·.isEmpty)).map decodePair

/-- A question mark in front of a query is no part of its pairs. -/
theorem parse_question (body : List Char) : parse (String.ofList ('?' :: body)) = parseBody body := by
  rw [parse, String.toList_ofList]
  rfl

private theorem parse_of_notMem {body : List Char} (hbody : '?' ∉ body) :
    parse (String.ofList body) = parseBody body := by
  rw [parse, String.toList_ofList]
  cases body with
  | nil => rfl
  | cons c body =>
    have hc : c ≠ '?' := fun h => hbody (h ▸ List.mem_cons_self)
    split
    · next heq => exact absurd (List.cons.inj heq).1 hc
    · rfl

/-- What is in joined pieces, but for the separator, is in one of them. -/
theorem mem_of_mem_joinPieces {separator c : Char} {pieces : List (List Char)} (hc : c ≠ separator)
    (hmem : c ∈ Text.joinPieces separator pieces) : ∃ piece ∈ pieces, c ∈ piece := by
  induction pieces with
  | nil => cases hmem
  | cons piece more ih =>
    cases more with
    | nil => exact ⟨piece, List.mem_cons_self, hmem⟩
    | cons second more =>
      rw [Text.joinPieces, List.mem_append, List.mem_cons] at hmem
      · rcases hmem with hpiece | rfl | hmore
        · exact ⟨piece, List.mem_cons_self, hpiece⟩
        · exact absurd rfl hc
        · obtain ⟨other, hother, hmem⟩ := ih hmore
          exact ⟨other, List.mem_cons_of_mem _ hother, hmem⟩
      · exact List.cons_ne_nil second more

/-- A written query needs no question mark to be told from another one, as it holds none. -/
theorem question_notMem_encode (pairs : List (String × String)) : '?' ∉ Text.joinPieces '&' (pairs.map encodePair) := by
  intro hmem
  obtain ⟨piece, hpiece, hc⟩ := mem_of_mem_joinPieces (by decide) hmem
  obtain ⟨pair, -, rfl⟩ := List.mem_map.1 hpiece
  exact notMem_encodePair (by decide) (by decide) pair hc

/-- The pieces of a written query are its pairs, so that they are read from it. -/
theorem parseBody_encode (pairs : List (String × String)) :
    parseBody (Text.joinPieces '&' (pairs.map encodePair)) = pairs := by
  cases pairs with
  | nil => rfl
  | cons pair more =>
    have hseparator : ∀ piece ∈ (pair :: more).map encodePair, '&' ∉ piece := by
      rw [List.forall_mem_map]
      exact fun other _ => notMem_encodePair (by decide) (by decide) other
    -- The equals sign keeps even a pair of empty texts from being an empty piece.
    have hfull : ∀ piece ∈ (pair :: more).map encodePair, (!piece.isEmpty) = true := by
      rw [List.forall_mem_map]
      intro other _
      simp [encodePair]
    rw [parseBody, List.map_cons, Text.pieces_joinPieces hseparator, ← List.map_cons, List.filter_eq_self.2 hfull,
      List.map_map]
    exact List.map_id'' decodePair_encodePair _

/-- Every list of pairs can be written, and is read from what was written, with or without a question mark in front.
Every text can be read, and the pairs in it are read again when they are written. -/
theorem parse_encode :
    (∀ pairs : List (String × String), parse (encode pairs) = pairs ∧ parse ("?" ++ encode pairs) = pairs) ∧
      ∀ search : String, parse (encode (parse search)) = parse search := by
  have hread : ∀ pairs : List (String × String), parse (encode pairs) = pairs := by
    intro pairs
    rw [encode, parse_of_notMem (question_notMem_encode pairs), parseBody_encode]
  refine ⟨fun pairs => ⟨hread pairs, ?_⟩, fun search => hread (parse search)⟩
  have hquestion : "?" ++ encode pairs = String.ofList ('?' :: Text.joinPieces '&' (pairs.map encodePair)) := by
    rw [← List.singleton_append, String.ofList_append, encode]
  rw [hquestion, parse_question, parseBody_encode]

end Query

end PageRouter
