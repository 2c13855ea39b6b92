import PageRouter.Text.Percent
import PageRouter.Text.Utf8

namespace PageRouter.Text

private theorem between_iff {low high b : UInt8} :
    (low ≤ b && b ≤ high) = true ↔ low.toNat ≤ b.toNat ∧ b.toNat ≤ high.toNat := by
  rw [Bool.and_eq_true, decide_eq_true_iff, decide_eq_true_iff, UInt8.le_iff_toNat_le, UInt8.le_iff_toNat_le]

private theorem between_eq_false_of_lt {low high b : UInt8} (hb : high.toNat < b.toNat) :
    (low ≤ b && b ≤ high) = false := by
  rw [← Bool.not_eq_true, between_iff]
  omega

/-- A continuation byte has its first two bits set to one and zero. -/
theorem isContinuation_iff {b : UInt8} : isContinuation b = true ↔ 0x80 ≤ b.toNat ∧ b.toNat ≤ 0xBF :=
  between_iff

/-- A second byte is a continuation byte, and four lead bytes leave it fewer values. -/
theorem isSecond_iff {lead b : UInt8} :
    isSecond lead b = true ↔ (0x80 ≤ b.toNat ∧ b.toNat ≤ 0xBF) ∧ (lead.toNat = 0xE0 → 0xA0 ≤ b.toNat) ∧
      (lead.toNat = 0xED → b.toNat ≤ 0x9F) ∧ (lead.toNat = 0xF0 → 0x90 ≤ b.toNat) ∧
      (lead.toNat = 0xF4 → b.toNat ≤ 0x8F) := by
  simp only [isSecond, beq_iff_eq, ← UInt8.toNat_inj, UInt8.reduceToNat]
  by_cases he0 : lead.toNat = 0xE0
  · rw [if_pos he0, between_iff]
    simp only [UInt8.reduceToNat]
    omega
  by_cases hed : lead.toNat = 0xED
  · rw [if_neg he0, if_pos hed, between_iff]
    simp only [UInt8.reduceToNat]
    omega
  by_cases hf0 : lead.toNat = 0xF0
  · rw [if_neg he0, if_neg hed, if_pos hf0, between_iff]
    simp only [UInt8.reduceToNat]
    omega
  by_cases hf4 : lead.toNat = 0xF4
  · rw [if_neg he0, if_neg hed, if_neg hf0, if_pos hf4, between_iff]
    simp only [UInt8.reduceToNat]
    omega
  · rw [if_neg he0, if_neg hed, if_neg hf0, if_neg hf4, isContinuation_iff]
    omega

/-- A byte of ASCII is read as its character. -/
theorem decodeLossy_one {lead : UInt8} (hlead : lead.toNat < 0x80) (rest : List UInt8) :
    decodeLossy (lead :: rest) = Char.ofNat lead.toNat :: decodeLossy rest := by
  have hone : lead < 0x80 := UInt8.lt_iff_toNat_lt.2 hlead
  rw [decodeLossy.eq_def]
  simp only [hone, if_true]

private theorem not_lt_ascii {lead : UInt8} (hlead : 0x80 ≤ lead.toNat) : ¬lead < 0x80 := by
  rw [UInt8.lt_iff_toNat_lt]
  exact Nat.not_lt.2 hlead

/-- A lead byte and one continuation byte are read as a character. -/
theorem decodeLossy_two {lead b : UInt8} (hlow : 0xC2 ≤ lead.toNat) (hhigh : lead.toNat ≤ 0xDF)
    (hb : isContinuation b = true) (rest : List UInt8) :
    decodeLossy (lead :: b :: rest) =
      Char.ofNat (lead.toNat % 32 * 64 + payload b) :: decodeLossy rest := by
  have hone : ¬lead < 0x80 := not_lt_ascii (by omega)
  have htwo : (0xC2 ≤ lead && lead ≤ 0xDF) = true := between_iff.2 ⟨hlow, hhigh⟩
  rw [decodeLossy.eq_def]
  simp only [hone, htwo, hb, if_true, if_false]

/-- A lead byte and two fitting ones are read as a character. -/
theorem decodeLossy_three {lead b c : UInt8} (hlow : 0xE0 ≤ lead.toNat) (hhigh : lead.toNat ≤ 0xEF)
    (hb : isSecond lead b = true) (hc : isContinuation c = true) (rest : List UInt8) :
    decodeLossy (lead :: b :: c :: rest) =
      Char.ofNat (lead.toNat % 16 * 4096 + payload b * 64 + payload c) :: decodeLossy rest := by
  have hone : ¬lead < 0x80 := not_lt_ascii (by omega)
  have htwo : (0xC2 ≤ lead && lead ≤ 0xDF) = false := between_eq_false_of_lt (Nat.lt_of_lt_of_le (by decide) hlow)
  have hthree : (0xE0 ≤ lead && lead ≤ 0xEF) = true := between_iff.2 ⟨hlow, hhigh⟩
  rw [decodeLossy.eq_def]
  simp only [hone, htwo, hthree, hb, hc, if_true, if_false, Bool.false_eq_true]

/-- A lead byte and three fitting ones are read as a character. -/
theorem decodeLossy_four {lead b c d : UInt8} (hlow : 0xF0 ≤ lead.toNat) (hhigh : lead.toNat ≤ 0xF4)
    (hb : isSecond lead b = true) (hc : isContinuation c = true) (hd : isContinuation d = true)
    (rest : List UInt8) :
    decodeLossy (lead :: b :: c :: d :: rest) =
      Char.ofNat (lead.toNat % 8 * 262144 + payload b * 4096 + payload c * 64 + payload d) ::
        decodeLossy rest := by
  have hone : ¬lead < 0x80 := not_lt_ascii (by omega)
  have htwo : (0xC2 ≤ lead && lead ≤ 0xDF) = false := between_eq_false_of_lt (Nat.lt_of_lt_of_le (by decide) hlow)
  have hthree : (0xE0 ≤ lead && lead ≤ 0xEF) = false := between_eq_false_of_lt (Nat.lt_of_lt_of_le (by decide) hlow)
  have hfour : (0xF0 ≤ lead && lead ≤ 0xF4) = true := between_iff.2 ⟨hlow, hhigh⟩
  rw [decodeLossy.eq_def]
  simp only [hone, htwo, hthree, hfour, hb, hc, hd, if_true, if_false, Bool.false_eq_true]

private theorem toNat_lead (n bound mark : Nat) (hn : n < bound) (hmark : n + mark < 256) :
    (UInt8.ofNat (n % bound + mark)).toNat = n + mark := by
  rw [UInt8.toNat_ofNat', Nat.mod_eq_of_lt hn, Nat.mod_eq_of_lt hmark]

private theorem toNat_continuation (n : Nat) : (UInt8.ofNat (n % 64 + 128)).toNat = n % 64 + 128 := by
  rw [UInt8.toNat_ofNat', Nat.mod_eq_of_lt (by omega)]

private theorem isContinuation_continuation (n : Nat) : isContinuation (UInt8.ofNat (n % 64 + 128)) = true := by
  rw [isContinuation_iff, toNat_continuation]
  omega

private theorem payload_continuation (n : Nat) : payload (UInt8.ofNat (n % 64 + 128)) = n % 64 := by
  rw [payload, toNat_continuation]
  omega

/-- A character is read from its bytes, whatever follows them. -/
theorem decodeLossy_encodeChar (c : Char) (rest : List UInt8) :
    decodeLossy (String.utf8EncodeChar c ++ rest) = c :: decodeLossy rest := by
  have hvalid : c.val.toNat < 0xD800 ∨ 0xDFFF < c.val.toNat ∧ c.val.toNat < 0x110000 := c.valid
  have hself : Char.ofNat c.val.toNat = c := Char.ofNat_toNat c
  rw [String.utf8EncodeChar]
  split
  · next hone =>
    have hlead : (UInt8.ofNat c.val.toNat).toNat = c.val.toNat := by
      rw [UInt8.toNat_ofNat', Nat.mod_eq_of_lt (by omega)]
    rw [List.singleton_append, decodeLossy_one (by omega), hlead, hself]
  split
  · next hone htwo =>
    have hlead := toNat_lead (c.val.toNat / 64) 32 192 (by omega) (by omega)
    have hpoint : (c.val.toNat / 64 + 192) % 32 * 64 + c.val.toNat % 64 = c.val.toNat := by omega
    rw [List.cons_append, List.singleton_append,
      decodeLossy_two (by omega) (by omega) (isContinuation_continuation _), payload_continuation, hlead, hpoint,
      hself]
  split
  · next hone htwo hthree =>
    have hlead := toNat_lead (c.val.toNat / 4096) 16 224 (by omega) (by omega)
    -- Overlong forms and surrogates are the second bytes that the first one leaves out.
    have hsecond : isSecond (UInt8.ofNat (c.val.toNat / 4096 % 16 + 224))
        (UInt8.ofNat (c.val.toNat / 64 % 64 + 128)) = true := by
      rw [isSecond_iff, hlead, toNat_continuation]
      omega
    have hpoint : (c.val.toNat / 4096 + 224) % 16 * 4096 + c.val.toNat / 64 % 64 * 64 + c.val.toNat % 64 =
        c.val.toNat := by omega
    rw [List.cons_append, List.cons_append, List.singleton_append,
      decodeLossy_three (by omega) (by omega) hsecond (isContinuation_continuation _), payload_continuation,
      payload_continuation, hlead, hpoint, hself]
  · next hone htwo hthree =>
    have hlead := toNat_lead (c.val.toNat / 262144) 8 240 (by omega) (by omega)
    have hsecond : isSecond (UInt8.ofNat (c.val.toNat / 262144 % 8 + 240))
        (UInt8.ofNat (c.val.toNat / 4096 % 64 + 128)) = true := by
      rw [isSecond_iff, hlead, toNat_continuation]
      omega
    have hpoint : (c.val.toNat / 262144 + 240) % 8 * 262144 + c.val.toNat / 4096 % 64 * 4096 +
        c.val.toNat / 64 % 64 * 64 + c.val.toNat % 64 = c.val.toNat := by omega
    rw [List.cons_append, List.cons_append, List.cons_append, List.singleton_append,
      decodeLossy_four (by omega) (by omega) hsecond (isContinuation_continuation _)
        (isContinuation_continuation _), payload_continuation, payload_continuation, payload_continuation, hlead,
      hpoint, hself]

/-- Text that was written as bytes is read as it was, so that replacement characters only come from bytes that no text
was written as. -/
theorem decodeLossy_encode (text : List Char) : decodeLossy (encode text) = text := by
  induction text with
  | nil => rfl
  | cons c text ih =>
    rw [encode] at ih ⊢
    rw [List.flatMap_cons, decodeLossy_encodeChar, ih]

/-- Text is written piece by piece. -/
theorem encode_append (before after : List Char) : encode (before ++ after) = encode before ++ encode after :=
  List.flatMap_append

/-- Text is written character by character. -/
theorem encode_cons (c : Char) (text : List Char) : encode (c :: text) = encode [c] ++ encode text :=
  encode_append [c] text

/-- A byte of ASCII is the one byte of its character. -/
theorem encode_ofNat {b : UInt8} (hb : b.toNat < 0x80) : encode [Char.ofNat b.toNat] = [b] := by
  have hpoint : (Char.ofNat b.toNat).val.toNat = b.toNat := by
    rw [Char.ofNat, dif_pos (.inl (by omega))]
    rfl
  rw [encode, List.flatMap_cons, List.flatMap_nil, List.append_nil, String.utf8EncodeChar, hpoint, if_pos (by omega),
    UInt8.ofNat_toNat]

/-- The bytes of a text are those of a text. -/
theorem decode?_encode (text : List Char) : decode? (encode text) = some text := by
  have hbytes : (⟨(encode text).toArray⟩ : ByteArray) = (String.ofList text).toByteArray :=
    ByteArray.ext List.data_toByteArray.symm
  rw [decode?, hbytes, String.fromUTF8?, dif_pos (String.ofList text).isValidUTF8]
  exact congrArg some String.toList_ofList

/-- A byte that is no percent sign stands for itself. -/
theorem percentDecode_cons_of_ne {b : UInt8} (hb : b ≠ 0x25) (rest : List UInt8) :
    percentDecode (b :: rest) = b :: percentDecode rest := by
  rw [percentDecode.eq_def]
  simp only [hb, if_false]

/-- Text without a percent sign stands for itself. -/
theorem percentDecode_encode {text : List Char} (htext : ∀ c ∈ text, c.toNat < 0x80 ∧ c ≠ '%') :
    percentDecode (encode text) = encode text := by
  induction text with
  | nil => rfl
  | cons c text ih =>
    obtain ⟨⟨hascii, hpercent⟩, hmore⟩ := List.forall_mem_cons.1 htext
    have hbyte : (UInt8.ofNat c.toNat).toNat = c.toNat := Nat.mod_eq_of_lt (Nat.lt_trans hascii (by decide))
    have hone : encode [c] = [UInt8.ofNat c.toNat] := by
      have hencode := encode_ofNat (b := UInt8.ofNat c.toNat) (by rw [hbyte]; exact hascii)
      rwa [hbyte, Char.ofNat_toNat] at hencode
    have hne : UInt8.ofNat c.toNat ≠ 0x25 := fun heq =>
      hpercent (Char.toNat_inj.1 (hbyte.symm.trans (congrArg UInt8.toNat heq)))
    rw [encode_cons, hone, List.singleton_append, percentDecode_cons_of_ne hne, ih hmore]

end PageRouter.Text
