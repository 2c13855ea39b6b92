import PageRouter.Proofs.Url.ImageTables
import PageRouter.Proofs.Url.Segments

namespace PageRouter.Url

open Text (codeSet rangeSet unionSet)

/-- What a row gives, in terms of the characters of its text. -/
theorem image?_eq_some_iff {text : Nat × List Char} {code : Nat} {image : List Char} :
    (ImageRow.mk text.1 (String.ofList text.2)).image? code = some image ↔
      (image, code) ∈ (Text.pieces ' ' text.2).zipIdx text.1 ∧ image ≠ [] ∧ code < text.1 + 64 := by
  rw [ImageRow.image?, List.mem_zipIdx_iff_le_and_getElem?_sub]
  dsimp only
  rw [String.toList_ofList]
  split
  · next hin =>
    rw [Option.filter_eq_some_iff, Bool.not_eq_true', List.isEmpty_eq_false_iff]
    exact ⟨fun ⟨hget, hne⟩ => ⟨⟨hin.1, hget⟩, hne, hin.2⟩, fun ⟨⟨_, hget⟩, hne, _⟩ => ⟨hget, hne⟩⟩
  · next hout => exact iff_of_false (by simp) fun ⟨⟨hlow, _⟩, _, hhigh⟩ => hout ⟨hlow, hhigh⟩

private theorem mem_imageRows {row : ImageRow} (hrow : row ∈ imageRows) :
    ∃ text ∈ imageSpelling.texts, row = ⟨text.1, String.ofList text.2⟩ := by
  rw [imageSpelling.rows_eq] at hrow
  obtain ⟨text, htext, rfl⟩ := List.mem_map.1 hrow
  exact ⟨text, htext, rfl⟩

private theorem mem_rowCodes {text : Nat × List Char} {code : Nat} :
    code ∈ rowCodes text ↔ ∃ image, (ImageRow.mk text.1 (String.ofList text.2)).image? code = some image := by
  simp only [rowCodes, List.mem_map, List.mem_filter, image?_eq_some_iff, Bool.and_eq_true, Bool.not_eq_true',
    List.isEmpty_eq_false_iff, decide_eq_true_eq]
  constructor
  · rintro ⟨⟨image, code⟩, ⟨hmem, hne, hlt⟩, rfl⟩
    exact ⟨image, hmem, hne, hlt⟩
  · rintro ⟨image, hmem, hne, hlt⟩
    exact ⟨(image, code), ⟨hmem, hne, hlt⟩, rfl⟩

/-- A code point outside of all rows has no image in any. -/
theorem findSome?_eq_none_iff {code : Nat} :
    imageRows.findSome? (·.image? code) = none ↔ rowSet.testBit code = false := by
  rw [List.findSome?_eq_none_iff, ← Bool.not_eq_true, rowSet, Text.testBit_unionSet]
  constructor
  · rintro hnone ⟨text, htext, hcode⟩
    obtain ⟨image, himage⟩ := mem_rowCodes.1 (Text.testBit_codeSet.1 hcode)
    have hrow : ImageRow.mk text.1 (String.ofList text.2) ∈ imageRows := by
      rw [imageSpelling.rows_eq]
      exact List.mem_map_of_mem htext
    rw [hnone _ hrow] at himage
    cases himage
  · intro hnone row hrow
    obtain ⟨text, htext, rfl⟩ := mem_imageRows hrow
    rcases himage : (ImageRow.mk text.1 (String.ofList text.2)).image? code with _ | image
    · rfl
    · exact absurd ⟨text, htext, Text.testBit_codeSet.2 (mem_rowCodes.2 ⟨image, himage⟩)⟩ hnone

private theorem testBit_imageSet {set : Nat} (hset : set ∈ imageParts) {code : Nat} (hcode : set.testBit code = true) :
    imageSet.testBit code = true :=
  Text.testBit_unionSet.2 ⟨set, hset, hcode⟩

/-- The images of a row are cut from its text. -/
theorem testBit_of_findSome? {code : Nat} {image : List Char} (hfind : imageRows.findSome? (·.image? code) = some image) :
    ∀ c ∈ image, imageSet.testBit c.toNat = true := by
  obtain ⟨row, hrow, himage⟩ := List.exists_of_findSome?_eq_some hfind
  obtain ⟨text, htext, rfl⟩ := mem_imageRows hrow
  obtain ⟨hmem, -, -⟩ := image?_eq_some_iff.1 himage
  intro c hc
  have hchar : c ∈ text.2 := mem_of_mem_pieces (List.fst_mem_of_mem_zipIdx hmem) hc
  have hbit : (unionSet (fun text => codeSet (text.2.map Char.toNat)) imageSpelling.texts).testBit c.toNat = true :=
    Text.testBit_unionSet.2 ⟨text, htext, Text.testBit_codeSet.2 (List.mem_map_of_mem hchar)⟩
  exact testBit_imageSet List.mem_cons_self hbit

private theorem mem_foldCodes {run : Text.FoldRun} {code target : Nat} (himage : run.image? code = some target) :
    code ∈ foldCodes run ∧ target = run.target + (code - run.first) := by
  unfold Text.FoldRun.image? at himage
  split at himage
  · next hin =>
    obtain ⟨hlow, hhigh, hstep⟩ := hin
    refine ⟨List.mem_map.2 ⟨(code - run.first) / run.step, List.mem_range.2 ?_, ?_⟩, (Option.some.inj himage).symm⟩
    · exact Nat.lt_succ_of_le (Nat.div_le_div_right (by omega))
    · rw [Nat.div_mul_cancel (Nat.dvd_of_mod_eq_zero hstep)]
      omega
  · cases himage

/-- A character that folding changes is in one of the runs. -/
theorem foldChar_cases (c : Char) :
    Text.foldChar c = c ∨ ∃ run ∈ Text.foldRuns, c.toNat ∈ foldCodes run ∧
      Text.foldChar c = Char.ofNat (run.target + (c.toNat - run.first)) := by
  rcases hfind : Text.foldRuns.findSome? (·.image? c.toNat) with _ | target
  · exact .inl (by rw [Text.foldChar, hfind])
  · obtain ⟨run, hrun, himage⟩ := List.exists_of_findSome?_eq_some hfind
    obtain ⟨hcode, rfl⟩ := mem_foldCodes himage
    exact .inr ⟨run, hrun, hcode, by rw [Text.foldChar, hfind]⟩

/-- Small ASCII letters, and everything in ASCII that is no letter, are written as they are. -/
theorem toLower_ascii {c : Char} (hc : c.toNat < 128) :
    c.toLower.toNat < 128 ∧ c.toLower.toLower = c.toLower ∧ (¬(0x41 ≤ c.toNat ∧ c.toNat ≤ 0x5A) → c.toLower = c) := by
  have hall : ∀ code < 128, (Char.ofNat code).toLower.toNat < 128 ∧
      (Char.ofNat code).toLower.toLower = (Char.ofNat code).toLower ∧
      (¬(0x41 ≤ (Char.ofNat code).toNat ∧ (Char.ofNat code).toNat ≤ 0x5A) → (Char.ofNat code).toLower = Char.ofNat code) := by
    decide
  have hself := hall c.toNat hc
  rwa [Char.ofNat_toNat] at hself

/-- A character outside of the changed ones is written as itself. -/
theorem domainImage?_of_not_changed {c : Char} (hc : changedSet.testBit c.toNat = false) : domainImage? c = some [c] := by
  rw [← Bool.not_eq_true, changedSet, Text.testBit_unionSet] at hc
  simp only [List.mem_cons, List.not_mem_nil, or_false, exists_eq_or_imp, exists_eq_left, id_eq, not_or,
    Bool.not_eq_true, Text.testBit_rangeSet] at hc
  obtain ⟨hupper, hleft, hexcluded, hlow, hmiddle, hhigh, hrows, hfold⟩ := hc
  rw [domainImage?]
  split
  · next hascii =>
    have hupper : ¬(0x41 ≤ c.toNat ∧ c.toNat ≤ 0x5A) := by simpa [Text.isIn] using hupper
    rw [(toLower_ascii hascii).2.2 hupper]
  · have hinvisible : Text.isInvisible c = false := by
      rw [Text.isInvisible]
      split
      · exact hlow
      split
      · exact hmiddle
      · exact hhigh
    have hsame : Text.foldChar c = c := by
      refine (foldChar_cases c).resolve_right ?_
      rintro ⟨run, hrun, hcode, -⟩
      exact absurd (Text.testBit_unionSet.2 ⟨run, hrun, Text.testBit_codeSet.2 hcode⟩) (Bool.eq_false_iff.1 hfold)
    have hallowed : isAllowed c = true := by
      rw [isAllowed, hinvisible, hexcluded]
      rfl
    rw [if_neg (by rw [isLeftOut, hleft]; decide), findSome?_eq_none_iff.2 hrows]
    dsimp only
    rw [hsame, if_pos hallowed]

private theorem domainImage?_sigma : domainImage? 'ς' = some ['ς'] := by decide +kernel

/-- Images, parts and composites are written as themselves. -/
theorem domainImage?_of_testBit {c : Char} (hc : imageSet.testBit c.toNat = true) : domainImage? c = some [c] := by
  by_cases hsigma : 0x3C2 = c.toNat
  · have hchar : c = 'ς' := Char.toNat_inj.1 hsigma.symm
    rw [hchar]
    exact domainImage?_sigma
  · exact domainImage?_of_not_changed (Text.testBit_eq_false_of_common changedSet_and_imageSet hsigma hc)

/-- Folding leads to code points that there are characters for. -/
theorem isValidChar_foldTargets : ∀ run ∈ Text.foldRuns, run.target + (run.last - run.first) < 0xD800 ∨
    (0xDFFF < run.target ∧ run.target + (run.last - run.first) < 0x110000) := by decide +kernel

private theorem testBit_foldChar {c : Char} (hrow : rowSet.testBit c.toNat = false) {run : Text.FoldRun}
    (hrun : run ∈ Text.foldRuns) (hcode : c.toNat ∈ foldCodes run)
    (hfold : Text.foldChar c = Char.ofNat (run.target + (c.toNat - run.first))) :
    imageSet.testBit (Text.foldChar c).toNat = true := by
  have hbound : c.toNat - run.first ≤ run.last - run.first := by
    obtain ⟨k, hk, hsame⟩ := List.mem_map.1 hcode
    have hle : k ≤ (run.last - run.first) / run.step := Nat.le_of_lt_succ (List.mem_range.1 hk)
    have hmul : k * run.step ≤ run.last - run.first := Nat.le_trans (Nat.mul_le_mul_right _ hle) (Nat.div_mul_le_self _ _)
    omega
  have hvalid : (run.target + (c.toNat - run.first)).isValidChar := by
    rcases isValidChar_foldTargets run hrun with hlow | hhigh
    · exact .inl (by omega)
    · exact .inr ⟨by omega, by omega⟩
  have htarget : run.target + (c.toNat - run.first) ∈ foldTargets run :=
    List.mem_map.2 ⟨c.toNat, List.mem_filter.2 ⟨hcode, by rw [hrow]; rfl⟩, rfl⟩
  rw [hfold, Char.toNat_ofNat, if_pos hvalid]
  have hbit : (unionSet (fun run => codeSet (foldTargets run)) Text.foldRuns).testBit
      (run.target + (c.toNat - run.first)) = true :=
    Text.testBit_unionSet.2 ⟨run, hrun, Text.testBit_codeSet.2 htarget⟩
  exact testBit_imageSet (List.mem_cons_of_mem _ List.mem_cons_self) hbit

/-- What a character is written as is written as itself. -/
theorem domainImage?_of_image {c : Char} {image : List Char} (himage : domainImage? c = some image) :
    ∀ d ∈ image, domainImage? d = some [d] := by
  rw [domainImage?] at himage
  split at himage
  · next hascii =>
    cases himage
    obtain ⟨hlower, hself, -⟩ := toLower_ascii hascii
    rw [List.forall_mem_singleton, domainImage?, if_pos hlower, hself]
  split at himage
  · cases himage
    exact List.forall_mem_nil _
  rcases hfind : imageRows.findSome? (·.image? c.toNat) with _ | row
  · rw [hfind] at himage
    dsimp only at himage
    split at himage
    · next hascii hleft hallowed =>
      cases himage
      rw [List.forall_mem_singleton]
      rcases foldChar_cases c with hsame | ⟨run, hrun, hcode, hfold⟩
      · rw [hsame] at hallowed ⊢
        rw [domainImage?, if_neg hascii, if_neg hleft, hfind]
        dsimp only
        rw [hsame, if_pos hallowed]
      · exact domainImage?_of_testBit (testBit_foldChar (findSome?_eq_none_iff.1 hfind) hrun hcode hfold)
    · cases himage
  · rw [hfind] at himage
    cases himage
    exact fun d hd => domainImage?_of_testBit (testBit_of_findSome? hfind d hd)

/-- The tables of parts and composites come after those of the images. -/
theorem testBit_laterPart {set : Nat} (hset : set ∈ imageParts.drop 2) {code : Nat} (hcode : set.testBit code = true) :
    imageSet.testBit code = true :=
  testBit_imageSet (List.mem_of_mem_drop hset) hcode

/-- Letters and syllables of Hangul are written as themselves. -/
theorem domainImage?_of_hangul {c : Char} (hc : (rangeSet letterRanges).testBit c.toNat = true ∨
    (0xAC00 ≤ c.toNat ∧ c.toNat ≤ 0xD7A3)) : domainImage? c = some [c] := by
  refine domainImage?_of_testBit (hc.elim (fun hletter => ?_) fun hcode => ?_)
  · exact testBit_laterPart (.tail _ (.tail _ (.tail _ (.head _)))) hletter
  · exact testBit_laterPart (.tail _ (.tail _ (.tail _ (.tail _ (.head _))))) (testBit_syllableRanges.2 hcode)

/-- The parts of a character are written as themselves. -/
theorem domainImage?_parts {c first second : Char} (hparts : parts? c = some (first, second)) :
    domainImage? first = some [first] ∧ domainImage? second = some [second] := by
  rcases parts?_cases hparts with ⟨row, hrow⟩ | hsyllable
  · exact ⟨domainImage?_of_testBit (testBit_laterPart (.tail _ (.head _)) hrow.testBit_first),
      domainImage?_of_testBit (testBit_laterPart (.tail _ (.tail _ (.head _))) hrow.testBit_second)⟩
  · exact ⟨domainImage?_of_hangul (hsyllable.first.imp_right fun hlead => hlead.2.1),
      domainImage?_of_hangul (.inl hsyllable.second)⟩

/-- A composite is written as itself. -/
theorem domainImage?_composite {first second c : Char} (hcomposite : composite? first second = some c) :
    domainImage? c = some [c] := by
  rcases parts?_cases (parts?_of_composite? hcomposite) with ⟨row, hrow⟩ | hsyllable
  · exact domainImage?_of_testBit (testBit_laterPart (.head _) hrow.testBit_code)
  · exact domainImage?_of_hangul (.inr hsyllable.code)

end PageRouter.Url
