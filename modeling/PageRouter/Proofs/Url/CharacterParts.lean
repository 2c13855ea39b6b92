import Mathlib
import PageRouter.Proofs.Text.CodeSet
import PageRouter.Url.Domain.Composition

namespace PageRouter.Url

open Text (codeSet rangeSet)

/-- The code points of the composites in the table. -/
def compositeCodes : List Nat := composites.map (·.code)

/-- The code points of their first parts. -/
def firstCodes : List Nat := composites.map (·.first)

/-- The code points of their second parts. -/
def secondCodes : List Nat := composites.map (·.second)

/-- The composites whose first part has parts again. -/
def deepCodes : List Nat :=
  (composites.filter fun composite => (codeSet compositeCodes).testBit composite.first).map (·.code)

/-- The syllables of Hangul. -/
def syllableRanges : List (Nat × Nat) := [(0xAC00, 0xD7A3)]

/-- What syllables are made of: leading consonants, vowels, and trailing consonants. -/
def letterRanges : List (Nat × Nat) := [(0x1100, 0x1112), (0x1161, 0x1175), (0x11A8, 0x11C2)]

/-- The marks, which have a class of their own. -/
def classRanges : List (Nat × Nat) := classRuns.map fun run => (run.first, run.last)

private theorem isChain_composites : composites.IsChain (·.code < ·.code) := by decide +kernel

private theorem isValidChar_composites : ∀ composite ∈ composites,
    composite.code.isValidChar ∧ composite.first.isValidChar ∧ composite.second.isValidChar := by decide +kernel

/-- The second part of a composite has no parts, and no mark is a first part. -/
theorem disjoint_parts :
    codeSet secondCodes &&& (codeSet compositeCodes ||| rangeSet syllableRanges) = 0 ∧
    codeSet firstCodes &&& (codeSet deepCodes ||| rangeSet syllableRanges ||| rangeSet classRanges) = 0 := by
  decide +kernel

private theorem disjoint_syllables :
    (rangeSet syllableRanges ||| rangeSet letterRanges) &&& (codeSet compositeCodes ||| rangeSet classRanges) = 0 := by
  decide +kernel

/-- ASCII characters stand on their own: they have no parts and are no second part, and none of them is a mark. -/
theorem disjoint_ascii :
    rangeSet [(0, 127)] &&& (codeSet compositeCodes ||| codeSet secondCodes ||| rangeSet classRanges) = 0 := by
  decide +kernel

/-- The table is in ascending order, so that a code point has one row. -/
theorem find?_composites {composite : Composite} (hmem : composite ∈ composites) :
    composites.find? (·.code == composite.code) = some composite := by
  obtain ⟨before, after, hsplit⟩ := List.append_of_mem hmem
  have hless : ∀ a b c : Composite, a.code < b.code → b.code < c.code → a.code < c.code := fun _ _ _ => Nat.lt_trans
  have hsorted : composites.Pairwise (·.code < ·.code) :=
    @List.isChain_iff_pairwise _ _ _ ⟨fun {a b c} => hless a b c⟩ |>.1 isChain_composites
  rw [hsplit, List.pairwise_append] at hsorted
  refine List.find?_eq_some_iff_append.2 ⟨beq_self_eq_true _, before, after, hsplit, fun earlier hearlier => ?_⟩
  have hlt := hsorted.2.2 earlier hearlier composite List.mem_cons_self
  rw [Bool.not_eq_true', beq_eq_false_iff_ne]
  exact Nat.ne_of_lt hlt

/-- A character in the table of composites, which stands for two others. -/
structure IsRow (composite : Composite) (c first second : Char) : Prop where
  mem : composite ∈ composites
  code : c.toNat = composite.code
  first : first.toNat = composite.first
  second : second.toNat = composite.second

/-- The parts of a character in the table are those of its row. -/
theorem IsRow.parts? {composite : Composite} {c first second : Char} (hrow : IsRow composite c first second) :
    parts? c = some (first, second) := by
  unfold Url.parts?
  rw [hrow.code, find?_composites hrow.mem]
  dsimp only
  rw [← hrow.first, ← hrow.second, Char.ofNat_toNat, Char.ofNat_toNat]

private theorem isRow_of_find? {composite : Composite} {c : Char}
    (hfind : composites.find? (·.code == c.toNat) = some composite) :
    IsRow composite c (Char.ofNat composite.first) (Char.ofNat composite.second) := by
  have hmem := List.mem_of_find?_eq_some hfind
  obtain ⟨-, hfirst, hsecond⟩ := isValidChar_composites composite hmem
  have hcode : (composite.code == c.toNat) = true :=
    List.find?_some (p := fun composite : Composite => composite.code == c.toNat) hfind
  exact ⟨hmem, (beq_iff_eq.1 hcode).symm, (Char.toNat_ofNat _).trans (if_pos hfirst),
    (Char.toNat_ofNat _).trans (if_pos hsecond)⟩

private theorem find?_eq_none_of_testBit {c : Char} (hcode : (codeSet compositeCodes).testBit c.toNat = false) :
    composites.find? (·.code == c.toNat) = none := by
  refine List.find?_eq_none.2 fun composite hmem hsame => ?_
  have hbit : (codeSet compositeCodes).testBit c.toNat = true :=
    Text.testBit_codeSet.2 (List.mem_map.2 ⟨composite, hmem, beq_iff_eq.1 hsame⟩)
  exact absurd hbit (Bool.eq_false_iff.1 hcode)

/-- The syllables of Hangul have code points in a row. -/
theorem testBit_syllableRanges {c : Char} :
    (rangeSet syllableRanges).testBit c.toNat = true ↔ 0xAC00 ≤ c.toNat ∧ c.toNat ≤ 0xD7A3 := by
  simp [Text.testBit_rangeSet, Text.isIn, syllableRanges]

private theorem testBit_letterRanges {c : Char} : (rangeSet letterRanges).testBit c.toNat = true ↔
    (0x1100 ≤ c.toNat ∧ c.toNat ≤ 0x1112) ∨ (0x1161 ≤ c.toNat ∧ c.toNat ≤ 0x1175) ∨
      (0x11A8 ≤ c.toNat ∧ c.toNat ≤ 0x11C2) := by
  simp [Text.testBit_rangeSet, Text.isIn, letterRanges]

/-- A character that stands for itself only. -/
theorem parts?_eq_none {c : Char} (hcode : (codeSet compositeCodes).testBit c.toNat = false)
    (hsyllable : ¬(0xAC00 ≤ c.toNat ∧ c.toNat ≤ 0xD7A3)) : parts? c = none := by
  unfold parts?
  rw [find?_eq_none_of_testBit hcode]
  exact if_neg hsyllable

/-- A syllable of Hangul with its parts: two letters, or a syllable of two letters and a trailing consonant. -/
structure IsSyllable (c first second : Char) : Prop where
  code : 0xAC00 ≤ c.toNat ∧ c.toNat ≤ 0xD7A3
  second : (rangeSet letterRanges).testBit second.toNat = true
  first : (rangeSet letterRanges).testBit first.toNat = true ∨
    (c.toNat - 0xAC00) % 28 ≠ 0 ∧ (0xAC00 ≤ first.toNat ∧ first.toNat ≤ 0xD7A3) ∧ (first.toNat - 0xAC00) % 28 = 0

/-- What is taken apart as a syllable is one. -/
theorem isSyllable_of_syllableParts? {c first second : Char} (hparts : syllableParts? c = some (first, second)) :
    IsSyllable c first second := by
  unfold syllableParts? at hparts
  split at hparts
  · next hcode =>
    dsimp only at hparts
    split at hparts
    · obtain ⟨rfl, rfl⟩ := Prod.mk.inj (Option.some.inj hparts)
      refine ⟨hcode, testBit_letterRanges.2 ?_, .inl (testBit_letterRanges.2 ?_)⟩
      · rw [Char.toNat_ofNat, if_pos (.inl (by omega))]
        omega
      · rw [Char.toNat_ofNat, if_pos (.inl (by omega))]
        omega
    · next htrailing =>
      obtain ⟨rfl, rfl⟩ := Prod.mk.inj (Option.some.inj hparts)
      refine ⟨hcode, testBit_letterRanges.2 ?_, .inr ⟨htrailing, ?_⟩⟩
      · rw [Char.toNat_ofNat, if_pos (.inl (by omega))]
        omega
      · rw [Char.toNat_ofNat, if_pos (.inl (by omega))]
        omega
  · cases hparts

/-- A character with parts is in the table, or a syllable. -/
theorem parts?_cases {c first second : Char} (hparts : parts? c = some (first, second)) :
    (∃ composite, IsRow composite c first second) ∨ IsSyllable c first second := by
  unfold parts? at hparts
  rcases hfind : composites.find? (·.code == c.toNat) with _ | composite
  · rw [hfind] at hparts
    exact .inr (isSyllable_of_syllableParts? hparts)
  · rw [hfind] at hparts
    cases hparts
    exact .inl ⟨composite, isRow_of_find? hfind⟩

/-- Letters and syllables of Hangul are no composites of the table, and no marks. -/
theorem testBit_of_hangul {c : Char} (hc : (rangeSet letterRanges).testBit c.toNat = true ∨
    (rangeSet syllableRanges).testBit c.toNat = true) :
    (codeSet compositeCodes).testBit c.toNat = false ∧ (rangeSet classRanges).testBit c.toNat = false := by
  have hbit : (rangeSet syllableRanges ||| rangeSet letterRanges).testBit c.toNat = true := by
    rw [Nat.testBit_or, Bool.or_eq_true]
    exact hc.symm
  have hdisjoint := Text.testBit_eq_false_of_disjoint disjoint_syllables hbit
  rwa [Nat.testBit_or, Bool.or_eq_false_iff] at hdisjoint

/-- The letters that syllables are made of stand for themselves. -/
theorem parts?_letter {c : Char} (hc : (rangeSet letterRanges).testBit c.toNat = true) : parts? c = none := by
  refine parts?_eq_none (testBit_of_hangul (.inl hc)).1 ?_
  rw [testBit_letterRanges] at hc
  omega

/-- The second part of a row is among the second parts. -/
theorem IsRow.testBit_second {composite : Composite} {c first second : Char} (hrow : IsRow composite c first second) :
    (codeSet secondCodes).testBit second.toNat = true :=
  Text.testBit_codeSet.2 (hrow.second ▸ List.mem_map_of_mem hrow.mem)

/-- The first part of a row is among the first parts. -/
theorem IsRow.testBit_first {composite : Composite} {c first second : Char} (hrow : IsRow composite c first second) :
    (codeSet firstCodes).testBit first.toNat = true :=
  Text.testBit_codeSet.2 (hrow.first ▸ List.mem_map_of_mem hrow.mem)

/-- The character of a row is among the composites. -/
theorem IsRow.testBit_code {composite : Composite} {c first second : Char} (hrow : IsRow composite c first second) :
    (codeSet compositeCodes).testBit c.toNat = true :=
  Text.testBit_codeSet.2 (hrow.code ▸ List.mem_map_of_mem hrow.mem)

/-- A character outside of the marks has no class. -/
theorem combiningClass_eq_zero {c : Char} (hc : (rangeSet classRanges).testBit c.toNat = false) :
    combiningClass c = 0 := by
  have hnone : classRuns.find? (fun run => run.first ≤ c.toNat && c.toNat ≤ run.last) = none := by
    refine List.find?_eq_none.2 fun run hmem hin => ?_
    rw [Text.testBit_rangeSet, Text.isIn, List.any_eq_false] at hc
    exact hc _ (List.mem_map_of_mem hmem) hin
  rw [combiningClass, hnone]

/-- What a first part is not. -/
theorem IsRow.not_first {composite : Composite} {c first second : Char} (hrow : IsRow composite c first second) :
    (codeSet deepCodes).testBit first.toNat = false ∧ ¬(0xAC00 ≤ first.toNat ∧ first.toNat ≤ 0xD7A3) ∧
      (rangeSet classRanges).testBit first.toNat = false := by
  have hdisjoint := Text.testBit_eq_false_of_disjoint disjoint_parts.2 hrow.testBit_first
  rw [Nat.testBit_or, Nat.testBit_or, Bool.or_eq_false_iff, Bool.or_eq_false_iff] at hdisjoint
  exact ⟨hdisjoint.1.1, fun hsyllable => absurd (testBit_syllableRanges.2 hsyllable) (Bool.eq_false_iff.1 hdisjoint.1.2),
    hdisjoint.2⟩

/-- The second part of a character stands for itself only. -/
theorem parts?_second {c first second : Char} (hparts : parts? c = some (first, second)) : parts? second = none := by
  rcases parts?_cases hparts with ⟨composite, hrow⟩ | hsyllable
  · have hdisjoint := Text.testBit_eq_false_of_disjoint disjoint_parts.1 hrow.testBit_second
    rw [Nat.testBit_or, Bool.or_eq_false_iff] at hdisjoint
    exact parts?_eq_none hdisjoint.1 fun hsyllable =>
      absurd (testBit_syllableRanges.2 hsyllable) (Bool.eq_false_iff.1 hdisjoint.2)
  · exact parts?_letter hsyllable.second

/-- A character has three parts at most. -/
theorem parts?_first_first {c first second : Char} (hparts : parts? c = some (first, second)) {first' second' : Char}
    (hfirst : parts? first = some (first', second')) : parts? first' = none := by
  rcases parts?_cases hparts with ⟨composite, hrow⟩ | hsyllable
  · rcases parts?_cases hfirst with ⟨inner, hinner⟩ | hsyllable
    · refine parts?_eq_none (Bool.eq_false_iff.2 fun hcode => ?_) hinner.not_first.2.1
      have hdeep : inner ∈ composites.filter fun composite => (codeSet compositeCodes).testBit composite.first :=
        List.mem_filter.2 ⟨hinner.mem, hinner.first ▸ hcode⟩
      have hbit : (codeSet deepCodes).testBit first.toNat = true :=
        Text.testBit_codeSet.2 (hinner.code ▸ List.mem_map_of_mem hdeep)
      exact absurd hbit (Bool.eq_false_iff.1 hrow.not_first.1)
    · exact absurd hsyllable.code hrow.not_first.2.1
  · rcases hsyllable.first with hletter | ⟨-, hcode, hlead⟩
    · rw [parts?_letter hletter] at hfirst
      cases hfirst
    · rcases parts?_cases hfirst with ⟨inner, hinner⟩ | hinner
      · have hcode := (testBit_of_hangul (.inr (testBit_syllableRanges.2 hcode))).1
        exact absurd hinner.testBit_code (Bool.eq_false_iff.1 hcode)
      · exact parts?_letter (hinner.first.resolve_right fun hlead' => hlead'.1 hlead)

/-- A syllable is taken apart into what it was made of. -/
theorem parts?_of_syllable? {first second c : Char} (hsyllable : syllable? first second = some c) :
    parts? c = some (first, second) := by
  have hcode {code : Nat} (hc : c = Char.ofNat code) (hlow : 0xAC00 ≤ code) (hhigh : code ≤ 0xD7A3) :
      parts? c = syllableParts? c ∧ c.toNat = code := by
    have hnat : c.toNat = code := by rw [hc, Char.toNat_ofNat, if_pos (.inl (by omega))]
    have hbit := (testBit_of_hangul (.inr (testBit_syllableRanges.2 ⟨hnat ▸ hlow, hnat ▸ hhigh⟩))).1
    refine ⟨?_, hnat⟩
    unfold parts?
    rw [find?_eq_none_of_testBit hbit]
  have hchar {c : Char} {code : Nat} (hsame : code = c.toNat) : Char.ofNat code = c := by rw [hsame, Char.ofNat_toNat]
  unfold syllable? at hsyllable
  dsimp only at hsyllable
  split at hsyllable
  · obtain ⟨hparts, hnat⟩ := hcode (Option.some.inj hsyllable).symm (by omega) (by omega)
    rw [hparts, syllableParts?, if_pos (by omega), hnat]
    dsimp only
    rw [if_pos (by omega), hchar (c := first) (by omega), hchar (c := second) (by omega)]
  · split at hsyllable
    · obtain ⟨hparts, hnat⟩ := hcode (Option.some.inj hsyllable).symm (by omega) (by omega)
      rw [hparts, syllableParts?, if_pos (by omega), hnat]
      dsimp only
      rw [if_neg (by omega), hchar (c := first) (by omega), hchar (c := second) (by omega)]
    · cases hsyllable

/-- Composing is the inverse of taking apart. -/
theorem parts?_of_composite? {first second c : Char} (hcomposite : composite? first second = some c) :
    parts? c = some (first, second) := by
  unfold composite? at hcomposite
  rcases hfind : composites.find? fun composite =>
    composite.second == second.toNat && composite.first == first.toNat with _ | composite
  · rw [hfind] at hcomposite
    exact parts?_of_syllable? hcomposite
  · rw [hfind] at hcomposite
    cases hcomposite
    have hmem := List.mem_of_find?_eq_some hfind
    have hsame : (composite.second == second.toNat && composite.first == first.toNat) = true :=
      List.find?_some (p := fun composite : Composite =>
        composite.second == second.toNat && composite.first == first.toNat) hfind
    rw [Bool.and_eq_true, beq_iff_eq, beq_iff_eq] at hsame
    obtain ⟨hvalid, -, -⟩ := isValidChar_composites composite hmem
    exact IsRow.parts? ⟨hmem, (Char.toNat_ofNat _).trans (if_pos hvalid), hsame.2.symm, hsame.1.symm⟩

/-- A mark is not composed with what follows it. -/
theorem combiningClass_of_composite? {first second c : Char} (hcomposite : composite? first second = some c) :
    combiningClass first = 0 := by
  have hbit : (rangeSet classRanges).testBit first.toNat = false := by
    rcases parts?_cases (parts?_of_composite? hcomposite) with ⟨composite, hrow⟩ | hsyllable
    · exact hrow.not_first.2.2
    · exact (testBit_of_hangul (hsyllable.first.imp_right fun hlead => testBit_syllableRanges.2 hlead.2.1)).2
  exact combiningClass_eq_zero hbit

/-- An ASCII character has no parts, is no mark, and is never a second part. -/
theorem ascii_parts {c : Char} (hc : c.toNat < 128) :
    parts? c = none ∧ combiningClass c = 0 ∧ ∀ first, composite? first c = none := by
  have hbit : (rangeSet [(0, 127)]).testBit c.toNat = true := by
    rw [Text.testBit_rangeSet, Text.isIn]
    simpa using Nat.le_of_lt_succ hc
  have hdisjoint := Text.testBit_eq_false_of_disjoint disjoint_ascii hbit
  rw [Nat.testBit_or, Nat.testBit_or, Bool.or_eq_false_iff, Bool.or_eq_false_iff] at hdisjoint
  obtain ⟨⟨hcode, hsecond⟩, hclass⟩ := hdisjoint
  refine ⟨parts?_eq_none hcode (by omega), combiningClass_eq_zero hclass, fun first => ?_⟩
  rcases hcomposite : composite? first c with _ | composite
  · rfl
  · rcases parts?_cases (parts?_of_composite? hcomposite) with ⟨row, hrow⟩ | hsyllable
    · exact absurd hrow.testBit_second (Bool.eq_false_iff.1 hsecond)
    · have hletter := testBit_letterRanges.1 hsyllable.second
      omega

/-- The dot between labels is no part of a character. -/
theorem dot_not_part {c first second : Char} (hparts : parts? c = some (first, second)) : first ≠ '.' ∧ second ≠ '.' := by
  have hdot : '.'.toNat = 46 := rfl
  rcases parts?_cases hparts with ⟨row, hrow⟩ | hsyllable
  · constructor
    · rintro rfl
      have hnot : 46 ∉ firstCodes := by decide +kernel
      exact hnot (Text.testBit_codeSet.1 hrow.testBit_first)
    · rintro rfl
      have hnot : 46 ∉ secondCodes := by decide +kernel
      exact hnot (Text.testBit_codeSet.1 hrow.testBit_second)
  · constructor
    · rintro rfl
      rcases hsyllable.first with hletter | ⟨-, hcode, -⟩
      · have hletter := testBit_letterRanges.1 hletter
        omega
      · omega
    · rintro rfl
      have hletter := testBit_letterRanges.1 hsyllable.second
      omega

end PageRouter.Url
