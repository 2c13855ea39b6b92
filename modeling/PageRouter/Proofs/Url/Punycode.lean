import Mathlib
import PageRouter.Proofs.Text.CodeSet
import PageRouter.Url.Punycode

namespace PageRouter.Url.Punycode

private theorem digitValue?_digit : ∀ n : Fin 36, digitValue? (digit n) = some n.val := by decide

/-- Texts of digits. -/
def AreDigits (text : List Char) : Prop :=
  ∀ c ∈ text, ∃ n : Fin 36, c = digit n

private theorem AreDigits.append {front back : List Char} (hfront : AreDigits front) (hback : AreDigits back) :
    AreDigits (front ++ back) := by
  rintro c hc
  exact (List.mem_append.1 hc).elim (hfront c) (hback c)

private theorem areDigits_numberDigits (bias position value : Nat) : AreDigits (numberDigits bias position value) := by
  fun_induction numberDigits bias position value with
  | case1 position value t hlt =>
    have hbounds : t ≤ 26 := (threshold_bounds position bias).2
    rintro c hc
    exact ⟨⟨value, by omega⟩, List.mem_singleton.1 hc⟩
  | case2 position value t hge ih =>
    have hbounds : 1 ≤ t ∧ t ≤ 26 := threshold_bounds position bias
    have hmod : (value - t) % (36 - t) < 36 - t := Nat.mod_lt _ (by omega)
    rintro c (_ | ⟨_, hc⟩)
    · exact ⟨⟨t + (value - t) % (36 - t), by omega⟩, rfl⟩
    · exact ih c hc

/-- The digits of a number are read as the number, and what follows them is left. -/
theorem readNumber?_numberDigits (bias position weight value n : Nat) (rest : List Char) :
    readNumber? bias position weight value (numberDigits bias position n ++ rest) = some (value + n * weight, rest) := by
  fun_induction numberDigits bias position n generalizing weight value with
  | case1 position n t hlt =>
    have hbounds : t ≤ 26 := (threshold_bounds position bias).2
    have hdigit : digitValue? (digit n) = some n := digitValue?_digit ⟨n, by omega⟩
    simp only [List.singleton_append, readNumber?, hdigit, Option.bind_eq_bind, Option.bind_some]
    rw [if_pos hlt]
  | case2 position n t hge ih =>
    have hbounds : 1 ≤ t ∧ t ≤ 26 := threshold_bounds position bias
    have hmod : (n - t) % (36 - t) < 36 - t := Nat.mod_lt _ (by omega)
    have hdigit : digitValue? (digit (t + (n - t) % (36 - t))) = some (t + (n - t) % (36 - t)) :=
      digitValue?_digit ⟨t + (n - t) % (36 - t), by omega⟩
    simp only [List.cons_append, readNumber?, hdigit, Option.bind_eq_bind, Option.bind_some]
    rw [if_neg (show ¬t + (n - t) % (36 - t) < threshold position bias from by omega)]
    refine (ih (weight * (36 - t)) (value + (t + (n - t) % (36 - t)) * weight)).trans ?_
    have hn : n = t + (n - t) % (36 - t) + (36 - t) * ((n - t) / (36 - t)) := by
      have := Nat.mod_add_div (n - t) (36 - t)
      omega
    congr 2
    calc value + (t + (n - t) % (36 - t)) * weight + (n - t) / (36 - t) * (weight * (36 - t))
        = value + (t + (n - t) % (36 - t) + (36 - t) * ((n - t) / (36 - t))) * weight := by ring
      _ = value + n * weight := by rw [← hn]

/-- A difference leads to the character `c` at `index`, where it is the number of places between. -/
theorem insertChars?_numberDigits {label : List Char} {low position bias delta index : Nat} {c : Char}
    (hlow : low ≤ c.toNat) (hindex : index ≤ label.length)
    (hdelta : (c.toNat - low) * (label.length + 1) + index = position + delta) (rest : List Char) :
    insertChars? label low position bias (numberDigits bias 36 delta ++ rest) =
      insertChars? (label.insertIdx index c) c.toNat (index + 1)
        (adapt delta (label.length + 1) (position = 0)) rest := by
  have hread : readNumber? bias 36 1 position (numberDigits bias 36 delta ++ rest) =
      some ((c.toNat - low) * (label.length + 1) + index, rest) := by
    rw [readNumber?_numberDigits, hdelta, Nat.mul_one]
  have hdiv : ((c.toNat - low) * (label.length + 1) + index) / (label.length + 1) = c.toNat - low := by
    rw [Nat.mul_comm, Nat.mul_add_div (by omega), Nat.div_eq_of_lt (by omega), Nat.add_zero]
  have hmod : ((c.toNat - low) * (label.length + 1) + index) % (label.length + 1) = index := by
    rw [Nat.mul_comm, Nat.mul_add_mod, Nat.mod_eq_of_lt (by omega)]
  have hcode : low + (c.toNat - low) = c.toNat := by omega
  rw [insertChars?]
  split
  · next hnone => cases hread.symm.trans hnone
  · next value rest' hsome =>
    cases hread.symm.trans hsome
    dsimp only
    rw [hdiv, hmod, hcode, if_pos (show c.toNat.isValidChar from c.valid), hdelta, Nat.add_sub_cancel_left, Char.ofNat_toNat]

/-- The characters of a label that are placed when all below `code` are, and those at `code` as far as `front`. -/
def placedChars (code : Nat) (front back : List Char) : List Char :=
  front.filter (·.toNat ≤ code) ++ back.filter (·.toNat < code)

private theorem insertIdx_length_append (front back : List Char) (c : Char) :
    (front ++ back).insertIdx front.length c = front ++ c :: back := by
  induction front with
  | nil => rfl
  | cons d front ih => rw [List.cons_append, List.length_cons, List.insertIdx_succ_cons, ih, List.cons_append]

/-- What is written leads the reader to the characters that are placed, and `delta` counts the places from the last of
them to the end of `front`. Every step of the walk over the label keeps this, once for each code point outside of
ASCII. -/
structure Leads (basic : List Char) (code : Nat) (front back : List Char) (state : Encoding) : Prop where
  placed_eq : state.placed = (placedChars code front back).length
  basic_le : basic.length ≤ state.placed
  digits : AreDigits state.output
  leads : ∃ low position, low ≤ code ∧ (position = 0 ↔ state.placed = basic.length) ∧
    (code - low) * (state.placed + 1) + (front.filter (·.toNat ≤ code)).length = position + state.delta ∧
    ∀ rest, insertChars? basic 128 0 72 (state.output ++ rest) =
      insertChars? (placedChars code front back) low position state.bias rest

section Walk

variable {basic : List Char} {code : Nat} {front back label : List Char} {state : Encoding}

/-- A step that places nothing counts the places that it passes. -/
theorem Leads.pass (h : Leads basic code front back state) {code' delta : Nat} {front' back' : List Char}
    (hplaced : placedChars code' front' back' = placedChars code front back) (hle : code ≤ code')
    (hcount : (code' - code) * (state.placed + 1) + (front'.filter (·.toNat ≤ code')).length + state.delta =
      (front.filter (·.toNat ≤ code)).length + delta) :
    Leads basic code' front' back' { state with delta } := by
  obtain ⟨low, position, hlow, hfirst, hdelta, hleads⟩ := h.leads
  refine ⟨hplaced ▸ h.placed_eq, h.basic_le, h.digits, low, position, hlow.trans hle, hfirst, ?_, hplaced ▸ hleads⟩
  have hsplit : code' - low = (code - low) + (code' - code) := by omega
  rw [hsplit, Nat.add_mul]
  dsimp only
  omega

/-- Where a character is placed, what is counted so far is written. -/
theorem Leads.place {c : Char} (h : Leads basic c.toNat front (c :: back) state) :
    Leads basic c.toNat (front ++ [c]) back
      { delta := 0
        bias := adapt state.delta (state.placed + 1) (state.placed = basic.length)
        placed := state.placed + 1
        output := state.output ++ numberDigits state.bias 36 state.delta } := by
  obtain ⟨low, position, hlow, hfirst, hdelta, hleads⟩ := h.leads
  have hplaced : placedChars c.toNat front (c :: back) =
      front.filter (·.toNat ≤ c.toNat) ++ back.filter (·.toNat < c.toNat) := by
    simp [placedChars]
  have hindex : (front.filter (·.toNat ≤ c.toNat)).length ≤ (placedChars c.toNat front (c :: back)).length := by
    rw [hplaced, List.length_append]
    exact Nat.le_add_right _ _
  have hafter : placedChars c.toNat (front ++ [c]) back =
      (placedChars c.toNat front (c :: back)).insertIdx (front.filter (·.toNat ≤ c.toNat)).length c := by
    rw [hplaced, insertIdx_length_append]
    simp [placedChars]
  have hlength : (placedChars c.toNat (front ++ [c]) back).length = state.placed + 1 := by
    rw [h.placed_eq, hafter, List.length_insertIdx_of_le_length hindex]
  have hmore : state.placed + 1 ≠ basic.length := Nat.ne_of_gt (Nat.lt_succ_of_le h.basic_le)
  refine ⟨hlength.symm, Nat.le_succ_of_le h.basic_le, h.digits.append (areDigits_numberDigits _ _ _),
    c.toNat, (front.filter (·.toNat ≤ c.toNat)).length + 1, le_rfl, iff_of_false (Nat.succ_ne_zero _) hmore, ?_,
    fun rest => ?_⟩
  · simp
  · rw [h.placed_eq] at hdelta hfirst
    rw [List.append_assoc, hleads, insertChars?_numberDigits hlow hindex hdelta, hafter]
    simp only [h.placed_eq, hfirst]

/-- One character of the label is either placed or passed, and the reader is led there in both cases. -/
theorem Leads.placeChar {c : Char} (h : Leads basic code front (c :: back) state) :
    Leads basic code (front ++ [c]) back (placeChar basic.length code state c) := by
  rw [Punycode.placeChar]
  split
  · next hlt =>
    -- A smaller character is already placed: one more place is passed.
    refine h.pass (by simp [placedChars, hlt, hlt.le]) le_rfl ?_
    simp only [Nat.sub_self, Nat.zero_mul, List.filter_append, List.length_append, List.filter_cons, hlt.le,
      decide_true, if_true, List.filter_nil, List.length_singleton]
    omega
  · next hge =>
    split
    · next heq =>
      subst heq
      exact h.place
    · next hne =>
      have hgt : ¬c.toNat ≤ code := by omega
      exact h.pass (by simp [placedChars, hgt, hge]) le_rfl (by simp [hgt])

/-- One code point, along the whole label. -/
theorem Leads.foldl (h : Leads basic code front back state) :
    Leads basic code (front ++ back) [] (back.foldl (Punycode.placeChar basic.length code) state) := by
  induction back generalizing front state with
  | nil => rwa [List.append_nil]
  | cons c back ih =>
    rw [List.foldl_cons, List.append_cons]
    exact ih h.placeChar

/-- The end of the label at one code point is the place before the start of the label at the next one. -/
theorem Leads.next (h : Leads basic code label [] state) :
    Leads basic (code + 1) [] label { state with delta := state.delta + 1 } := by
  have hplaced : placedChars (code + 1) [] label = placedChars code label [] := by
    rw [placedChars, placedChars, List.filter_nil, List.filter_nil, List.nil_append, List.append_nil]
    exact List.filter_congr fun c _ => decide_eq_decide.2 Nat.lt_succ_iff
  have hlength : state.placed = (label.filter (·.toNat ≤ code)).length := by
    rw [h.placed_eq, placedChars, List.filter_nil, List.append_nil]
  refine h.pass hplaced (Nat.le_succ code) ?_
  rw [← hlength, Nat.add_sub_cancel_left, List.filter_nil, List.length_nil]
  omega

/-- Code points that no character has are passed over, all places at each. -/
theorem Leads.skip {more : Nat} (h : Leads basic code [] label state) (hle : code ≤ more)
    (hnone : ∀ c ∈ label, c.toNat < more → c.toNat < code) :
    Leads basic more [] label { state with delta := state.delta + (more - code) * (state.placed + 1) } := by
  refine h.pass (List.filter_congr fun c hc => decide_eq_decide.2 ⟨hnone c hc, fun hlt => Nat.lt_of_lt_of_le hlt hle⟩)
    hle ?_
  rw [List.filter_nil, List.filter_nil, List.length_nil]
  omega

/-- All code points of a label, in order. -/
theorem Leads.placeCodes {codes : List Nat} (hsorted : codes.Pairwise (· < ·)) (hcodes : ∀ more ∈ codes, code ≤ more)
    (hlabel : ∀ c ∈ label, code ≤ c.toNat → c.toNat ∈ codes) (h : Leads basic code [] label state) :
    ∃ last, (∀ c ∈ label, c.toNat < last) ∧
      Leads basic last [] label (placeCodes label basic.length codes code state) := by
  induction codes generalizing code state with
  | nil =>
    refine ⟨code, fun c hc => Nat.lt_of_not_le fun hle => ?_, h⟩
    cases hlabel c hc hle
  | cons more codes ih =>
    have hmore := List.pairwise_cons.1 hsorted
    have hle : code ≤ more := hcodes more List.mem_cons_self
    have hnone : ∀ c ∈ label, c.toNat < more → c.toNat < code := by
      intro c hc hlt
      by_contra hge
      rcases List.mem_cons.1 (hlabel c hc (Nat.le_of_not_lt hge)) with heq | hmem
      · omega
      · have := hmore.1 _ hmem
        omega
    -- The code points below `more` are passed over, its characters are placed, and the next round starts at the
    -- front.
    refine ih hmore.2 (fun more' hmem => hmore.1 more' hmem) (fun c hc hlt => ?_) (h.skip hle hnone).foldl.next
    rcases List.mem_cons.1 (hlabel c hc (by omega)) with heq | hmem
    · omega
    · exact hmem

end Walk

/-- An ascending list without its repetitions ascends strictly. -/
theorem pairwise_eraseDups {codes : List Nat} (hsorted : codes.Pairwise (· ≤ ·)) : codes.eraseDups.Pairwise (· < ·) := by
  induction hlength : codes.length using Nat.strong_induction_on generalizing codes with
  | _ n ih =>
    cases codes with
    | nil => exact List.Pairwise.nil
    | cons code codes =>
      have hcodes := List.pairwise_cons.1 hsorted
      rw [List.eraseDups_cons]
      have hless : (codes.filter fun b => !b == code).length < n := by
        rw [← hlength]
        exact Nat.lt_succ_of_le (List.length_filter_le _ _)
      refine List.pairwise_cons.2 ⟨fun more hmore => ?_, ih _ hless (hcodes.2.filter _) rfl⟩
      obtain ⟨hmem, hne⟩ := List.mem_filter.1 (List.mem_eraseDups.1 hmore)
      have hle := hcodes.1 more hmem
      simp at hne
      omega

/-- The ASCII characters of a label. -/
def basicChars (label : List Char) : List Char :=
  label.filter (·.toNat < 128)

/-- The code points outside of ASCII that a label holds, in ascending order. -/
def otherCodes (label : List Char) : List Nat :=
  ((label.filter (128 ≤ ·.toNat)).map Char.toNat).mergeSort.eraseDups

private theorem mem_otherCodes {label : List Char} {code : Nat} :
    code ∈ otherCodes label ↔ ∃ c ∈ label, 128 ≤ c.toNat ∧ c.toNat = code := by
  simp only [otherCodes, List.mem_eraseDups, List.mem_mergeSort, List.mem_map, List.mem_filter, decide_eq_true_eq,
    and_assoc]

private theorem pairwise_otherCodes (label : List Char) : (otherCodes label).Pairwise (· < ·) := by
  refine pairwise_eraseDups ?_
  have hsorted := @List.pairwise_mergeSort Nat (fun a b => decide (a ≤ b))
    (by simpa only [decide_eq_true_eq] using fun a b c => Nat.le_trans)
    (by simpa only [Bool.or_eq_true, decide_eq_true_eq] using Nat.le_total)
    ((label.filter (128 ≤ ·.toNat)).map Char.toNat)
  simpa only [decide_eq_true_eq] using hsorted

/-- A label is written as its ASCII characters and digits that lead from them to the label. -/
theorem exists_digits (label : List Char) : ∃ digits, AreDigits digits ∧
    insertChars? (basicChars label) 128 0 72 digits = some label ∧
    encode label = basicChars label ++ (if (basicChars label).isEmpty then [] else ['-']) ++ digits := by
  have hstart : Leads (basicChars label) 128 [] label ⟨0, 72, (basicChars label).length, []⟩ :=
    ⟨rfl, le_rfl, by rintro c (_ | _), 128, 0, le_rfl, by simp, by simp, fun rest => rfl⟩
  have hcodes : ∀ code ∈ otherCodes label, 128 ≤ code := by
    rintro code hcode
    obtain ⟨c, -, hc, rfl⟩ := mem_otherCodes.1 hcode
    exact hc
  obtain ⟨last, hlast, hleads⟩ := hstart.placeCodes (pairwise_otherCodes label) hcodes
    fun c hc hcode => mem_otherCodes.2 ⟨c, hc, hcode, rfl⟩
  obtain ⟨low, position, -, -, -, hread⟩ := hleads.leads
  refine ⟨_, hleads.digits, ?_, rfl⟩
  have hall : placedChars last [] label = label := List.filter_eq_self.2 fun c hc => decide_eq_true (hlast c hc)
  have hend := hread []
  rw [List.append_nil, hall] at hend
  rw [hend, insertChars?]
  rfl

/-- Digits are ASCII characters, and not the sign that they stand behind. -/
theorem digit_ascii : ∀ n : Fin 36, (digit n).toNat < 128 ∧ digit n ≠ '-' := by decide

/-- A label is written with its own ASCII characters, digits, and the sign between them. -/
theorem mem_encode {label : List Char} {c : Char} (hc : c ∈ encode label) :
    c ∈ basicChars label ∨ c = '-' ∨ ∃ n : Fin 36, c = digit n := by
  obtain ⟨digits, hdigits, -, hencode⟩ := exists_digits label
  rw [hencode, List.mem_append, List.mem_append] at hc
  rcases hc with (hc | hc) | hc
  · exact .inl hc
  · split at hc
    · cases hc
    · exact .inr (.inl (List.mem_singleton.1 hc))
  · exact .inr (.inr (hdigits c hc))

/-- What is written for a label is read as the label. -/
theorem decode?_encode (label : List Char) : decode? (encode label) = some label := by
  have hascii : (encode label).all (·.toNat < 128) = true := by
    refine List.all_eq_true.2 fun c hc => decide_eq_true ?_
    rcases mem_encode hc with hbasic | rfl | ⟨n, rfl⟩
    · exact of_decide_eq_true (List.mem_filter.1 hbasic).2
    · decide
    · exact (digit_ascii n).1
  obtain ⟨digits, hdigits, hread, hencode⟩ := exists_digits label
  have hnot : ∀ c ∈ digits.reverse, decide (c ≠ '-') = true := by
    intro c hc
    obtain ⟨n, rfl⟩ := hdigits c (List.mem_reverse.1 hc)
    exact decide_eq_true (digit_ascii n).2
  by_cases hbasic : basicChars label = []
  · -- Nothing stands before the digits, and they hold no hyphen.
    have htext : encode label = digits := by rw [hencode, hbasic]; rfl
    have hdash : '-' ∉ digits := fun hmem => by simpa using hnot '-' (List.mem_reverse.2 hmem)
    rw [hbasic] at hread
    rw [decode?, hascii, htext, List.takeWhile_eq_self_iff.2 hnot, List.dropWhile_eq_nil_iff.2 hnot]
    simpa [hdash] using hread
  · have htext : (encode label).reverse = digits.reverse ++ '-' :: (basicChars label).reverse := by
      simp [hencode, hbasic]
    rw [decode?, hascii, htext, List.takeWhile_append_of_pos hnot, List.dropWhile_append_of_pos hnot]
    simpa [hbasic] using hread

/-- Only characters outside of ASCII are inserted. -/
theorem mem_of_insertChars? {label digits result : List Char} {low position bias : Nat}
    (hresult : insertChars? label low position bias digits = some result) (hlow : 128 ≤ low) {c : Char}
    (hc : c ∈ result) (hascii : c.toNat < 128) : c ∈ label := by
  fun_induction insertChars? label low position bias digits with
  | case1 label low position bias digits hread hempty =>
    cases hresult
    exact hc
  | case2 => cases hresult
  | case3 label low position bias digits value rest hread _ count code index hvalid ih =>
    have hcode : 128 ≤ code := Nat.le_trans hlow (Nat.le_add_right _ _)
    rcases List.eq_or_mem_of_mem_insertIdx (ih hresult hcode) with rfl | hmem
    · rw [Char.toNat_ofNat, if_pos hvalid] at hascii
      omega
    · exact hmem
  | case4 => cases hresult

/-- The ASCII characters of a label stand in the text it is read from. -/
theorem mem_of_decode? {text label : List Char} (hlabel : decode? text = some label) {c : Char} (hc : c ∈ label)
    (hascii : c.toNat < 128) : c ∈ text := by
  unfold decode? at hlabel
  dsimp only at hlabel
  split at hlabel
  · have hmem := mem_of_insertChars? hlabel (le_refl 128) hc hascii
    have hsuffix := (List.drop_suffix 1 _).trans (List.dropWhile_suffix (l := text.reverse) fun d => decide (d ≠ '-'))
    exact List.mem_reverse.1 (hsuffix.subset (List.mem_reverse.1 hmem))
  · cases hlabel

end PageRouter.Url.Punycode
