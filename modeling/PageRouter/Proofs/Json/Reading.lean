import PageRouter.Proofs.Json.Grammar

namespace PageRouter.JsonValue

section Sound

/-- What reading to a depth accepts is in the grammar. -/
structure ReadsOnly (depth : Nat) : Prop where
  value {input rest : List Char} {value : JsonValue} (hread : readValue depth input = some (value, rest)) :
    ∃ before body, IsBlanks before ∧ IsValue body value ∧ input = before ++ (body ++ rest)
  items {input rest : List Char} {items : List JsonValue} (hread : readItems depth input = some (items, rest)) :
    ∃ body, IsItems body items ∧ input = body ++ ']' :: rest
  members {input rest : List Char} {fields : List (Option String × JsonValue)}
    (hread : readFields depth input = some (fields, rest)) : ∃ body, IsMembers body fields ∧ input = body ++ '\x7d' :: rest

/-- A word is read if the text starts with it. -/
theorem word?_eq_some {word input rest : List Char} (hword : word? word input = some rest) : input = word ++ rest := by
  rw [word?] at hword
  split at hword
  · next hprefix =>
    obtain ⟨more, rfl⟩ := List.isPrefixOf_iff_prefix.1 hprefix
    cases hword
    rw [List.drop_left]
  · cases hword

private theorem ReadsOnly.readValue_succ {depth : Nat} (h : ReadsOnly depth) {input rest : List Char}
    {value : JsonValue} (hread : readValue (depth + 1) input = some (value, rest)) :
    ∃ before body, IsBlanks before ∧ IsValue body value ∧ input = before ++ (body ++ rest) := by
  obtain ⟨before, hbefore, hinput⟩ := exists_blanks input
  suffices hbody : ∃ body, IsValue body value ∧ dropBlanks input = body ++ rest by
    obtain ⟨body, hbody, hrest⟩ := hbody
    exact ⟨before, body, hbefore, hbody, hrest ▸ hinput⟩
  -- The three words are read alike: the rest of the word has to stand behind its first character.
  have hword {c : Char} {word more : List Char} {meant : JsonValue} (hmeant : IsValue (c :: word) meant)
      (heq : dropBlanks input = c :: more) (hread : (word? word more).map (meant, ·) = some (value, rest)) :
      ∃ body, IsValue body value ∧ dropBlanks input = body ++ rest := by
    obtain ⟨after, hword, hvalue⟩ := Option.map_eq_some_iff.1 hread
    cases hvalue
    exact ⟨_, hmeant, heq.trans (congrArg _ (word?_eq_some hword))⟩
  rw [readValue] at hread
  split at hread
  · next more heq =>
    obtain ⟨⟨value, after⟩, htext, hvalue⟩ := Option.map_eq_some_iff.1 hread
    cases hvalue
    obtain ⟨body, units, hbody, rfl, rfl⟩ := readText_eq_some htext
    exact ⟨_, .quoted hbody, by simp [heq]⟩
  · next more heq =>
    obtain ⟨blanks, hblanks, hmore⟩ := exists_blanks more
    split at hread
    · next after hclosed =>
      cases hread
      rw [hclosed] at hmore
      exact ⟨_, .noItems hblanks, by simp [heq, hmore]⟩
    · obtain ⟨⟨items, after⟩, hitems, hvalue⟩ := Option.map_eq_some_iff.1 hread
      cases hvalue
      obtain ⟨body, hbody, rfl⟩ := h.items hitems
      exact ⟨_, .items hbody, by simp [heq]⟩
  · next more heq =>
    obtain ⟨blanks, hblanks, hmore⟩ := exists_blanks more
    split at hread
    · next after hclosed =>
      cases hread
      rw [hclosed] at hmore
      exact ⟨_, .noMembers hblanks, by simp [heq, hmore]⟩
    · obtain ⟨⟨fields, after⟩, hfields, hvalue⟩ := Option.map_eq_some_iff.1 hread
      cases hvalue
      obtain ⟨body, hbody, rfl⟩ := h.members hfields
      exact ⟨_, .members hbody, by simp [heq]⟩
  · next heq => exact hword .null heq hread
  · next heq => exact hword .yes heq hread
  · next heq => exact hword .no heq hread
  · obtain ⟨numeral, rfl, hnumeral⟩ := readNumber_eq_some hread
    exact ⟨_, .numeral numeral, hnumeral⟩

private theorem ReadsOnly.readItems_succ {depth : Nat} (h : ReadsOnly depth) {input rest : List Char}
    {items : List JsonValue} (hread : readItems (depth + 1) input = some (items, rest)) :
    ∃ body, IsItems body items ∧ input = body ++ ']' :: rest := by
  rw [readItems, Option.bind_eq_bind, Option.bind_eq_some_iff] at hread
  obtain ⟨⟨item, afterItem⟩, hitem, hread⟩ := hread
  obtain ⟨before, body, hbefore, hbody, rfl⟩ := h.value hitem
  obtain ⟨after, hafter, hafterItem⟩ := exists_blanks afterItem
  have hpadded : IsPadded (before ++ (body ++ after)) item := .mk hbefore hbody hafter
  dsimp only at hread
  split at hread
  · next more hcomma =>
    rw [Option.bind_eq_bind, Option.bind_eq_some_iff] at hread
    obtain ⟨⟨others, last⟩, hothers, heq⟩ := hread
    cases heq
    obtain ⟨later, hlater, rfl⟩ := h.items hothers
    rw [hcomma] at hafterItem
    exact ⟨_, .more hpadded hlater, by simp [hafterItem]⟩
  · next more hclosed =>
    cases hread
    rw [hclosed] at hafterItem
    exact ⟨_, .one hpadded, by simp [hafterItem]⟩
  · cases hread

private theorem ReadsOnly.readFields_succ {depth : Nat} (h : ReadsOnly depth) {input rest : List Char}
    {fields : List (Option String × JsonValue)} (hread : readFields (depth + 1) input = some (fields, rest)) :
    ∃ body, IsMembers body fields ∧ input = body ++ '\x7d' :: rest := by
  obtain ⟨before, hbefore, hinput⟩ := exists_blanks input
  rw [readFields] at hread
  split at hread
  · next afterQuote hquote =>
    rw [Option.bind_eq_bind, Option.bind_eq_some_iff] at hread
    obtain ⟨⟨key, afterKey⟩, hkey, hread⟩ := hread
    obtain ⟨keyBody, units, hunits, rfl, rfl⟩ := readText_eq_some hkey
    obtain ⟨between, hbetween, hafterKey⟩ := exists_blanks afterKey
    dsimp only at hread
    split at hread
    · next afterColon hcolon =>
      rw [Option.bind_eq_bind, Option.bind_eq_some_iff] at hread
      obtain ⟨⟨value, afterValue⟩, hvalue, hread⟩ := hread
      obtain ⟨front, body, hfront, hbody, rfl⟩ := h.value hvalue
      obtain ⟨after, hafter, hafterValue⟩ := exists_blanks afterValue
      have hmember := IsMember.mk hbefore hunits hbetween (.mk hfront hbody hafter)
      rw [hquote] at hinput
      rw [hcolon] at hafterKey
      dsimp only at hread
      split at hread
      · next more hcomma =>
        rw [Option.bind_eq_bind, Option.bind_eq_some_iff] at hread
        obtain ⟨⟨others, last⟩, hothers, heq⟩ := hread
        cases heq
        obtain ⟨later, hlater, rfl⟩ := h.members hothers
        rw [hcomma] at hafterValue
        exact ⟨_, .more hmember hlater, by simp [hinput, hafterKey, hafterValue]⟩
      · next more hclosed =>
        cases hread
        rw [hclosed] at hafterValue
        exact ⟨_, .one hmember, by simp [hinput, hafterKey, hafterValue]⟩
      · cases hread
    · cases hread
  · cases hread

/-- Whatever is read, to whatever depth, is in the grammar. -/
theorem readsOnly (depth : Nat) : ReadsOnly depth := by
  induction depth with
  | zero => exact ⟨nofun, nofun, nofun⟩
  | succ depth ih => exact ⟨ih.readValue_succ, ih.readItems_succ, ih.readFields_succ⟩

end Sound

section Complete

/-- A character with which a value can start. -/
structure Opens (c : Char) : Prop where
  notBlank : isBlank c = false
  ne_bracket : c ≠ ']'

private theorem opens_of_isDigit {c : Char} (hc : c.isDigit = true) : Opens c where
  notBlank := by
    simp only [isBlank, Bool.or_eq_false_iff, beq_eq_false_iff_ne]
    refine ⟨⟨⟨?_, ?_⟩, ?_⟩, ?_⟩ <;> exact fun heq => absurd (heq ▸ hc) (by decide)
  ne_bracket heq := absurd (heq ▸ hc) (by decide)

private theorem Numeral.exists_cons (numeral : Numeral) :
    ∃ c more, numeral.chars = c :: more ∧ (c.isDigit = true ∨ c = '-') := by
  obtain ⟨sign, whole, fraction, exponent, hsign, hwhole, -, -⟩ := numeral
  obtain ⟨c, more, rfl, hc⟩ := hwhole.exists_cons
  rcases hsign with rfl | rfl
  · exact ⟨c, more ++ fraction ++ exponent, rfl, .inl hc⟩
  · exact ⟨'-', c :: more ++ fraction ++ exponent, rfl, .inr rfl⟩

/-- No value is empty, or starts with a blank or with a bracket that closes. -/
theorem IsValue.exists_cons {body : List Char} {value : JsonValue} (h : IsValue body value) :
    ∃ c more, body = c :: more ∧ Opens c := by
  cases h with
  | numeral numeral =>
    obtain ⟨c, more, heq, hc⟩ := numeral.exists_cons
    refine ⟨c, more, heq, ?_⟩
    rcases hc with hc | rfl
    · exact opens_of_isDigit hc
    · exact ⟨rfl, by decide⟩
  | _ => exact ⟨_, _, rfl, rfl, by decide⟩

/-- The blanks in front of a value are skipped, and nothing of the value. -/
theorem IsValue.dropBlanks_append {before body : List Char} {value : JsonValue} (h : IsValue body value)
    (hbefore : IsBlanks before) (rest : List Char) : dropBlanks (before ++ (body ++ rest)) = body ++ rest := by
  obtain ⟨c, more, rfl, hc⟩ := h.exists_cons
  rw [JsonValue.dropBlanks_append hbefore, List.cons_append, dropBlanks_cons hc.notBlank]

/-- Items do not start like the end of an array. -/
theorem IsItems.exists_dropBlanks {body : List Char} {items : List JsonValue} (h : IsItems body items)
    (rest : List Char) : ∃ c more, dropBlanks (body ++ rest) = c :: more ∧ c ≠ ']' := by
  have hpadded {front : List Char} {item : JsonValue} (hitem : IsPadded front item) (later : List Char) :
      ∃ c more, dropBlanks (front ++ later) = c :: more ∧ c ≠ ']' := by
    obtain ⟨hbefore, hvalue, _⟩ := hitem
    obtain ⟨c, more, rfl, hc⟩ := hvalue.exists_cons
    simp only [List.append_assoc]
    rw [hvalue.dropBlanks_append hbefore]
    exact ⟨c, _, rfl, hc.ne_bracket⟩
  cases h with
  | one hitem => exact hpadded hitem rest
  | more hitem _ =>
    rw [List.append_assoc]
    exact hpadded hitem _

private theorem IsMember.exists_dropBlanks {body : List Char} {field : Option String × JsonValue}
    (h : IsMember body field) (rest : List Char) : ∃ more, dropBlanks (body ++ rest) = '"' :: more := by
  obtain ⟨hbefore, _, _, _⟩ := h
  rw [List.append_assoc, JsonValue.dropBlanks_append hbefore]
  exact ⟨_, dropBlanks_cons rfl _⟩

private theorem IsMembers.exists_dropBlanks {body : List Char} {fields : List (Option String × JsonValue)}
    (h : IsMembers body fields) (rest : List Char) : ∃ more, dropBlanks (body ++ rest) = '"' :: more := by
  cases h with
  | one hmember => exact hmember.exists_dropBlanks rest
  | more hmember _ =>
    rw [List.append_assoc]
    exact hmember.exists_dropBlanks _

/-- What is in the grammar is accepted to a depth that goes with its length: each level of nesting takes two
characters at least. -/
structure ReadsAll (depth : Nat) : Prop where
  value {before body rest : List Char} {value : JsonValue} (hbefore : IsBlanks before) (hvalue : IsValue body value)
    (hdepth : 2 * body.length ≤ depth) (hrest : Stops continuesNumeral rest) :
    readValue depth (before ++ (body ++ rest)) = some (value, rest)
  items {body : List Char} {items : List JsonValue} (hitems : IsItems body items) (hdepth : 2 * body.length < depth)
    (rest : List Char) : readItems depth (body ++ ']' :: rest) = some (items, rest)
  members {body : List Char} {fields : List (Option String × JsonValue)} (hmembers : IsMembers body fields)
    (hdepth : 2 * body.length < depth) (rest : List Char) :
    readFields depth (body ++ '\x7d' :: rest) = some (fields, rest)

/-- No blank goes on with a numeral. -/
theorem stops_blanks_append {blanks rest : List Char} (hblanks : IsBlanks blanks)
    (hrest : Stops continuesNumeral rest) : Stops continuesNumeral (blanks ++ rest) := by
  refine .append (fun first hfirst => ?_) fun _ => hrest
  have hblank : isBlank first = true := List.all_eq_true.1 hblanks first (List.mem_of_mem_head? hfirst)
  simp only [isBlank, Bool.or_eq_true, beq_iff_eq] at hblank
  rcases hblank with ((rfl | rfl) | rfl) | rfl <;> rfl

private theorem ReadsAll.readValue_succ {depth : Nat} (h : ReadsAll depth) {before body rest : List Char}
    {value : JsonValue} (hbefore : IsBlanks before) (hvalue : IsValue body value) (hdepth : 2 * body.length ≤ depth + 1)
    (hrest : Stops continuesNumeral rest) :
    readValue (depth + 1) (before ++ (body ++ rest)) = some (value, rest) := by
  rw [readValue, hvalue.dropBlanks_append hbefore]
  cases hvalue with
  | null => rfl
  | yes => rfl
  | no => rfl
  | numeral numeral =>
    have hread := numeral.readNumber_append hrest
    obtain ⟨c, more, heq, hc⟩ := numeral.exists_cons
    rw [heq, List.cons_append] at hread ⊢
    split
    -- Every other branch is for a character that no numeral starts with.
    case h_7 => exact hread
    all_goals
      next hopens =>
      cases hopens
      exact absurd hc (by decide)
  | @quoted body units hbody =>
    simp only [List.cons_append, List.append_assoc, List.nil_append]
    rw [readText_append hbody]
    rfl
  | @noItems blanks hblanks =>
    simp only [List.cons_append, List.append_assoc, List.nil_append]
    rw [JsonValue.dropBlanks_append hblanks, dropBlanks_cons rfl]
    rfl
  | @items body items hbody =>
    have hread := h.items hbody (by simp at hdepth; omega) rest
    obtain ⟨c, more, hmore, hc⟩ := hbody.exists_dropBlanks (']' :: rest)
    simp only [List.cons_append, List.append_assoc, List.nil_append]
    rw [hmore, hread]
    split
    · next heq => cases heq; exact absurd rfl hc
    · rfl
  | @noMembers blanks hblanks =>
    simp only [List.cons_append, List.append_assoc, List.nil_append]
    rw [JsonValue.dropBlanks_append hblanks, dropBlanks_cons rfl]
    rfl
  | @members body fields hbody =>
    have hread := h.members hbody (by simp at hdepth; omega) rest
    obtain ⟨more, hmore⟩ := hbody.exists_dropBlanks ('\x7d' :: rest)
    simp only [List.cons_append, List.append_assoc, List.nil_append]
    rw [hmore, hread]
    rfl

/-- A value with blanks around it is read up to what ends it. -/
theorem ReadsAll.readPadded {depth : Nat} (h : ReadsAll depth) {body : List Char} {value : JsonValue}
    (hvalue : IsPadded body value) (hdepth : 2 * body.length ≤ depth) {c : Char} (hblank : isBlank c = false)
    (hc : continuesNumeral c = false) (rest : List Char) :
    ∃ after, readValue depth (body ++ c :: rest) = some (value, after) ∧ dropBlanks after = c :: rest := by
  obtain ⟨hbefore, hvalue, hafter⟩ := hvalue
  have hstops := stops_blanks_append hafter (.cons hc rest)
  refine ⟨_, ?_, (JsonValue.dropBlanks_append hafter _).trans (dropBlanks_cons hblank rest)⟩
  simp only [List.append_assoc]
  refine h.value hbefore hvalue ?_ hstops
  simp only [List.length_append] at hdepth
  omega

private theorem ReadsAll.readItems_succ {depth : Nat} (h : ReadsAll depth) {body : List Char} {items : List JsonValue}
    (hitems : IsItems body items) (hdepth : 2 * body.length < depth + 1) (rest : List Char) :
    readItems (depth + 1) (body ++ ']' :: rest) = some (items, rest) := by
  cases hitems with
  | one hitem =>
    obtain ⟨after, hread, hafter⟩ := h.readPadded hitem (by omega) (c := ']') rfl rfl rest
    rw [readItems, hread, Option.bind_eq_bind, Option.bind_some]
    dsimp only
    rw [hafter]
    rfl
  | @more front later item items hitem hlater =>
    simp only [List.length_append, List.length_cons] at hdepth
    obtain ⟨after, hread, hafter⟩ := h.readPadded hitem (by omega) (c := ',') rfl rfl (later ++ ']' :: rest)
    rw [List.append_assoc, List.cons_append, readItems, hread, Option.bind_eq_bind, Option.bind_some]
    dsimp only
    rw [hafter]
    exact congrArg (· >>= _) (h.items hlater (by omega) rest)

/-- A member is read up to the sign behind its value, which decides how it goes on. -/
theorem ReadsAll.readFields_append {depth : Nat} (h : ReadsAll depth) {body : List Char}
    {field : Option String × JsonValue} (hmember : IsMember body field) (hdepth : 2 * body.length ≤ depth) {c : Char}
    (hblank : isBlank c = false) (hc : continuesNumeral c = false) (rest : List Char) :
    readFields (depth + 1) (body ++ c :: rest) =
      match c :: rest with
      | ',' :: rest => (readFields depth rest).bind fun read => some (field :: read.1, read.2)
      | '\x7d' :: rest => some ([field], rest)
      | _ => none := by
  obtain @⟨before, key, between, body, units, value, hbefore, hkey, hbetween, hvalue⟩ := hmember
  obtain ⟨after, hread, hafter⟩ := h.readPadded hvalue (by simp at hdepth; omega) hblank hc rest
  have hquote : dropBlanks (before ++ '"' :: (key ++ '"' :: (between ++ ':' :: body)) ++ c :: rest) =
      '"' :: (key ++ '"' :: (between ++ ':' :: (body ++ c :: rest))) := by
    simp only [List.append_assoc, List.cons_append]
    rw [JsonValue.dropBlanks_append hbefore, dropBlanks_cons rfl]
  have hcolon : dropBlanks (between ++ ':' :: (body ++ c :: rest)) = ':' :: (body ++ c :: rest) := by
    rw [JsonValue.dropBlanks_append hbetween, dropBlanks_cons rfl]
  rw [readFields, hquote]
  refine (congrArg (· >>= _) (readText_append hkey _)).trans ?_
  rw [Option.bind_eq_bind, Option.bind_some]
  dsimp only
  rw [hcolon]
  refine (congrArg (· >>= _) hread).trans ?_
  rw [Option.bind_eq_bind, Option.bind_some]
  dsimp only
  rw [hafter]
  rfl

private theorem ReadsAll.readFields_succ {depth : Nat} (h : ReadsAll depth) {body : List Char}
    {fields : List (Option String × JsonValue)} (hmembers : IsMembers body fields)
    (hdepth : 2 * body.length < depth + 1) (rest : List Char) :
    readFields (depth + 1) (body ++ '\x7d' :: rest) = some (fields, rest) := by
  cases hmembers with
  | one hmember => exact h.readFields_append hmember (by omega) rfl rfl rest
  | @more front later field fields hmember hlater =>
    simp only [List.length_append, List.length_cons] at hdepth
    rw [List.append_assoc, List.cons_append]
    refine (h.readFields_append hmember (by omega) rfl rfl _).trans ?_
    exact congrArg (Option.bind · _) (h.members hlater (by omega) rest)

/-- All of the grammar is read. -/
theorem readsAll (depth : Nat) : ReadsAll depth := by
  induction depth with
  | zero =>
    refine ⟨fun _ hvalue hdepth _ => ?_, fun _ hdepth _ => absurd hdepth (Nat.not_lt_zero _),
      fun _ hdepth _ => absurd hdepth (Nat.not_lt_zero _)⟩
    -- A value has one character at least, and depth zero is for texts without any.
    obtain ⟨c, more, rfl, -⟩ := hvalue.exists_cons
    cases hdepth
  | succ depth ih => exact ⟨ih.readValue_succ, ih.readItems_succ, ih.readFields_succ⟩

end Complete

/-- A text reads as a value exactly if it is a text of that value, with blanks around it. The nesting that reading
allows for is never used up, since it goes with the length of the text. -/
theorem parse?_eq_some_iff {input : String} {value : JsonValue} :
    parse? input = some value ↔ IsPadded input.toList value := by
  rw [parse?, Option.bind_eq_bind, Option.bind_eq_some_iff]
  constructor
  · rintro ⟨⟨read, rest⟩, hread, hvalue⟩
    obtain ⟨hblanks, heq⟩ := Option.ite_none_right_eq_some.1 hvalue
    cases heq
    obtain ⟨before, body, hbefore, hbody, hinput⟩ := (readsOnly _).value hread
    rw [hinput]
    exact .mk hbefore hbody (isBlanks_iff.2 (List.isEmpty_iff.1 hblanks))
  · intro hpadded
    generalize hinput : input.toList = chars at hpadded
    obtain @⟨before, body, after, _, hbefore, hbody, hafter⟩ := hpadded
    have hstops : Stops continuesNumeral after := by
      rw [← List.append_nil after]
      exact stops_blanks_append hafter nofun
    refine ⟨(value, after), (readsAll _).value hbefore hbody ?_ hstops, ?_⟩
    · simp only [List.length_append]
      omega
    · exact if_pos (List.isEmpty_iff.2 (isBlanks_iff.1 hafter))

end PageRouter.JsonValue
