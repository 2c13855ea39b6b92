import PageRouter.Json.Read

namespace PageRouter.JsonValue

/-- The text goes on with no character of a kind. -/
def Stops (goesOn : Char → Bool) (rest : List Char) : Prop :=
  ∀ c ∈ rest.head?, goesOn c = false

/-- A text goes on with its first character. -/
theorem Stops.cons {goesOn : Char → Bool} {c : Char} (hc : goesOn c = false) (rest : List Char) :
    Stops goesOn (c :: rest) := by
  rintro first hfirst
  cases hfirst
  exact hc

/-- A text goes on as its front does, or as the rest if nothing is in front. -/
theorem Stops.append {goesOn : Char → Bool} {front rest : List Char} (hfront : Stops goesOn front)
    (hrest : front = [] → Stops goesOn rest) : Stops goesOn (front ++ rest) := by
  cases front with
  | nil => exact hrest rfl
  | cons c more => exact .cons (hfront c rfl) _

private theorem Stops.mono {goesOn weaker : Char → Bool} {rest : List Char} (h : Stops goesOn rest)
    (hweaker : ∀ c, goesOn c = false → weaker c = false) : Stops weaker rest :=
  fun c hc => hweaker c (h c hc)

section Blanks

/-- The characters that may stand between the parts of a text of JSON. -/
def isBlank (c : Char) : Bool :=
  c == ' ' || c == '\t' || c == '\n' || c == '\r'

/-- Blanks only. -/
def IsBlanks (input : List Char) : Prop :=
  input.all isBlank = true

theorem isBlanks_nil : IsBlanks [] := rfl

/-- Blanks after blanks are blanks. -/
theorem IsBlanks.append {front back : List Char} (hfront : IsBlanks front) (hback : IsBlanks back) :
    IsBlanks (front ++ back) := by
  rw [IsBlanks, List.all_append, hfront, hback]
  rfl

/-- Blanks are passed over, up to what follows them. -/
theorem dropBlanks_append {blanks : List Char} (hblanks : IsBlanks blanks) (rest : List Char) :
    dropBlanks (blanks ++ rest) = dropBlanks rest := by
  induction blanks with
  | nil => rfl
  | cons c more ih =>
    obtain ⟨hc, hmore⟩ := Bool.and_eq_true_iff.1 hblanks
    exact (List.dropWhile_cons_of_pos hc).trans (ih hmore)

/-- What is not blank is not passed over. -/
theorem dropBlanks_cons {c : Char} (hc : isBlank c = false) (rest : List Char) : dropBlanks (c :: rest) = c :: rest :=
  List.dropWhile_cons_of_neg (Bool.eq_false_iff.1 hc)

/-- What is passed over is blanks. -/
theorem exists_blanks (input : List Char) : ∃ blanks, IsBlanks blanks ∧ input = blanks ++ dropBlanks input :=
  ⟨input.takeWhile isBlank, List.all_takeWhile, (List.takeWhile_append_dropWhile).symm⟩

/-- A text of which nothing is left when blanks are passed over is blanks only. -/
theorem isBlanks_iff {input : List Char} : IsBlanks input ↔ dropBlanks input = [] := by
  constructor
  · intro hblanks
    rw [← List.append_nil input, dropBlanks_append hblanks]
    rfl
  · intro hnil
    obtain ⟨blanks, hblanks, hinput⟩ := exists_blanks input
    rw [hnil, List.append_nil] at hinput
    exact hinput ▸ hblanks

end Blanks

section Numerals

/-- One digit at least, and nothing else. -/
def IsDigits (input : List Char) : Prop :=
  input ≠ [] ∧ input.all Char.isDigit = true

private theorem IsDigits.exists_cons {digits : List Char} (h : IsDigits digits) :
    ∃ c more, digits = c :: more ∧ c.isDigit = true := by
  obtain ⟨hne, hall⟩ := h
  cases digits with
  | nil => exact absurd rfl hne
  | cons c more => exact ⟨c, more, rfl, (Bool.and_eq_true_iff.1 hall).1⟩

/-- The digits that are cut off stand in front of what is left. -/
theorem digits?_eq_some {input digits rest : List Char} (hdigits : digits? input = some (digits, rest)) :
    IsDigits digits ∧ input = digits ++ rest := by
  rw [digits?] at hdigits
  split at hdigits
  · cases hdigits
  · next hne =>
    cases hdigits
    exact ⟨⟨hne, List.all_takeWhile⟩, (List.takeWhile_append_dropWhile).symm⟩

/-- All digits are cut off up to the first character that is none. -/
theorem digits?_append {digits rest : List Char} (hdigits : IsDigits digits) (hrest : Stops Char.isDigit rest) :
    digits? (digits ++ rest) = some (digits, rest) := by
  obtain ⟨hne, hall⟩ := hdigits
  have hall : ∀ c ∈ digits, c.isDigit = true := List.all_eq_true.1 hall
  have hcut : rest.takeWhile Char.isDigit = [] ∧ rest.dropWhile Char.isDigit = rest := by
    cases rest with
    | nil => exact ⟨rfl, rfl⟩
    | cons c more =>
      have hc : ¬c.isDigit = true := Bool.eq_false_iff.1 (hrest c rfl)
      exact ⟨List.takeWhile_cons_of_neg hc, List.dropWhile_cons_of_neg hc⟩
  rw [digits?, List.takeWhile_append_of_pos hall, List.dropWhile_append_of_pos hall, hcut.1, hcut.2, List.append_nil]
  split
  · exact absurd rfl hne
  · rfl

/-- The digits before the point: a zero stands alone. -/
def IsWhole (whole : List Char) : Prop :=
  whole = ['0'] ∨ IsDigits whole ∧ whole.head? ≠ some '0'

/-- The digits before the point begin with one of them. -/
theorem IsWhole.exists_cons {whole : List Char} (h : IsWhole whole) :
    ∃ c more, whole = c :: more ∧ c.isDigit = true := by
  rcases h with rfl | ⟨hdigits, -⟩
  · exact ⟨'0', [], rfl, rfl⟩
  · exact hdigits.exists_cons

/-- A point with digits behind it, or nothing. -/
def IsFraction (fraction : List Char) : Prop :=
  fraction = [] ∨ ∃ digits, IsDigits digits ∧ fraction = '.' :: digits

/-- These characters stand before an exponent. -/
def isMark (c : Char) : Bool :=
  c = 'e' || c = 'E'

private theorem isMark_iff {c : Char} : isMark c = true ↔ c = 'e' ∨ c = 'E' := by
  rw [isMark, Bool.or_eq_true_iff, decide_eq_true_iff, decide_eq_true_iff]

/-- A mark with an optional sign and digits behind it, or nothing. -/
def IsExponent (exponent : List Char) : Prop :=
  exponent = [] ∨ ∃ mark sign digits, isMark mark = true ∧ (sign = [] ∨ sign = ['+'] ∨ sign = ['-']) ∧
    IsDigits digits ∧ exponent = mark :: (sign ++ digits)

/-- What a number stands for: an integer if it has neither a point nor an exponent, and is not a zero with a sign. -/
def numeralValue (sign whole fraction exponent : List Char) : JsonValue :=
  let magnitude : Nat := whole.foldl (fun value c => value * 10 + (c.toNat - 48)) 0
  if fraction.isEmpty && exponent.isEmpty && !(magnitude = 0 && !sign.isEmpty) then
    integer (if sign.isEmpty then magnitude else -(magnitude : Int))
  else number (String.ofList (sign ++ whole ++ fraction ++ exponent))

/-- A number as it is written. -/
structure Numeral where
  sign : List Char
  whole : List Char
  fraction : List Char
  exponent : List Char
  isSign : sign = [] ∨ sign = ['-']
  isWhole : IsWhole whole
  isFraction : IsFraction fraction
  isExponent : IsExponent exponent

namespace Numeral

/-- The text of a number. -/
def chars (numeral : Numeral) : List Char :=
  numeral.sign ++ numeral.whole ++ numeral.fraction ++ numeral.exponent

/-- The value of a number. -/
def value (numeral : Numeral) : JsonValue :=
  numeralValue numeral.sign numeral.whole numeral.fraction numeral.exponent

end Numeral

/-- With these characters a number can go on. -/
def continuesNumeral (c : Char) : Bool :=
  c.isDigit || c == '.' || isMark c

/-- The whole part that is cut off is one of the grammar, and stands in front of what is left. -/
theorem wholePart?_eq_some {input whole rest : List Char} (hwhole : wholePart? input = some (whole, rest)) :
    IsWhole whole ∧ input = whole ++ rest := by
  rw [wholePart?.eq_def] at hwhole
  split at hwhole
  · cases hwhole
    exact ⟨.inl rfl, rfl⟩
  · next hzero =>
    obtain ⟨hdigits, hinput⟩ := digits?_eq_some hwhole
    refine ⟨.inr ⟨hdigits, fun hhead => ?_⟩, hinput⟩
    obtain ⟨more, rfl⟩ := List.head?_eq_some_iff.1 hhead
    exact hzero (more ++ rest) hinput

/-- A whole part is cut off as it is if no digit follows it. -/
theorem wholePart?_append {whole rest : List Char} (hwhole : IsWhole whole) (hrest : Stops Char.isDigit rest) :
    wholePart? (whole ++ rest) = some (whole, rest) := by
  rcases hwhole with rfl | ⟨hdigits, hzero⟩
  · rfl
  · rw [wholePart?.eq_def]
    split
    · next more hinput =>
      obtain ⟨c, digits, rfl, -⟩ := hdigits.exists_cons
      cases hinput
      exact absurd rfl hzero
    · exact digits?_append hdigits hrest

/-- The fraction that is cut off is one of the grammar, and stands in front of what is left. -/
theorem fractionPart?_eq_some {input fraction rest : List Char}
    (hfraction : fractionPart? input = some (fraction, rest)) : IsFraction fraction ∧ input = fraction ++ rest := by
  rw [fractionPart?.eq_def] at hfraction
  split at hfraction
  · obtain ⟨⟨digits, after⟩, hdigits, heq⟩ := Option.map_eq_some_iff.1 hfraction
    cases heq
    obtain ⟨hdigits, hinput⟩ := digits?_eq_some hdigits
    exact ⟨.inr ⟨digits, hdigits, rfl⟩, congrArg _ hinput⟩
  · cases hfraction
    exact ⟨.inl rfl, rfl⟩

/-- A fraction is cut off as it is if nothing follows it with which it could go on. -/
theorem fractionPart?_append {fraction rest : List Char} (hfraction : IsFraction fraction)
    (hrest : Stops (fun c => c.isDigit || c == '.') rest) :
    fractionPart? (fraction ++ rest) = some (fraction, rest) := by
  rcases hfraction with rfl | ⟨digits, hdigits, rfl⟩
  · rw [List.nil_append, fractionPart?.eq_def]
    split
    · exact absurd (hrest '.' rfl) (by decide)
    · rfl
  · have hstops : Stops Char.isDigit rest := hrest.mono fun c hc => (Bool.or_eq_false_iff.1 hc).1
    exact congrArg (Option.map _) (digits?_append hdigits hstops)

/-- The exponent that is cut off is one of the grammar, and stands in front of what is left. -/
theorem exponentPart?_eq_some {input exponent rest : List Char}
    (hexponent : exponentPart? input = some (exponent, rest)) : IsExponent exponent ∧ input = exponent ++ rest := by
  have hsigned (mark : Char) (sign : List Char) {more : List Char} (hmark : isMark mark = true)
      (hsign : sign = [] ∨ sign = ['+'] ∨ sign = ['-'])
      (hread : (digits? more).map (fun read => (mark :: (sign ++ read.1), read.2)) = some (exponent, rest)) :
      IsExponent exponent ∧ mark :: (sign ++ more) = exponent ++ rest := by
    obtain ⟨⟨digits, after⟩, hdigits, heq⟩ := Option.map_eq_some_iff.1 hread
    cases heq
    obtain ⟨hdigits, hmore⟩ := digits?_eq_some hdigits
    exact ⟨.inr ⟨mark, sign, digits, hmark, hsign, hdigits, rfl⟩, by simp [hmore]⟩
  rw [exponentPart?.eq_def] at hexponent
  split at hexponent
  · next mark more =>
    split at hexponent
    · next hmark =>
      split at hexponent
      · exact hsigned mark ['+'] hmark (.inr (.inl rfl)) hexponent
      · exact hsigned mark ['-'] hmark (.inr (.inr rfl)) hexponent
      · exact hsigned mark [] hmark (.inl rfl) hexponent
    · cases hexponent
      exact ⟨.inl rfl, rfl⟩
  · cases hexponent
    exact ⟨.inl rfl, rfl⟩

/-- An exponent is cut off as it is if nothing follows it with which it could go on. -/
theorem exponentPart?_append {exponent rest : List Char} (hexponent : IsExponent exponent)
    (hrest : Stops continuesNumeral rest) : exponentPart? (exponent ++ rest) = some (exponent, rest) := by
  have hdigitless : Stops Char.isDigit rest := hrest.mono fun c hc => by
    exact (Bool.or_eq_false_iff.1 (Bool.or_eq_false_iff.1 hc).1).1
  rcases hexponent with rfl | ⟨mark, sign, digits, hmark, hsign, hdigits, rfl⟩
  · cases rest with
    | nil => rfl
    | cons c more =>
      have hc := hrest c rfl
      exact if_neg (Bool.eq_false_iff.1 (Bool.or_eq_false_iff.1 hc).2)
  · have hread := congrArg (Option.map fun read => (mark :: (sign ++ read.1), read.2))
      (digits?_append hdigits hdigitless)
    rw [List.cons_append, List.append_assoc, exponentPart?.eq_def]
    dsimp only
    rw [if_pos (by exact hmark)]
    rcases hsign with rfl | rfl | rfl
    · -- What starts with a digit has no sign.
      obtain ⟨c, more, rfl, hc⟩ := hdigits.exists_cons
      split
      · next heq => cases heq; cases hc
      · next heq => cases heq; cases hc
      · exact hread
    · exact hread
    · exact hread

/-- The sign of a number, and what follows it. -/
def signPart (input : List Char) : List Char × List Char :=
  match input with
  | '-' :: rest => (['-'], rest)
  | rest => ([], rest)

private theorem signPart_eq (input : List Char) :
    ((signPart input).1 = [] ∨ (signPart input).1 = ['-']) ∧ input = (signPart input).1 ++ (signPart input).2 := by
  rw [signPart.eq_def]
  split
  · exact ⟨.inr rfl, rfl⟩
  · exact ⟨.inl rfl, rfl⟩

private theorem signPart_append {sign rest : List Char} (hsign : sign = [] ∨ sign = ['-'])
    (hrest : Stops (· == '-') rest) : signPart (sign ++ rest) = (sign, rest) := by
  rcases hsign with rfl | rfl
  · rw [List.nil_append, signPart.eq_def]
    split
    · exact absurd (hrest '-' rfl) (by decide)
    · rfl
  · rfl

/-- Reading a number is cutting off its sign, its whole part, its fraction and its exponent. -/
theorem readNumber_eq (input : List Char) :
    readNumber input = (wholePart? (signPart input).2).bind fun whole =>
      (fractionPart? whole.2).bind fun fraction => (exponentPart? fraction.2).bind fun exponent =>
        some (numeralValue (signPart input).1 whole.1 fraction.1 exponent.1, exponent.2) := by
  refine Option.bind_congr fun whole _ => Option.bind_congr fun fraction _ => Option.bind_congr fun exponent _ => ?_
  exact (apply_ite (fun value => some (value, exponent.2)) _ _ _).symm

/-- What is read as a number is the text of one, with the value that was read. -/
theorem readNumber_eq_some {input rest : List Char} {value : JsonValue}
    (hread : readNumber input = some (value, rest)) : ∃ numeral : Numeral, value = numeral.value ∧
      input = numeral.chars ++ rest := by
  simp only [readNumber_eq, Option.bind_eq_some_iff] at hread
  obtain ⟨⟨whole, afterWhole⟩, hwhole, ⟨fraction, afterFraction⟩, hfraction, ⟨exponent, after⟩, hexponent, heq⟩ := hread
  cases heq
  obtain ⟨hsign, hinput⟩ := signPart_eq input
  obtain ⟨hwhole, hafterSign⟩ := wholePart?_eq_some hwhole
  obtain ⟨hfraction, hafterWhole⟩ := fractionPart?_eq_some hfraction
  obtain ⟨hexponent, hafterFraction⟩ := exponentPart?_eq_some hexponent
  refine ⟨⟨(signPart input).1, whole, fraction, exponent, hsign, hwhole, hfraction, hexponent⟩, rfl, hinput.trans ?_⟩
  dsimp only at hafterWhole hafterFraction
  rw [hafterSign, hafterWhole, hafterFraction, Numeral.chars]
  simp only [List.append_assoc]

/-- No number ends before a character with which it goes on. -/
theorem Numeral.readNumber_append (numeral : Numeral) {rest : List Char} (hrest : Stops continuesNumeral rest) :
    readNumber (numeral.chars ++ rest) = some (numeral.value, rest) := by
  obtain ⟨sign, whole, fraction, exponent, hsign, hwhole, hfraction, hexponent⟩ := numeral
  have hafterFraction : Stops (fun c => c.isDigit || c == '.') (exponent ++ rest) := by
    refine .append ?_ fun _ => hrest.mono fun c hc => (Bool.or_eq_false_iff.1 hc).1
    rcases hexponent with rfl | ⟨mark, expSign, digits, hmark, -, -, rfl⟩
    · exact nofun
    · rcases isMark_iff.1 hmark with rfl | rfl <;> exact .cons rfl _
  have hafterWhole : Stops Char.isDigit (fraction ++ (exponent ++ rest)) := by
    refine .append ?_ fun _ => hafterFraction.mono fun c hc => (Bool.or_eq_false_iff.1 hc).1
    rcases hfraction with rfl | ⟨digits, -, rfl⟩
    · exact nofun
    · exact .cons rfl _
  have hafterSign : Stops (· == '-') (whole ++ (fraction ++ (exponent ++ rest))) := by
    obtain ⟨c, more, rfl, hc⟩ := hwhole.exists_cons
    have hne : (c == '-') = false := beq_eq_false_iff_ne.2 fun heq => absurd (heq ▸ hc) (by decide)
    exact .cons (c := c) hne _
  have hchars : Numeral.chars ⟨sign, whole, fraction, exponent, hsign, hwhole, hfraction, hexponent⟩ ++ rest =
      sign ++ (whole ++ (fraction ++ (exponent ++ rest))) := by
    simp only [chars, List.append_assoc]
  rw [hchars, readNumber_eq, signPart_append hsign hafterSign, wholePart?_append hwhole hafterWhole,
    Option.bind_some, fractionPart?_append hfraction hafterFraction, Option.bind_some,
    exponentPart?_append hexponent hrest, Option.bind_some]
  rfl

end Numerals

section Texts

/-- These characters stand for themselves between quotes. -/
structure IsPlain (c : Char) : Prop where
  le_toNat : 0x20 ≤ c.toNat
  ne_quote : c ≠ '"'
  ne_backslash : c ≠ '\\'

/-- What stands between quotes, with the code points that it stands for. -/
inductive IsUnits : List Char → List Nat → Prop
  | nil : IsUnits [] []
  | plain {c : Char} {input : List Char} {units : List Nat} (hc : IsPlain c) (hmore : IsUnits input units) :
      IsUnits (c :: input) (c.toNat :: units)
  | short {c meant : Char} {input : List Char} {units : List Nat} (hc : shortEscape? c = some meant)
      (hmore : IsUnits input units) : IsUnits ('\\' :: c :: input) (meant.toNat :: units)
  | hex {a b c d : Char} {unit : Nat} {input : List Char} {units : List Nat} (hunit : hexUnit? a b c d = some unit)
      (hmore : IsUnits input units) : IsUnits ('\\' :: 'u' :: a :: b :: c :: d :: input) (unit :: units)

/-- What stands between quotes in the grammar is read as the code points that it stands for. -/
theorem IsUnits.readUnits_append {input : List Char} {units : List Nat} (h : IsUnits input units) (rest : List Char) :
    readUnits (input ++ '"' :: rest) = some (units, rest) := by
  induction h with
  | nil => rw [List.nil_append, readUnits]
  | @plain c input units hc _ ih =>
    have hchar : ¬(decide (c.toNat < 0x20) || decide (c = '\\')) = true := by
      simpa using ⟨hc.le_toNat, hc.ne_backslash⟩
    rw [List.cons_append, readUnits, if_neg hchar, ih]
    · rfl
    · exact hc.ne_quote
    · exact fun _ _ _ _ _ heq => absurd heq hc.ne_backslash
    · exact fun _ _ heq => absurd heq hc.ne_backslash
  | @short c meant input units hc _ ih =>
    have hother : c ≠ 'u' := by
      rintro rfl
      cases hc
    rw [List.cons_append, List.cons_append, readUnits, hc, ih]
    · rfl
    · exact fun _ _ _ _ _ heq => absurd heq hother
  | @hex a b c d unit input units hunit _ ih =>
    simp only [List.cons_append]
    rw [readUnits, hunit, ih]
    rfl

/-- What is read up to the closing quote stands between quotes in the grammar. -/
theorem readUnits_eq_some {input rest : List Char} {units : List Nat} (hread : readUnits input = some (units, rest)) :
    ∃ body, IsUnits body units ∧ input = body ++ '"' :: rest := by
  -- One case for each way in which a text goes on: its end, an escape in digits, a short one, a plain character.
  induction input using readUnits.induct generalizing units with
  | case1 => cases hread
  | case2 more =>
    rw [readUnits] at hread
    cases hread
    exact ⟨[], .nil, rfl⟩
  | case3 a b c d more ih =>
    simp only [readUnits, Option.bind_eq_bind, Option.bind_eq_some_iff] at hread
    obtain ⟨unit, hunit, ⟨after, last⟩, hmore, heq⟩ := hread
    cases heq
    obtain ⟨body, hbody, rfl⟩ := ih hmore
    exact ⟨_, .hex hunit hbody, rfl⟩
  | case4 c more hother ih =>
    rw [readUnits.eq_4 c more hother] at hread
    simp only [Option.bind_eq_bind, Option.bind_eq_some_iff] at hread
    obtain ⟨meant, hc, ⟨after, last⟩, hmore, heq⟩ := hread
    cases heq
    obtain ⟨body, hbody, rfl⟩ := ih hmore
    exact ⟨_, .short hc hbody, rfl⟩
  | case5 c more hquote hhex hshort hrefused =>
    rw [readUnits.eq_5 c more hquote hhex hshort, if_pos hrefused] at hread
    cases hread
  | case6 c more hquote hhex hshort hplain ih =>
    rw [readUnits.eq_5 c more hquote hhex hshort, if_neg hplain] at hread
    simp only [Option.bind_eq_bind, Option.bind_eq_some_iff] at hread
    obtain ⟨⟨after, last⟩, hmore, heq⟩ := hread
    cases heq
    obtain ⟨body, hbody, rfl⟩ := ih hmore
    simp only [Bool.or_eq_true, decide_eq_true_eq, not_or, Nat.not_lt] at hplain
    exact ⟨_, .plain ⟨hplain.1, hquote, hplain.2⟩ hbody, rfl⟩

/-- A text that code points stand for, if they stand for one. -/
def unitText (units : List Nat) : Option String :=
  (joinUnits units).map String.ofList

/-- A text between quotes is read as the text that its code points stand for. -/
theorem readText_append {body : List Char} {units : List Nat} (hbody : IsUnits body units) (rest : List Char) :
    readText (body ++ '"' :: rest) = some (unitText units, rest) := by
  rw [readText, hbody.readUnits_append]
  rfl

/-- What is read as a text stands between quotes in the grammar. -/
theorem readText_eq_some {input rest : List Char} {value : Option String}
    (hread : readText input = some (value, rest)) :
    ∃ body units, IsUnits body units ∧ value = unitText units ∧ input = body ++ '"' :: rest := by
  simp only [readText, Option.bind_eq_bind, Option.bind_eq_some_iff] at hread
  obtain ⟨⟨units, after⟩, hunits, heq⟩ := hread
  cases heq
  obtain ⟨body, hbody, hinput⟩ := readUnits_eq_some hunits
  exact ⟨body, units, hbody, rfl, hinput⟩

end Texts

mutual

/-- A text of a value, from its first character to its last one. Blanks may stand around an item, around the key and
the value of a member, and around the whole. -/
inductive IsValue : List Char → JsonValue → Prop
  | null : IsValue ['n', 'u', 'l', 'l'] .null
  | yes : IsValue ['t', 'r', 'u', 'e'] (.truth true)
  | no : IsValue ['f', 'a', 'l', 's', 'e'] (.truth false)
  | numeral (numeral : Numeral) : IsValue numeral.chars numeral.value
  | quoted {body : List Char} {units : List Nat} (hbody : IsUnits body units) :
      IsValue ('"' :: (body ++ ['"'])) (.text (unitText units))
  | noItems {blanks : List Char} (hblanks : IsBlanks blanks) : IsValue ('[' :: (blanks ++ [']'])) (.array [])
  | items {body : List Char} {items : List JsonValue} (hbody : IsItems body items) :
      IsValue ('[' :: (body ++ [']'])) (.array items)
  | noMembers {blanks : List Char} (hblanks : IsBlanks blanks) :
      IsValue ('\x7b' :: (blanks ++ ['\x7d'])) (.object [])
  | members {body : List Char} {fields : List (Option String × JsonValue)} (hbody : IsMembers body fields) :
      IsValue ('\x7b' :: (body ++ ['\x7d'])) (.object fields)

/-- A text of a value with blanks around it. -/
inductive IsPadded : List Char → JsonValue → Prop
  | mk {before body after : List Char} {value : JsonValue} (hbefore : IsBlanks before) (hvalue : IsValue body value)
      (hafter : IsBlanks after) : IsPadded (before ++ (body ++ after)) value

/-- A text of items, at least one, with commas between them. -/
inductive IsItems : List Char → List JsonValue → Prop
  | one {body : List Char} {item : JsonValue} (hitem : IsPadded body item) : IsItems body [item]
  | more {body rest : List Char} {item : JsonValue} {items : List JsonValue} (hitem : IsPadded body item)
      (hrest : IsItems rest items) : IsItems (body ++ ',' :: rest) (item :: items)

/-- A text of a member of an object: a key, a colon and a value. -/
inductive IsMember : List Char → Option String × JsonValue → Prop
  | mk {before key between body : List Char} {units : List Nat} {value : JsonValue} (hbefore : IsBlanks before)
      (hkey : IsUnits key units) (hbetween : IsBlanks between) (hvalue : IsPadded body value) :
      IsMember (before ++ '"' :: (key ++ '"' :: (between ++ ':' :: body))) (unitText units, value)

/-- A text of members, at least one, with commas between them. -/
inductive IsMembers : List Char → List (Option String × JsonValue) → Prop
  | one {body : List Char} {field : Option String × JsonValue} (hmember : IsMember body field) :
      IsMembers body [field]
  | more {body rest : List Char} {field : Option String × JsonValue} {fields : List (Option String × JsonValue)}
      (hmember : IsMember body field) (hrest : IsMembers rest fields) : IsMembers (body ++ ',' :: rest) (field :: fields)

end

end PageRouter.JsonValue
