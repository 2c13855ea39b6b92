namespace PageRouter.Url.Punycode

/-- The digit of a value below 36. -/
def digit (n : Nat) : Char :=
  if n < 26 then Char.ofNat (97 + n) else Char.ofNat (22 + n)

/-- The value of a digit; the case of letters makes no difference. -/
def digitValue? (c : Char) : Option Nat :=
  if 'a' ≤ c ∧ c ≤ 'z' then some (c.toNat - 97)
  else if 'A' ≤ c ∧ c ≤ 'Z' then some (c.toNat - 65)
  else if '0' ≤ c ∧ c ≤ '9' then some (c.toNat - 22)
  else none

/-- The least value that continues a number at a position. -/
def threshold (position bias : Nat) : Nat :=
  if position ≤ bias then 1 else min (position - bias) 26

theorem threshold_bounds (position bias : Nat) :
    1 ≤ threshold position bias ∧ threshold position bias ≤ 26 := by
  unfold threshold
  split <;> omega

/-- Divides a difference by 35 until it is at most 455. -/
def scaleDown (delta position : Nat) : Nat × Nat :=
  if 455 < delta then scaleDown (delta / 35) (position + 36) else (delta, position)
termination_by delta

/-- The bias after a difference, where `count` characters are placed. -/
def adapt (delta count : Nat) (first : Bool) : Nat :=
  let delta := if first then delta / 700 else delta / 2
  let (delta, position) := scaleDown (delta + delta / count) 0
  position + 36 * delta / (delta + 38)

/-- A difference in digits. -/
def numberDigits (bias position value : Nat) : List Char :=
  let t := threshold position bias
  if value < t then [digit value]
  else digit (t + (value - t) % (36 - t)) :: numberDigits bias (position + 36) ((value - t) / (36 - t))
termination_by value
decreasing_by
  have h := threshold_bounds position bias
  exact Nat.lt_of_le_of_lt (Nat.div_le_self _ _) (by omega)

/-- What is known while characters are placed: the difference so far, the bias, how many characters are
placed, and the digits written. -/
structure Encoding where
  delta : Nat
  bias : Nat
  placed : Nat
  output : List Char

/-- Places the character `code` where it stands, and counts the smaller ones that are passed over. -/
def placeChar (basic code : Nat) (state : Encoding) (c : Char) : Encoding :=
  if c.toNat < code then { state with delta := state.delta + 1 }
  else if c.toNat = code then
    { delta := 0
      bias := adapt state.delta (state.placed + 1) (state.placed = basic)
      placed := state.placed + 1
      output := state.output ++ numberDigits state.bias 36 state.delta }
  else state

/-- Places all characters with the codes, in order. `next` is the least code that is still to come. -/
def placeCodes (label : List Char) (basic : Nat) : List Nat → Nat → Encoding → Encoding
  | [], _, state => state
  | code :: more, next, state =>
    let moved := { state with delta := state.delta + (code - next) * (state.placed + 1) }
    let placed := label.foldl (placeChar basic code) moved
    placeCodes label basic more (code + 1) { placed with delta := placed.delta + 1 }

/-- A label in Punycode, without the `xn--` in front. The ASCII characters come first; the others follow in ascending
order as differences of position, in digits of base 36 whose thresholds adapt to the differences seen so far. -/
def encode (label : List Char) : List Char :=
  let basic := label.filter (·.toNat < 128)
  let codes := ((label.filter (128 ≤ ·.toNat)).map Char.toNat).mergeSort.eraseDups
  let encoded := placeCodes label basic.length codes 128 ⟨0, 72, basic.length, []⟩
  basic ++ (if basic.isEmpty then [] else ['-']) ++ encoded.output

/-- Reads one number: its value added to `value`, and the digits that follow it. -/
def readNumber? (bias position weight value : Nat) : List Char → Option (Nat × List Char)
  | [] => none
  | c :: rest => do
    let d ← digitValue? c
    let value := value + d * weight
    let t := threshold position bias
    if d < t then some (value, rest)
    else readNumber? bias (position + 36) (weight * (36 - t)) value rest

private theorem readNumber?_length_lt {bias position weight value : Nat} {digits rest : List Char} {n : Nat}
    (h : readNumber? bias position weight value digits = some (n, rest)) :
    rest.length < digits.length := by
  induction digits generalizing position weight value with
  | nil => simp [readNumber?] at h
  | cons c more ih =>
    simp only [readNumber?, Option.bind_eq_bind, Option.bind_eq_some_iff] at h
    obtain ⟨d, _, h⟩ := h
    split at h
    · simp_all
    · exact Nat.lt_succ_of_lt (ih h)

/-- Inserts the characters that the digits stand for into a label. -/
def insertChars? (label : List Char) (code position bias : Nat) (digits : List Char) :
    Option (List Char) :=
  match h : readNumber? bias 36 1 position digits with
  | none => if digits.isEmpty then some label else none
  | some (value, rest) =>
    have := readNumber?_length_lt h
    let count := label.length + 1
    let code := code + value / count
    let index := value % count
    if Nat.isValidChar code then
      insertChars? (label.insertIdx index (Char.ofNat code)) code (index + 1)
        (adapt (value - position) count (position = 0)) rest
    else none
termination_by digits.length

/-- The label that a text in Punycode, without `xn--`, stands for. The hyphen before the digits is there only if
ASCII characters stand before it. -/
def decode? (text : List Char) : Option (List Char) :=
  let basic := (text.reverse.dropWhile (· ≠ '-')).drop 1 |>.reverse
  let digits := (text.reverse.takeWhile (· ≠ '-')).reverse
  if text.all (·.toNat < 128) && !(basic.isEmpty && text.contains '-') then
    insertChars? basic 128 0 72 digits
  else none

end PageRouter.Url.Punycode
