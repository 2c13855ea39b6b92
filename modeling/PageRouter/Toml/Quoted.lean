import PageRouter.Text.Percent

namespace PageRouter.Toml

/-- Whether a character may stand neither in a comment nor between quotes. -/
def isForbidden (c : Char) : Bool :=
  c.toNat < 0x20 && c != '\t' || c.toNat == 0x7F

def isBlank (c : Char) : Bool :=
  c == ' ' || c == '\t'

def codeDigits? : Nat → Nat → List Char → Option (Nat × List Char)
  | 0, value, rest => some (value, rest)
  | _ + 1, _, [] => none
  | count + 1, value, c :: rest => do
    let digit ← Text.hexValue? c
    codeDigits? count (value * 16 + digit) rest

private theorem length_le_of_codeDigits? {count value code : Nat} {input rest : List Char}
    (h : codeDigits? count value input = some (code, rest)) : rest.length ≤ input.length := by
  induction count generalizing value input with
  | zero => simp_all [codeDigits?]
  | succ count ih =>
    cases input with
    | nil => simp [codeDigits?] at h
    | cons c input =>
      simp only [codeDigits?, Option.bind_eq_bind, Option.bind_eq_some_iff] at h
      obtain ⟨digit, _, h⟩ := h
      exact Nat.le_succ_of_le (ih h)

/-- The character of a code that so many hexadecimal digits give. -/
def codeChar? (count : Nat) (input : List Char) : Option (Char × List Char) :=
  match codeDigits? count 0 input with
  | some (code, rest) => if code.isValidChar then some (Char.ofNat code, rest) else none
  | none => none

/-- What a letter after a backslash stands for by itself. -/
def letterEscape? (c : Char) : Option Char :=
  match c with
  | 'b' => some '\x08'
  | 't' => some '\t'
  | 'n' => some '\n'
  | 'f' => some '\x0c'
  | 'r' => some '\r'
  | 'e' => some '\x1b'
  | '"' => some '"'
  | '\\' => some '\\'
  | _ => none

def escape? : List Char → Option (Char × List Char)
  | [] => none
  | c :: rest =>
    if c = 'x' then codeChar? 2 rest
    else if c = 'u' then codeChar? 4 rest
    else if c = 'U' then codeChar? 8 rest
    else (letterEscape? c).map (·, rest)

private theorem length_le_of_codeChar? {count : Nat} {c : Char} {input rest : List Char}
    (h : codeChar? count input = some (c, rest)) : rest.length ≤ input.length := by
  unfold codeChar? at h
  split at h
  · next code more hcode =>
    split at h
    · simp only [Option.some.injEq, Prod.mk.injEq] at h
      exact h.2 ▸ length_le_of_codeDigits? hcode
    · simp at h
  · simp at h

private theorem length_lt_of_escape? {c : Char} {input rest : List Char}
    (h : escape? input = some (c, rest)) : rest.length < input.length := by
  cases input with
  | nil => simp [escape?] at h
  | cons first input =>
    simp only [escape?] at h
    split at h
    · exact Nat.lt_succ_of_le (length_le_of_codeChar? h)
    · split at h
      · exact Nat.lt_succ_of_le (length_le_of_codeChar? h)
      · split at h
        · exact Nat.lt_succ_of_le (length_le_of_codeChar? h)
        · simp only [Option.map_eq_some_iff, Prod.mk.injEq] at h
          obtain ⟨_, _, _, rfl⟩ := h
          simp

def withChar (c : Char) (found : List Char × List Char) : List Char × List Char :=
  (c :: found.1, found.2)

/-- Reads a text on one line up to its closing quotation mark, where a backslash starts an escape. -/
def readBasic : List Char → Option (List Char × List Char)
  | [] => none
  | '"' :: rest => some ([], rest)
  | '\\' :: rest =>
    match h : escape? rest with
    | some (c, more) =>
      have := length_lt_of_escape? h
      (readBasic more).map (withChar c)
    | none => none
  | c :: rest => if isForbidden c then none else (readBasic rest).map (withChar c)
termination_by input => input.length
decreasing_by all_goals grind

/-- Reads a text on one line up to its closing apostrophe, where every character stands for itself. -/
def readLiteral : List Char → Option (List Char × List Char)
  | [] => none
  | '\'' :: rest => some ([], rest)
  | c :: rest => if isForbidden c then none else (readLiteral rest).map (withChar c)

/-- Whether nothing but blanks stands before the end of the line. -/
def endsLine (input : List Char) : Bool :=
  match input.dropWhile isBlank with
  | '\n' :: _ => true
  | '\r' :: '\n' :: _ => true
  | _ => false

/-- Reads a text on many lines up to its three closing quotation marks, which may follow up to two of its own.
A backslash at the end of a line hides all blanks and line ends that follow; while they are passed,
`skipping` is true. -/
def readLongBasic (skipping : Bool) : List Char → Option (List Char × List Char)
  | [] => none
  | '"' :: '"' :: '"' :: '"' :: '"' :: rest => some (['"', '"'], rest)
  | '"' :: '"' :: '"' :: '"' :: rest => some (['"'], rest)
  | '"' :: '"' :: '"' :: rest => some ([], rest)
  | '\\' :: rest =>
    if endsLine rest then readLongBasic true rest
    else
      match h : escape? rest with
      | some (c, more) =>
        have := length_lt_of_escape? h
        (readLongBasic false more).map (withChar c)
      | none => none
  | '\r' :: '\n' :: rest =>
    if skipping then readLongBasic true rest
    else (readLongBasic false rest).map fun found => withChar '\r' (withChar '\n' found)
  | c :: rest =>
    if skipping && (isBlank c || c == '\n') then readLongBasic true rest
    else if isForbidden c && c != '\n' then none
    else (readLongBasic false rest).map (withChar c)
termination_by input => input.length
decreasing_by all_goals grind

/-- Reads a text on many lines up to its three closing apostrophes, which may follow up to two of its own. -/
def readLongLiteral : List Char → Option (List Char × List Char)
  | [] => none
  | '\'' :: '\'' :: '\'' :: '\'' :: '\'' :: rest => some (['\'', '\''], rest)
  | '\'' :: '\'' :: '\'' :: '\'' :: rest => some (['\''], rest)
  | '\'' :: '\'' :: '\'' :: rest => some ([], rest)
  | '\r' :: '\n' :: rest =>
    (readLongLiteral rest).map fun found => withChar '\r' (withChar '\n' found)
  | c :: rest =>
    if isForbidden c && c != '\n' then none else (readLongLiteral rest).map (withChar c)

def dropLineEnd : List Char → List Char
  | '\n' :: rest => rest
  | '\r' :: '\n' :: rest => rest
  | input => input

def readQuoted? : List Char → Option (List Char × List Char)
  | '"' :: rest => readBasic rest
  | '\'' :: rest => readLiteral rest
  | _ => none

def readText? : List Char → Option (List Char × List Char)
  | '"' :: '"' :: '"' :: rest => readLongBasic false (dropLineEnd rest)
  | '\'' :: '\'' :: '\'' :: rest => readLongLiteral (dropLineEnd rest)
  | input => readQuoted? input

end PageRouter.Toml
