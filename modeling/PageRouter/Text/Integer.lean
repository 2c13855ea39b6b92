namespace PageRouter.Text

/-- Why a text is no integer within the bounds. -/
inductive IntegerFlaw where
  | empty
  | invalidDigit
  | tooLarge
  | tooSmall
  deriving DecidableEq, Repr

def IntegerFlaw.message : IntegerFlaw → String
  | empty => "cannot parse integer from empty string"
  | invalidDigit => "invalid digit found in string"
  | tooLarge => "number too large to fit in target type"
  | tooSmall => "number too small to fit in target type"

def digitValue? (c : Char) : Option Nat :=
  if '0' ≤ c ∧ c ≤ '9' then some (c.toNat - 48) else none

/-- Continues a number with digits. The first character that is no digit, or that makes the number pass the
limit, decides the error. -/
def readDigits (limit : Nat) (passed : IntegerFlaw) (value : Nat) : List Char → Except IntegerFlaw Nat
  | [] => .ok value
  | c :: rest =>
    match digitValue? c with
    | none => .error .invalidDigit
    | some d =>
      if value * 10 + d > limit then .error passed else readDigits limit passed (value * 10 + d) rest

/-- Reads an integer from `-below` to `above`, with an optional sign. A minus sign is a sign only where
negative numbers exist. -/
def readInteger (below above : Nat) (text : List Char) : Except IntegerFlaw Int :=
  match text with
  | [] => .error .empty
  | ['+'] | ['-'] => .error .invalidDigit
  | '+' :: digits => (readDigits above .tooLarge 0 digits).map Int.ofNat
  | '-' :: digits =>
    if below = 0 then .error .invalidDigit
    else (readDigits below .tooSmall 0 digits).map fun n => -(n : Int)
  | digits => (readDigits above .tooLarge 0 digits).map Int.ofNat

end PageRouter.Text
