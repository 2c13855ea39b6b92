import PageRouter.Text.Integer

namespace PageRouter.Text.Binary64

/-- The bits of the sign. -/
def signBit : Nat := Nat.pow 2 63

/-- The bits of infinity. -/
def infinity : Nat := 2047 * Nat.pow 2 52

/-- The bits of the number that is no number. -/
def notANumber : Nat := infinity + Nat.pow 2 51

/-- A quotient rounded to the nearest integer, a half to the even one. -/
def roundQuotient (num den : Nat) : Nat :=
  let quotient := num / den
  let rest := 2 * (num % den)
  if rest > den || (rest == den && quotient % 2 == 1) then quotient + 1 else quotient

/-- Numerator and denominator after division by a power of two. -/
def scale (num den : Nat) (exponent : Int) : Nat × Nat :=
  if 0 ≤ exponent then (num, den * Nat.pow 2 exponent.toNat) else (num * Nat.pow 2 (-exponent).toNat, den)

/-- The bits of the number nearest to a positive quotient, and of two equally near ones the even one. -/
def ofQuotient (num den : Nat) : Nat :=
  let least : Int := (num.log2 : Int) - den.log2 - 53
  let (n, d) := scale num den least
  let exponent := max (-1074) (if n / d ≥ Nat.pow 2 53 then least + 1 else least)
  let (n, d) := scale num den exponent
  min infinity ((exponent + 1074).toNat * Nat.pow 2 52 + roundQuotient n d)

/-- The bits of the number nearest to `digits` times a power of ten. -/
def ofDecimal (digits : Nat) (exponent : Int) : Nat :=
  let magnitude := exponent + (Nat.toDigits 10 digits).length
  if digits = 0 || magnitude < -400 then 0
  else if magnitude > 400 then infinity
  else if 0 ≤ exponent then ofQuotient (digits * Nat.pow 10 exponent.toNat) 1
  else ofQuotient digits (Nat.pow 10 (-exponent).toNat)

def digitsValue (digits : List Char) : Nat :=
  digits.foldl (fun value c => value * 10 + (c.toNat - 48)) 0

def exponent? : List Char → Option Int
  | [] => some 0
  | c :: rest =>
    if c = 'e' || c = 'E' then
      let (negative, digits) := match rest with
        | '-' :: digits => (true, digits)
        | '+' :: digits => (false, digits)
        | digits => (false, digits)
      if digits.isEmpty || !digits.all Char.isDigit then none
      else some (if negative then -(digitsValue digits : Int) else digitsValue digits)
    else none

def unsigned? (text : List Char) : Option Nat :=
  let whole := text.takeWhile Char.isDigit
  let rest := text.dropWhile Char.isDigit
  let (fraction, rest) := match rest with
    | '.' :: rest => (rest.takeWhile Char.isDigit, rest.dropWhile Char.isDigit)
    | rest => ([], rest)
  let name := String.ofList (text.map Char.toLower)
  if name = "inf" || name = "infinity" then some infinity
  else if name = "nan" then some notANumber
  else if whole.isEmpty && fraction.isEmpty then none
  else (exponent? rest).map fun e => ofDecimal (digitsValue (whole ++ fraction)) (e - fraction.length)

/-- Why a text is no number. -/
inductive Flaw where
  | empty
  | invalid
  deriving DecidableEq, Repr

def Flaw.message : Flaw → String
  | empty => "cannot parse float from empty string"
  | invalid => "invalid float literal"

def read (text : List Char) : Except Flaw Nat :=
  let found := match text with
    | '-' :: rest => (unsigned? rest).map (signBit + ·)
    | '+' :: rest => unsigned? rest
    | _ => unsigned? text
  match text, found with
  | [], _ => .error .empty
  | _, some bits => .ok bits
  | _, none => .error .invalid

end PageRouter.Text.Binary64
