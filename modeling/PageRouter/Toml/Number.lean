import PageRouter.Text.Binary64
import PageRouter.Text.Percent
import PageRouter.Text.Split

namespace PageRouter.Toml

/-- Digits without the underscores that may stand between them. -/
def ungroup? (isDigit : Char → Bool) (digits : List Char) : Option (List Char) :=
  let groups := Text.pieces '_' digits
  if groups.all fun group => !group.isEmpty && group.all isDigit then some groups.flatten else none

/-- Decimal digits that do not start with a zero, unless it stands alone. -/
def wholeDigits? (digits : List Char) : Option (List Char) := do
  let digits ← ungroup? Char.isDigit digits
  if digits.length > 1 && digits.head? == some '0' then none else some digits

def digitsTo (base : Nat) (digits : List Char) : Nat :=
  digits.foldl (fun value c => value * base + (Text.hexValue? c).getD 0) 0

/-- A number without its sign, and whether the sign is a minus. -/
def cutSign : List Char → Bool × List Char
  | '+' :: rest => (false, rest)
  | '-' :: rest => (true, rest)
  | input => (false, input)

/-- Whether an integer has at most 128 bits, the sign aside or included. -/
def isRepresentable (value : Int) : Bool :=
  -(Nat.pow 2 127 : Int) ≤ value && value < Nat.pow 2 128

/-- The integer that a text writes down. Numbers to other bases have no sign. -/
def integer? (input : List Char) : Option Int := do
  let value : Int ← match input with
    | '0' :: 'x' :: digits => (ungroup? (Text.hexValue? · |>.isSome) digits).map (digitsTo 16 ·)
    | '0' :: 'o' :: digits => (ungroup? (fun c => '0' ≤ c && c ≤ '7') digits).map (digitsTo 8 ·)
    | '0' :: 'b' :: digits => (ungroup? (fun c => c == '0' || c == '1') digits).map (digitsTo 2 ·)
    | input =>
      let (negative, digits) := cutSign input
      (wholeDigits? digits).map fun digits =>
        if negative then -(digitsTo 10 digits : Int) else digitsTo 10 digits
  if isRepresentable value then some value else none

def exponentDigits? (input : List Char) : Option (List Char) :=
  let (negative, digits) := cutSign input
  (ungroup? Char.isDigit digits).map fun digits => if negative then '-' :: digits else digits

/-- A float without sign and underscores; it has a fraction, an exponent or both. -/
def plainFloat? (input : List Char) : Option (List Char) := do
  let isMark (c : Char) : Bool := c == 'e' || c == 'E'
  let mantissa := input.takeWhile (!isMark ·)
  let exponent ← match input.dropWhile (!isMark ·) with
    | [] => some []
    | _ :: rest => (exponentDigits? rest).map ('e' :: ·)
  match Text.pieces '.' mantissa with
  | [whole] => if exponent.isEmpty then none else return (← wholeDigits? whole) ++ exponent
  | [whole, fraction] =>
    return (← wholeDigits? whole) ++ '.' :: (← ungroup? Char.isDigit fraction) ++ exponent
  | _ => none

/-- The bits of the float that a text writes down. Only `inf` is infinite. -/
def float? (input : List Char) : Option Nat := do
  let (negative, digits) := cutSign input
  let bits ←
    if digits = "inf".toList then some Text.Binary64.infinity
    else if digits = "nan".toList then some Text.Binary64.notANumber
    else do
      let bits ← Text.Binary64.unsigned? (← plainFloat? digits)
      if bits = Text.Binary64.infinity then none else some bits
  return if negative then Text.Binary64.signBit + bits else bits

end PageRouter.Toml
