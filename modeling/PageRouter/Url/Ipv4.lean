import PageRouter.Text.Percent
import PageRouter.Text.Split

namespace PageRouter.Url

/-- The value of digits in a base, if all of them are digits of it. -/
def digitsValue? (base : Nat) (digits : List Char) : Option Nat :=
  digits.foldlM (fun value c =>
    match Text.hexValue? c with
    | some d => if d < base then some (value * base + d) else none
    | none => none) 0

/-- Reads one number: `0x` starts a hexadecimal one and a leading zero an octal one. -/
def ipv4Number? (part : List Char) : Option Nat :=
  match part with
  | [] => none
  | '0' :: 'x' :: digits => digitsValue? 16 digits
  | '0' :: 'X' :: digits => digitsValue? 16 digits
  | '0' :: d :: digits => digitsValue? 8 (d :: digits)
  | digits => digitsValue? 10 digits

/-- The parts of a host between dots, without the empty one after a final dot. -/
def hostParts (host : List Char) : List (List Char) :=
  let parts := Text.pieces '.' host
  if parts.getLast? = some [] then parts.dropLast else parts

/-- Whether the last part of a host makes it a number, right or wrong. -/
def endsInNumber (host : List Char) : Bool :=
  match (hostParts host).getLast? with
  | none | some [] => false
  | some part => part.all Char.isDigit || (ipv4Number? part).isSome

def ipv4Text (address : Nat) : List Char :=
  (".".intercalate
    [toString (address / 16777216 % 256), toString (address / 65536 % 256),
      toString (address / 256 % 256), toString (address % 256)]).toList

/-- Reads a host as a number: one to four numbers between dots, in decimal, octal or hexadecimal, where the last one
fills all the bytes that are left. -/
def ipv4? (host : List Char) : Option (List Char) := do
  let parts := hostParts host
  if parts.length > 4 then none
  let numbers ← parts.mapM ipv4Number?
  let last ← numbers.getLast?
  let leading := numbers.dropLast
  if last ≥ Nat.pow 256 (4 - leading.length) || leading.any (· > 255) then none
  let base := leading.foldl (fun value n => value * 256 + n) 0
  some (ipv4Text (base * Nat.pow 256 (4 - leading.length) + last))

end PageRouter.Url
