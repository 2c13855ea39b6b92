namespace PageRouter.Text

/-- The upper-case hexadecimal digit of a value below 16. -/
def hexDigit (n : Nat) : Char :=
  if n < 10 then Char.ofNat (48 + n) else Char.ofNat (55 + n)

def hexValue? (c : Char) : Option Nat :=
  if '0' ≤ c ∧ c ≤ '9' then some (c.toNat - 48)
  else if 'a' ≤ c ∧ c ≤ 'f' then some (c.toNat - 87)
  else if 'A' ≤ c ∧ c ≤ 'F' then some (c.toNat - 55)
  else none

def percentEscape (b : UInt8) : List Char :=
  ['%', hexDigit (b.toNat / 16), hexDigit (b.toNat % 16)]

def hexByteValue? (b : UInt8) : Option Nat :=
  hexValue? (Char.ofNat b.toNat)

/-- Reads percent-encoded bytes. A percent sign without two hexadecimal digits after it stands for itself. -/
def percentDecode : List UInt8 → List UInt8
  | [] => []
  | b :: rest =>
    if b = 0x25 then
      match rest with
      | high :: low :: more =>
        match hexByteValue? high, hexByteValue? low with
        | some h, some l => UInt8.ofNat (h * 16 + l) :: percentDecode more
        | _, _ => b :: percentDecode (high :: low :: more)
      | short => b :: percentDecode short
    else b :: percentDecode rest

end PageRouter.Text
