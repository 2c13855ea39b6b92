namespace PageRouter.Text

/-- The character that stands for bytes that are no text. -/
def replacement : Char := '\uFFFD'

def isContinuation (b : UInt8) : Bool :=
  0x80 ≤ b && b ≤ 0xBF

/-- The six payload bits of a continuation byte. -/
def payload (b : UInt8) : Nat :=
  b.toNat % 64

/-- The bytes that may follow `lead` in second place: overlong forms, surrogates and code points past the
last one are cut off here. -/
def isSecond (lead b : UInt8) : Bool :=
  if lead == 0xE0 then 0xA0 ≤ b && b ≤ 0xBF
  else if lead == 0xED then 0x80 ≤ b && b ≤ 0x9F
  else if lead == 0xF0 then 0x90 ≤ b && b ≤ 0xBF
  else if lead == 0xF4 then 0x80 ≤ b && b ≤ 0x8F
  else isContinuation b

/-- Reads bytes as text, with U+FFFD for every maximal stretch of bytes that starts no well-formed character: a lead
byte with its valid continuation bytes, cut short, becomes one such character, and any other stray byte one of its
own. -/
def decodeLossy : List UInt8 → List Char
  | [] => []
  | lead :: rest =>
    if lead < 0x80 then Char.ofNat lead.toNat :: decodeLossy rest
    else if 0xC2 ≤ lead && lead ≤ 0xDF then
      match rest with
      | b :: more =>
        if isContinuation b then Char.ofNat (lead.toNat % 32 * 64 + payload b) :: decodeLossy more
        else replacement :: decodeLossy (b :: more)
      | [] => [replacement]
    else if 0xE0 ≤ lead && lead ≤ 0xEF then
      match rest with
      | b :: more =>
        if isSecond lead b then
          match more with
          | c :: tail =>
            if isContinuation c then
              Char.ofNat (lead.toNat % 16 * 4096 + payload b * 64 + payload c) :: decodeLossy tail
            else replacement :: decodeLossy (c :: tail)
          | [] => [replacement]
        else replacement :: decodeLossy (b :: more)
      | [] => [replacement]
    else if 0xF0 ≤ lead && lead ≤ 0xF4 then
      match rest with
      | b :: more =>
        if isSecond lead b then
          match more with
          | c :: tail =>
            if isContinuation c then
              match tail with
              | d :: last =>
                if isContinuation d then
                  Char.ofNat (lead.toNat % 8 * 262144 + payload b * 4096 + payload c * 64 + payload d) ::
                    decodeLossy last
                else replacement :: decodeLossy (d :: last)
              | [] => [replacement]
            else replacement :: decodeLossy (c :: tail)
          | [] => [replacement]
        else replacement :: decodeLossy (b :: more)
      | [] => [replacement]
    else replacement :: decodeLossy rest

def encode (text : List Char) : List UInt8 :=
  text.flatMap String.utf8EncodeChar

def decode? (bytes : List UInt8) : Option (List Char) :=
  (String.fromUTF8? ⟨bytes.toArray⟩).map String.toList

end PageRouter.Text
