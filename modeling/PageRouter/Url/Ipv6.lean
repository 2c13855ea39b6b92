import PageRouter.Url.Ipv4

namespace PageRouter.Url

def ipv6Group? (digits : List Char) : Option Nat :=
  if digits.length = 0 || digits.length > 4 then none else digitsValue? 16 digits

/-- Reads one byte of a dotted quad, without leading zeros. -/
def quadByte? (digits : List Char) : Option Nat :=
  match digits with
  | [] => none
  | '0' :: _ :: _ => none
  | _ => (digitsValue? 10 digits).filter (· ≤ 255)

def quadGroups? (text : List Char) : Option (List Nat) :=
  match (Text.pieces '.' text).mapM quadByte? with
  | some [a, b, c, d] => some [a * 256 + b, c * 256 + d]
  | _ => none

/-- Reads groups between colons. The last one may be a dotted quad, if `quadAllowed`. -/
def ipv6Groups? (quadAllowed : Bool) : List (List Char) → Option (List Nat)
  | [] => some []
  | [last] =>
    if quadAllowed && last.contains '.' then quadGroups? last else (ipv6Group? last).map ([·])
  | first :: more => do
    let group ← ipv6Group? first
    let groups ← ipv6Groups? quadAllowed more
    return group :: groups

def ipv6Side? (quadAllowed : Bool) (text : List Char) : Option (List Nat) :=
  if text.isEmpty then some [] else ipv6Groups? quadAllowed (Text.pieces ':' text)

def cutAtDoubleColon : List Char → Option (List Char × List Char)
  | ':' :: ':' :: rest => some ([], rest)
  | c :: rest => (cutAtDoubleColon rest).map fun (before, after) => (c :: before, after)
  | [] => none

def ipv6Pieces? (text : List Char) : Option (List Nat) :=
  match cutAtDoubleColon text with
  | none => (ipv6Side? true text).filter (·.length = 8)
  | some (before, after) => do
    let left ← ipv6Side? false before
    let right ← ipv6Side? true after
    if left.length + right.length > 7 then none
    some (left ++ List.replicate (8 - left.length - right.length) 0 ++ right)

def zeroRun (groups : List Nat) (start : Nat) : Nat :=
  ((groups.drop start).takeWhile (· = 0)).length

/-- The start and length of the first longest run of at least two zero groups. -/
def longestZeroRun (groups : List Nat) : Option (Nat × Nat) :=
  (List.range groups.length).foldl (fun best start =>
    let run := zeroRun groups start
    match best with
    | some (_, length) => if length < run then some (start, run) else best
    | none => if 2 ≤ run then some (start, run) else none) none

def groupsText (groups : List Nat) : List Char :=
  Text.joinPieces ':' (groups.map (Nat.toDigits 16))

/-- Groups as they are written, with the longest run of zeros left out. -/
def ipv6Text (groups : List Nat) : List Char :=
  match longestZeroRun groups with
  | none => groupsText groups
  | some (start, length) =>
    groupsText (groups.take start) ++ [':', ':'] ++ groupsText (groups.drop (start + length))

/-- Reads what stands between the square brackets of a host: eight groups of hexadecimal digits, of which one run of
zeros may be left out. -/
def ipv6? (text : List Char) : Option (List Char) :=
  (ipv6Pieces? text).map ipv6Text

end PageRouter.Url
