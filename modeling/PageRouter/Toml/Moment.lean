import PageRouter.Text.Integer

namespace PageRouter.Toml

/-- A day of the calendar. -/
structure Date where
  year : Nat
  month : Nat
  day : Nat
  deriving DecidableEq, Repr

/-- A time of day. -/
structure Time where
  hour : Nat
  minute : Nat
  second : Nat := 0
  /-- The digits after the point, at most nine, without zeros at their end. -/
  fraction : List Char := []
  deriving DecidableEq, Repr

/-- How far a clock is from universal time. -/
inductive Offset where
  | universal
  /-- Minutes ahead of universal time. -/
  | shift (minutes : Int)
  deriving DecidableEq, Repr

/-- A date, a time, both, or both with an offset from universal time. -/
structure Moment where
  date : Option Date := none
  time : Option Time := none
  offset : Option Offset := none
  deriving DecidableEq, Repr

/-- The digits of a number, filled up with zeros in front. -/
def padded (width n : Nat) : List Char :=
  let digits := Nat.toDigits 10 n
  List.replicate (width - digits.length) '0' ++ digits

def Date.chars (date : Date) : List Char :=
  padded 4 date.year ++ '-' :: padded 2 date.month ++ '-' :: padded 2 date.day

/-- A time as text, always with seconds. A fraction that is zero is left out. -/
def Time.chars (time : Time) : List Char :=
  padded 2 time.hour ++ ':' :: padded 2 time.minute ++ ':' :: padded 2 time.second ++
    if time.fraction.isEmpty then [] else '.' :: time.fraction

def Offset.chars : Offset → List Char
  | universal => ['Z']
  | shift minutes =>
    (if minutes < 0 then '-' else '+') :: padded 2 (minutes.natAbs / 60) ++
      ':' :: padded 2 (minutes.natAbs % 60)

/-- A moment as text, with a `T` between date and time. -/
def Moment.render (moment : Moment) : String :=
  let date := (moment.date.map Date.chars).getD []
  let time := (moment.time.map Time.chars).getD []
  let offset := (moment.offset.map Offset.chars).getD []
  String.ofList (date ++ (if moment.date.isSome && moment.time.isSome then ['T'] else []) ++ time ++ offset)

def fixedDigits? : Nat → Nat → List Char → Option (Nat × List Char)
  | 0, value, rest => some (value, rest)
  | _ + 1, _, [] => none
  | count + 1, value, c :: rest => do
    let digit ← Text.digitValue? c
    fixedDigits? count (value * 10 + digit) rest

def nextPair? (separator : Char) : List Char → Option (Nat × List Char)
  | c :: rest => if c = separator then fixedDigits? 2 0 rest else none
  | [] => none

def daysIn (year month : Nat) : Nat :=
  if month = 2 then
    if year % 4 = 0 ∧ (year % 100 ≠ 0 ∨ year % 400 = 0) then 29 else 28
  else if month = 4 ∨ month = 6 ∨ month = 9 ∨ month = 11 then 30
  else 31

def Date.read? (input : List Char) : Option (Date × List Char) := do
  let (year, rest) ← fixedDigits? 4 0 input
  let (month, rest) ← nextPair? '-' rest
  let (day, rest) ← nextPair? '-' rest
  if 1 ≤ month ∧ month ≤ 12 ∧ 1 ≤ day ∧ day ≤ daysIn year month then some (⟨year, month, day⟩, rest)
  else none

/-- Digits after a point as they are kept. -/
def keptFraction (digits : List Char) : List Char :=
  ((digits.take 9).reverse.dropWhile (· = '0')).reverse

/-- Cuts a time off. Seconds may be missing, which stands for none; a fraction needs them. -/
def Time.read? (input : List Char) : Option (Time × List Char) := do
  let (hour, rest) ← fixedDigits? 2 0 input
  let (minute, rest) ← nextPair? ':' rest
  if hour > 23 ∨ minute > 59 then none
  else
    match nextPair? ':' rest with
    | none => some ({ hour, minute }, rest)
    | some (second, rest) =>
      if second > 60 then none
      else
        match rest with
        | '.' :: rest =>
          let digits := rest.takeWhile Char.isDigit
          if digits.isEmpty then none
          else some (⟨hour, minute, second, keptFraction digits⟩, rest.dropWhile Char.isDigit)
        | rest => some ({ hour, minute, second }, rest)

/-- Reads what follows a time, which is an offset or nothing. -/
def Offset.read? : List Char → Option (Option Offset)
  | [] => some none
  | ['Z'] | ['z'] => some (some universal)
  | sign :: rest =>
    if sign = '+' ∨ sign = '-' then do
      let (hours, rest) ← fixedDigits? 2 0 rest
      let (minutes, rest) ← nextPair? ':' rest
      if hours > 23 ∨ minutes > 59 ∨ !rest.isEmpty then none
      else
        let total : Int := hours * 60 + minutes
        some (some (shift (if sign = '-' then -total else total)))
    else none

/-- Reads a moment. Between date and time stands a `T`, a `t` or a blank. -/
def Moment.read? (input : List Char) : Option Moment :=
  match Date.read? input with
  | none => do
    let (time, rest) ← Time.read? input
    if rest.isEmpty then some { time := some time } else none
  | some (date, []) => some { date := some date }
  | some (date, separator :: rest) =>
    if separator = 'T' ∨ separator = 't' ∨ separator = ' ' then do
      let (time, rest) ← Time.read? rest
      let offset ← Offset.read? rest
      some { date := some date, time := some time, offset }
    else none

end PageRouter.Toml
