import ClusterGateway.Number.Reading

/-!
# TOML moments

A moment is a date, a time of day, or both with an optional offset from universal time.
Its text has a capital T between date and time, seconds with at most nine decimals and no
trailing zeros among them, and a capital Z where the time is universal.
-/

namespace ClusterGateway.Toml

/-- A number of exactly `count` digits. -/
def readDigits? (count : Nat) (input : List Char) : Option (Nat × List Char) :=
  (allDigits? (input.take count)).bind fun value =>
    if (input.take count).length == count then some (value, input.drop count) else none

/-- Passes over one character. -/
def passOver? (mark : Char) : List Char → Option (List Char)
  | character :: rest => if character == mark then some rest else none
  | [] => none

/-- A number with zeros in front up to a width. -/
def padded (width number : Nat) : List Char :=
  let digits := Nat.toDigits 10 number
  List.replicate (width - digits.length) '0' ++ digits

/-- A year with a leap day. -/
def isLeap (year : Nat) : Bool := year % 4 == 0 && (year % 100 != 0 || year % 400 == 0)

/-- Number of days in a month. -/
def monthDays (year month : Nat) : Nat :=
  if month == 2 then (if isLeap year then 29 else 28)
  else if month == 4 || month == 6 || month == 9 || month == 11 then 30
  else 31

/-- A date. -/
def readDate? (input : List Char) : Option (List Char × List Char) := do
  let (year, rest) ← readDigits? 4 input
  let rest ← passOver? '-' rest
  let (month, rest) ← readDigits? 2 rest
  let rest ← passOver? '-' rest
  let (day, rest) ← readDigits? 2 rest
  if 1 ≤ month && month ≤ 12 && 1 ≤ day && day ≤ monthDays year month then
    some (padded 4 year ++ '-' :: padded 2 month ++ '-' :: padded 2 day, rest)
  else none

/-- Decimals of the seconds: at most nine are kept, and no trailing zeros. -/
def decimals (digits : List Char) : List Char :=
  let kept := ((digits.take 9).reverse.dropWhile (· == '0')).reverse
  if kept.isEmpty then [] else '.' :: kept

/-- A time of day. -/
def readTime? (input : List Char) : Option (List Char × List Char) := do
  let (hour, rest) ← readDigits? 2 input
  let rest ← passOver? ':' rest
  let (minute, rest) ← readDigits? 2 rest
  let rest ← passOver? ':' rest
  let (second, rest) ← readDigits? 2 rest
  if hour ≤ 23 && minute ≤ 59 && second ≤ 60 then
    let shown := padded 2 hour ++ ':' :: padded 2 minute ++ ':' :: padded 2 second
    match rest with
    | '.' :: more =>
      let digits := more.takeWhile isDecimalDigit
      if digits.isEmpty then none
      else some (shown ++ decimals digits, more.dropWhile isDecimalDigit)
    | _ => some (shown, rest)
  else none

/-- An offset of some hours and minutes; none at all is an offset forward. -/
def readShift? (mark : Char) (input : List Char) : Option (List Char × List Char) := do
  let (hours, rest) ← readDigits? 2 input
  let rest ← passOver? ':' rest
  let (minutes, rest) ← readDigits? 2 rest
  if hours ≤ 23 && minutes ≤ 59 then
    let mark := if hours == 0 && minutes == 0 then '+' else mark
    some (mark :: padded 2 hours ++ ':' :: padded 2 minutes, rest)
  else none

/-- The offset of a time, where there may be none. -/
def readOffset? : List Char → Option (List Char × List Char)
  | 'Z' :: rest => some (['Z'], rest)
  | 'z' :: rest => some (['Z'], rest)
  | '+' :: rest => readShift? '+' rest
  | '-' :: rest => readShift? '-' rest
  | rest => some ([], rest)

/-- The time that may follow a date, after the mark between them. -/
def readTimeOfDate? : List Char → Option (List Char × List Char)
  | mark :: rest =>
    if mark == 'T' || mark == 't' || mark == ' ' then do
      let (time, rest) ← readTime? rest
      let (offset, rest) ← readOffset? rest
      some ('T' :: time ++ offset, rest)
    else none
  | [] => none

/-- A moment. -/
def readMoment? (input : List Char) : Option (String × List Char) :=
  match readDate? input with
  | some (date, rest) =>
    match readTimeOfDate? rest with
    | some (time, rest) => some (String.ofList (date ++ time), rest)
    | none => some (String.ofList date, rest)
  | none => (readTime? input).map fun (time, rest) => (String.ofList time, rest)

end ClusterGateway.Toml
