import RuleVerify.Decimal.Read
import RuleVerify.Text.Blank

namespace RuleVerify

/-- Seconds since the beginning of 1970 in universal time, and nanoseconds. A leap second is the
    second before it with a thousand million nanoseconds or more. -/
structure Timestamp where
  second : Int
  nano : Nat
deriving DecidableEq, Repr

namespace Timestamp

def isLeapYear (year : Int) : Bool :=
  year % 4 = 0 && (year % 100 ≠ 0 || year % 400 = 0)

def daysInMonth (year : Int) (month : Nat) : Nat :=
  if month = 2 then if isLeapYear year then 29 else 28
  else if month = 4 || month = 6 || month = 9 || month = 11 then 30
  else 31

/-- Days from the beginning of 1970. Years are counted from March, so that the leap day is the last
    of its year. -/
def daysOfDate (year : Int) (month day : Nat) : Int :=
  let y := if month ≤ 2 then year - 1 else year
  let m := if month ≤ 2 then month + 9 else month - 3
  let dayOfYear : Int := (153 * m + 2) / 5 + day - 1
  365 * y + y / 4 - y / 100 + y / 400 + dayOfYear - 719468

/-- Year, month and day. Days are counted in eras of 400 years, which begin in March. -/
def dateOfDays (days : Int) : Int × Nat × Nat :=
  let z := days + 719468
  let era := z / 146097
  let dayOfEra := z % 146097
  let yearOfEra := (dayOfEra - dayOfEra / 1460 + dayOfEra / 36524 - dayOfEra / 146096) / 365
  let dayOfYear := dayOfEra - (365 * yearOfEra + yearOfEra / 4 - yearOfEra / 100)
  let m := (5 * dayOfYear + 2) / 153
  let day := dayOfYear - (153 * m + 2) / 5 + 1
  let month := if m < 10 then m + 3 else m - 9
  let year := yearOfEra + era * 400 + (if month ≤ 2 then 1 else 0)
  (year, month.toNat, day.toNat)

/-- A natural number with leading zeros. -/
def padded (width n : Nat) : String :=
  let digits := Nat.toDigits 10 n
  String.ofList (List.replicate (width - digits.length) '0' ++ digits)

/-- Years outside 0 to 9999 are written with a sign. -/
def renderYear (year : Int) : String :=
  if 0 ≤ year && year ≤ 9999 then padded 4 year.toNat
  else (if year < 0 then "-" else "+") ++ padded 4 year.natAbs

/-- No decimals, or three, six or nine of them, the fewest that lose nothing. -/
def renderNano (nano : Nat) : String :=
  if nano = 0 then ""
  else if nano % 1000000 = 0 then "." ++ padded 3 (nano / 1000000)
  else if nano % 1000 = 0 then "." ++ padded 6 (nano / 1000)
  else "." ++ padded 9 nano

def render (t : Timestamp) : String :=
  let (year, month, day) := dateOfDays (t.second / 86400)
  let ofDay := (t.second % 86400).toNat
  let leap := if t.nano < 1000000000 then 0 else 1
  renderYear year ++ "-" ++ padded 2 month ++ "-" ++ padded 2 day ++ "T" ++
    padded 2 (ofDay / 3600) ++ ":" ++ padded 2 (ofDay / 60 % 60) ++ ":" ++
    padded 2 (ofDay % 60 + leap) ++ renderNano (t.nano - 1000000000 * leap) ++ "Z"

/-- A run of one to `width` digits, with white space before it. -/
def readNumber? (width : Nat) (cs : List Char) : Option (Nat × List Char) :=
  let cs := Text.trimStart cs
  let digits := (cs.takeWhile Decimal.isDigit).take width
  if digits.isEmpty then none else some (Decimal.natOfDigits digits, cs.drop digits.length)

/-- A year of up to four digits, or one with a sign. -/
def readYear? (cs : List Char) : Option (Int × List Char) :=
  let signed (negative : Bool) (cs : List Char) : Option (Int × List Char) :=
    match cs.takeWhile Decimal.isDigit with
    | [] => none
    | digits =>
      let n := Int.ofNat (Decimal.natOfDigits digits)
      some (if negative then -n else n, cs.drop digits.length)
  match Text.trimStart cs with
  | '-' :: cs => signed true cs
  | '+' :: cs => signed false cs
  | cs => (readNumber? 4 cs).map fun (n, rest) => (Int.ofNat n, rest)

/-- A given character, with white space before it. -/
def expect? (c : Char) (cs : List Char) : Option (List Char) :=
  match Text.trimStart cs with
  | d :: cs => if d = c then some cs else none
  | [] => none

/-- Decimals of a second, of which nine count. -/
def readNano? : List Char → Option (Nat × List Char)
  | '.' :: cs =>
    let digits := cs.takeWhile Decimal.isDigit
    let counted := digits.take 9
    if digits.isEmpty then none
    else some (Decimal.natOfDigits counted * Nat.pow 10 (9 - counted.length), cs.drop digits.length)
  | cs => some (0, cs)

/-- Hours and minutes, each of two digits, with or without a separator. -/
def readClock? (cs : List Char) : Option (Int × List Char) :=
  match cs with
  | a :: b :: cs =>
    if !([a, b].all Decimal.isDigit) then none
    else
      match cs.dropWhile fun c => c = ':' || Text.isBlank c with
      | c :: d :: cs =>
        if !([c, d].all Decimal.isDigit) || '5' < c then none
        else
          let hours := Decimal.natOfDigits [a, b]
          let minutes := Decimal.natOfDigits [c, d]
          some (Int.ofNat (hours * 3600 + minutes * 60), cs)
      | _ => none
  | _ => none

/-- The offset from universal time in seconds: `Z`, `UTC`, or a sign with hours and minutes. It is
    less than a day. -/
def readOffset? (cs : List Char) : Option (Int × List Char) :=
  let bounded (sign : Int) (clock : Option (Int × List Char)) : Option (Int × List Char) :=
    clock.bind fun (n, rest) => if n < 86400 then some (sign * n, rest) else none
  if (cs.take 3).map Char.toLower = ['u', 't', 'c'] then some (0, cs.drop 3)
  else
    match cs with
    | 'Z' :: cs => some (0, cs)
    | 'z' :: cs => some (0, cs)
    | '+' :: cs => bounded 1 (readClock? cs)
    | '-' :: cs => bounded (-1) (readClock? cs)
    | '−' :: cs => bounded (-1) (readClock? cs)
    | _ => none

/-- The character between date and time. -/
def dropSeparator? : List Char → Option (List Char)
  | c :: cs => if c = 'T' || c = 't' || c = ' ' then some cs else none
  | [] => none

def firstYear : Int := -262143

def lastYear : Int := 262142

/-- Both the date that is written and the one in universal time lie in these years. -/
def inRange (year second : Int) : Bool :=
  firstYear ≤ year && year ≤ lastYear && daysOfDate firstYear 1 1 * 86400 ≤ second &&
    second < daysOfDate (lastYear + 1) 1 1 * 86400

/-- Reads a date, a time of day and an offset. White space may stand around the parts. -/
def ofText? (text : String) : Option Timestamp := do
  let (year, cs) ← readYear? text.toList
  let (month, cs) ← expect? '-' cs >>= readNumber? 2
  let (day, cs) ← expect? '-' cs >>= readNumber? 2
  let cs ← dropSeparator? cs
  let (hour, cs) ← readNumber? 2 cs
  let (minute, cs) ← expect? ':' cs >>= readNumber? 2
  let (second, cs) ← expect? ':' cs >>= readNumber? 2
  let (nano, cs) ← readNano? cs
  let (offset, cs) ← readOffset? (Text.trimStart cs)
  if !Text.allBlank cs || month < 1 || 12 < month || day < 1 || daysInMonth year month < day ||
      23 < hour || 59 < minute || 60 < second then none
  else
    let leap := if second = 60 then 1 else 0
    let ofDay := Int.ofNat (hour * 3600 + minute * 60 + second - leap)
    let second := daysOfDate year month day * 86400 + ofDay - offset
    if inRange year second then pure ⟨second, nano + 1000000000 * leap⟩ else none

end Timestamp

end RuleVerify
