import PromptScript.Text.Basic

/-!
# Timestamps

Instants to the nanosecond, their written form in UTC, and the reader of written instants with
any offset.  The reader takes blanks between the parts, and a `T` or a blank between date and
time.  A leap second is the last second of its minute with a fraction of one second or more.
-/

namespace PromptScript

/-- An instant: whole seconds since the beginning of 1970 in UTC, and nanoseconds. -/
structure Timestamp where
  seconds : Int
  nanoseconds : Nat
  deriving DecidableEq, Repr

namespace Timestamp

/-- Whether one instant lies before another. -/
def before (left right : Timestamp) : Bool :=
  left.seconds < right.seconds
    || (left.seconds == right.seconds && left.nanoseconds < right.nanoseconds)

/-- The instant that lies the given number of nanoseconds after the beginning of 1970. -/
def ofNanoseconds (total : Int) : Timestamp :=
  ⟨total / 1000000000, (total % 1000000000).toNat⟩

/-- The number of days from the beginning of 1970 to a date of the Gregorian calendar. -/
def daysOfDate (year : Int) (month day : Nat) : Int :=
  let shifted := if month ≤ 2 then year - 1 else year
  let era := shifted / 400
  let yearOfEra := shifted % 400
  let monthFromMarch : Int := if month ≤ 2 then month + 9 else (month : Int) - 3
  let dayOfYear := (153 * monthFromMarch + 2) / 5 + day - 1
  let dayOfEra := yearOfEra * 365 + yearOfEra / 4 - yearOfEra / 100 + dayOfYear
  era * 146097 + dayOfEra - 719468

/-- The date that lies a number of days after the beginning of 1970. -/
def dateOfDays (days : Int) : Int × Nat × Nat :=
  let shifted := days + 719468
  let era := shifted / 146097
  let dayOfEra := shifted % 146097
  let yearOfEra :=
    (dayOfEra - dayOfEra / 1460 + dayOfEra / 36524 - dayOfEra / 146096) / 365
  let dayOfYear := dayOfEra - (365 * yearOfEra + yearOfEra / 4 - yearOfEra / 100)
  let monthFromMarch := (5 * dayOfYear + 2) / 153
  let day := dayOfYear - (153 * monthFromMarch + 2) / 5 + 1
  let month := if monthFromMarch < 10 then monthFromMarch + 3 else monthFromMarch - 9
  let year := yearOfEra + era * 400 + if month ≤ 2 then 1 else 0
  (year, month.toNat, day.toNat)

/-- Whether a year of the Gregorian calendar has a leap day. -/
def isLeapYear (year : Int) : Bool :=
  year % 4 == 0 && (year % 100 != 0 || year % 400 == 0)

/-- The number of days of a month. -/
def daysInMonth (year : Int) (month : Nat) : Nat :=
  if month = 2 then if isLeapYear year then 29 else 28
  else if month = 4 ∨ month = 6 ∨ month = 9 ∨ month = 11 then 30
  else 31

/-- The first year that can be written. -/
def minYear : Int := -262143

/-- The last year that can be written. -/
def maxYear : Int := 262142

/-! ## Writing -/

/-- A number with zeros in front up to the given width. -/
def padded (width value : Nat) : List Char :=
  let digits := Nat.toDigits 10 value
  List.replicate (width - digits.length) '0' ++ digits

/-- A year: four digits, with a sign beyond them. -/
def yearChars (year : Int) : List Char :=
  if 0 ≤ year ∧ year ≤ 9999 then padded 4 year.toNat
  else (if year < 0 then '-' else '+') :: padded 4 year.natAbs

/-- A fraction of a second: no digits, or three, six or nine. -/
def fractionChars (nanoseconds : Nat) : List Char :=
  if nanoseconds = 0 then []
  else if nanoseconds % 1000000 = 0 then '.' :: padded 3 (nanoseconds / 1000000)
  else if nanoseconds % 1000 = 0 then '.' :: padded 6 (nanoseconds / 1000)
  else '.' :: padded 9 nanoseconds

/-- The written form in UTC. -/
def render (instant : Timestamp) : String :=
  let (year, month, day) := dateOfDays (instant.seconds / 86400)
  let inDay := (instant.seconds % 86400).toNat
  let leap := instant.nanoseconds / 1000000000
  String.ofList (yearChars year ++ '-' :: padded 2 month ++ '-' :: padded 2 day
    ++ 'T' :: padded 2 (inDay / 3600) ++ ':' :: padded 2 (inDay / 60 % 60)
    ++ ':' :: padded 2 (inDay % 60 + leap) ++ fractionChars (instant.nanoseconds % 1000000000)
    ++ ['Z'])

/-- The date and the minute in UTC. -/
def renderMinute (instant : Timestamp) : String :=
  let (year, month, day) := dateOfDays (instant.seconds / 86400)
  let inDay := (instant.seconds % 86400).toNat
  String.ofList (yearChars year ++ '-' :: padded 2 month ++ '-' :: padded 2 day
    ++ ' ' :: padded 2 (inDay / 3600) ++ ':' :: padded 2 (inDay / 60 % 60))

/-! ## Reading -/

/-- The value of a list of digits. -/
def digitsValue (digits : List Char) : Nat :=
  digits.foldl (fun value d => value * 10 + (d.toNat - '0'.toNat)) 0

/-- Reads at least one digit and at most `width`. -/
def readDigits? (width : Nat) (text : List Char) : Option (Nat × List Char) :=
  let digits := (text.take width).takeWhile Char.isDigit
  if digits.isEmpty then none else some (digitsValue digits, text.drop digits.length)

/-- Reads a number of at most two digits behind blanks, which must lie within limits. -/
def readPart? (low high : Nat) (text : List Char) : Option (Nat × List Char) := do
  let (value, rest) ← readDigits? 2 (Text.dropLeading text)
  if low ≤ value ∧ value ≤ high then some (value, rest) else none

/-- Reads a mark behind blanks. -/
def readMark? (mark : Char) (text : List Char) : Option (List Char) :=
  match Text.dropLeading text with
  | c :: rest => if c = mark then some rest else none
  | [] => none

/-- Reads a year: up to four digits, or a sign and any number of digits. -/
def readYear? (text : List Char) : Option (Int × List Char) :=
  match Text.dropLeading text with
  | '-' :: rest => (readDigits? rest.length rest).map fun (value, later) => (-value, later)
  | '+' :: rest => (readDigits? rest.length rest).map fun (value, later) => (value, later)
  | other => (readDigits? 4 other).map fun (value, later) => (value, later)

/-- Reads the fraction of a second, where there is one; digits beyond the ninth are passed
over. -/
def readFraction? : List Char → Option (Nat × List Char)
  | '.' :: rest =>
    let digits := rest.takeWhile Char.isDigit
    if digits.isEmpty then none
    else
      let kept := digits.take 9
      some (digitsValue kept * Nat.pow 10 (9 - kept.length), rest.drop digits.length)
  | text => some (0, text)

/-- Reads two digits. -/
def readTwo? : List Char → Option (Nat × List Char)
  | a :: b :: rest =>
    if a.isDigit && b.isDigit then some (digitsValue [a, b], rest) else none
  | _ => none

/-- Reads an offset from UTC, in seconds. -/
def readOffset? (text : List Char) : Option (Int × List Char) :=
  match text with
  | 'Z' :: rest | 'z' :: rest => some (0, rest)
  | u :: t :: c :: rest =>
    if u.toUpper = 'U' ∧ t.toUpper = 'T' ∧ c.toUpper = 'C' then some (0, rest)
    else signed u (t :: c :: rest)
  | _ => none
where
  /-- Reads hours and minutes behind a sign. -/
  signed (sign : Char) (text : List Char) : Option (Int × List Char) := do
    let negative ←
      if sign = '+' then some false
      else if sign = '-' ∨ sign = '\u2212' then some true
      else none
    let (hours, rest) ← readTwo? text
    let behind := rest.dropWhile fun c => c == ':' || Text.isBlank c
    let (minutes, last) ← readTwo? behind
    if minutes < 60 then
      let seconds : Int := hours * 3600 + minutes * 60
      some (if negative then -seconds else seconds, last)
    else none

/-- The instant that a text writes. -/
def parse? (text : String) : Option Timestamp := do
  let (year, afterYear) ← readYear? text.toList
  let (month, afterMonth) ← readPart? 1 12 (← readMark? '-' afterYear)
  let (day, afterDay) ← readPart? 1 31 (← readMark? '-' afterMonth)
  let time ←
    match afterDay with
    | 'T' :: rest | 't' :: rest | ' ' :: rest => some rest
    | _ => none
  let (hour, afterHour) ← readPart? 0 23 time
  let (minute, afterMinute) ← readPart? 0 59 (← readMark? ':' afterHour)
  let (second, afterSecond) ← readPart? 0 60 (← readMark? ':' afterMinute)
  let (fraction, afterFraction) ← readFraction? afterSecond
  let (offset, rest) ← readOffset? (Text.dropLeading afterFraction)
  if !Text.isBlankText rest then none
  else if daysInMonth year month < day ∨ year < minYear ∨ maxYear < year then none
  else if offset ≤ -86400 ∨ 86400 ≤ offset then none
  else
    let inDay : Int := hour * 3600 + minute * 60 + if second = 60 then 59 else second
    let seconds := daysOfDate year month day * 86400 + inDay - offset
    let (utcYear, _, _) := dateOfDays (seconds / 86400)
    if utcYear < minYear ∨ maxYear < utcYear then none
    else some ⟨seconds, fraction + if second = 60 then 1000000000 else 0⟩

end Timestamp

end PromptScript
