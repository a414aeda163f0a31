import SwapWarden.Text.Numeral
import SwapWarden.Text.Blank

/-!
# Points in time as text

A point in time is written as a date, a time of day and the offset of its
clock from universal time.  Reading is lenient: blanks may stand before every
number and every mark, a number needs no leading zeros, a year may carry a sign
and then as many digits as it likes, and the clock may be named `Z`, `UTC` or by
an offset with or without a colon.  A fraction of a second is read and dropped.
The written form always uses universal time and whole seconds.
-/

namespace SwapWarden.Text

/-- A point in time: whole seconds since the start of 1970, universal time.
During a *leap second* the count stands still at the second before it. -/
structure Timestamp where
  seconds : Int
  inLeapSecond : Bool := false
  deriving DecidableEq, Repr, Inhabited

namespace Timestamp

/-- Days from the start of 1970 to a date of the civil calendar, counting
years from March on. -/
def daysOfDate (year month day : Int) : Int :=
  let year := if month ≤ 2 then year - 1 else year
  let era := year.fdiv 400
  let yearOfEra := year - era * 400
  let month := if month > 2 then month - 3 else month + 9
  let dayOfYear := (153 * month + 2) / 5 + day - 1
  let dayOfEra := yearOfEra * 365 + yearOfEra / 4 - yearOfEra / 100 + dayOfYear
  era * 146097 + dayOfEra - 719468

/-- The date that lies the given number of days after the start of 1970. -/
def dateOfDays (days : Int) : Int × Int × Int :=
  let shifted := days + 719468
  let era := shifted.fdiv 146097
  let dayOfEra := shifted - era * 146097
  let yearOfEra :=
    (dayOfEra - dayOfEra / 1460 + dayOfEra / 36524 - dayOfEra / 146096) / 365
  let dayOfYear := dayOfEra - (365 * yearOfEra + yearOfEra / 4 - yearOfEra / 100)
  let month := (5 * dayOfYear + 2) / 153
  let day := dayOfYear - (153 * month + 2) / 5 + 1
  let civilMonth := if month < 10 then month + 3 else month - 9
  let year := yearOfEra + era * 400
  (if civilMonth ≤ 2 then year + 1 else year, civilMonth, day)

/-- The first year that can be named. -/
def firstYear : Int := -262143

/-- The last year that can be named. -/
def lastYear : Int := 262142

def isLeapYear (year : Int) : Bool :=
  year % 4 == 0 && (year % 100 != 0 || year % 400 == 0)

def daysInMonth (year : Int) (month : Nat) : Nat :=
  match month with
  | 2 => if isLeapYear year then 29 else 28
  | 4 | 6 | 9 | 11 => 30
  | _ => 31

/-- A numeral of one to `most` digits at the start of a text; digits beyond
`most` belong to the rest. -/
def numeral? (most : Nat) (text : List Char) : Option (Nat × List Char) :=
  let digits := (text.take most).takeWhile Char.isDigit
  (natural? digits).map (fun value => (value, text.drop digits.length))

/-- A number of one or two digits after blanks. -/
def field? (text : List Char) : Option (Nat × List Char) :=
  numeral? 2 (trimStart isBlank text)

/-- A year after blanks: at most four digits, or a sign and any number of
them. -/
def year? (text : List Char) : Option (Int × List Char) :=
  match trimStart isBlank text with
  | '-' :: rest =>
      (numeral? rest.length rest).map (fun read => (-Int.ofNat read.1, read.2))
  | '+' :: rest =>
      (numeral? rest.length rest).map (fun read => (Int.ofNat read.1, read.2))
  | rest => (numeral? 4 rest).map (fun read => (Int.ofNat read.1, read.2))

/-- The rest of a text after blanks and the expected mark. -/
def after? (mark : Char) (text : List Char) : Option (List Char) :=
  afterPrefix? [mark] (trimStart isBlank text)

/-- A date such as `2024-01-02`, as days. -/
def date? (text : List Char) : Option (Int × List Char) := do
  let (year, rest) ← year? text
  let rest ← after? '-' rest
  let (month, rest) ← field? rest
  let rest ← after? '-' rest
  let (day, rest) ← field? rest
  if firstYear ≤ year ∧ year ≤ lastYear ∧ 1 ≤ month ∧ month ≤ 12 ∧ 1 ≤ day ∧
      day ≤ daysInMonth year month then
    some (daysOfDate year month day, rest)
  else
    none

/-- The rest of a text after a fraction of a second, if one stands there. -/
def afterFraction? : List Char → Option (List Char)
  | '.' :: rest =>
      if (rest.takeWhile Char.isDigit).isEmpty then none
      else some (rest.dropWhile Char.isDigit)
  | rest => some rest

/-- A time of day such as `03:04:05.5`, as seconds and whether it lies in a
leap second.  Every minute may end with a second `60`. -/
def timeOfDay? (text : List Char) : Option (Int × Bool × List Char) := do
  let (hour, rest) ← field? text
  let rest ← after? ':' rest
  let (minute, rest) ← field? rest
  let rest ← after? ':' rest
  let (second, rest) ← field? rest
  let rest ← afterFraction? rest
  if hour < 24 ∧ minute < 60 ∧ second ≤ 60 then
    some (Int.ofNat ((hour * 60 + minute) * 60 + min second 59), second == 60,
      rest)
  else
    none

/-- Two digits at the start of a text. -/
def twoDigits? : List Char → Option (Nat × List Char)
  | tens :: ones :: rest =>
      (natural? [tens, ones]).map (fun value => (value, rest))
  | _ => none

/-- The hours and minutes of an offset such as `01:30` or `0130`, in seconds;
colons and blanks may stand between the two. -/
def offsetLength? (text : List Char) : Option (Int × List Char) := do
  let (hours, rest) ← twoDigits? text
  let between := fun char => char == ':' || isBlank char
  let (minutes, rest) ← twoDigits? (trimStart between rest)
  if minutes < 60 then some (Int.ofNat ((hours * 60 + minutes) * 60), rest)
  else none

/-- The clock of a time of day, as its offset from universal time in seconds.
The minus sign may be the hyphen or U+2212. -/
def offset? (text : List Char) : Option (Int × List Char) :=
  let text := trimStart isBlank text
  match afterPrefix? "utc".toList (lowerAscii (text.take 3)) with
  | some _ => some (0, text.drop 3)
  | none =>
      match text with
      | 'Z' :: rest | 'z' :: rest => some (0, rest)
      | '+' :: rest => offsetLength? rest
      | '-' :: rest | '\u2212' :: rest =>
          (offsetLength? rest).map (fun read => (-read.1, read.2))
      | _ => none

/-- Whether a count of seconds lies in a year that can be named. -/
def inRange (seconds : Int) : Bool :=
  daysOfDate firstYear 1 1 * 86400 ≤ seconds &&
    seconds < daysOfDate (lastYear + 1) 1 1 * 86400

/-- Reads a point in time. -/
def parse? (text : String) : Option Timestamp := do
  let (days, rest) ← date? text.toList
  let rest ← match rest with
    | 'T' :: rest | 't' :: rest | ' ' :: rest => some rest
    | _ => none
  let (time, inLeapSecond, rest) ← timeOfDay? rest
  let (offset, rest) ← offset? rest
  let seconds := days * 86400 + time - offset
  if rest.all isBlank ∧ offset.natAbs < 86400 ∧ inRange seconds then
    some { seconds, inLeapSecond }
  else
    none

/-- A number with at least two digits. -/
def twoDigits (value : Int) : String :=
  if value < 10 then "0" ++ toString value else toString value

/-- A number with at least four digits. -/
def fourDigits (value : Nat) : String :=
  let digits := toString value
  String.ofList (List.replicate (4 - digits.length) '0') ++ digits

/-- A year: four digits, and a sign before a year that lies outside of 0 to
9999. -/
def yearText (year : Int) : String :=
  let digits := fourDigits year.natAbs
  if 0 ≤ year ∧ year ≤ 9999 then digits
  else if year < 0 then "-" ++ digits
  else "+" ++ digits

/-- The text of a point in time. -/
def text (time : Timestamp) : String :=
  let days := time.seconds.fdiv 86400
  let second := time.seconds - days * 86400
  let (year, month, day) := dateOfDays days
  yearText year ++ "-" ++ twoDigits month ++ "-" ++ twoDigits day ++ "T" ++
    twoDigits (second / 3600) ++ ":" ++ twoDigits (second / 60 % 60) ++ ":" ++
    twoDigits (second % 60 + (if time.inLeapSecond then 1 else 0)) ++ "Z"

end Timestamp

end SwapWarden.Text
