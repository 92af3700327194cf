/-
Points in time, as a date and a time of day in UTC, and their text form.

Reading is lenient about blanks between the parts, and takes any offset from UTC of whole minutes.
Writing gives one form: a `T`, a fraction of as few groups of three digits as it needs, and a `Z`.
-/

import BotHost.Text.Blank

namespace BotHost

/-- A point in time. The second 60 is a leap second. -/
structure Moment where
  year : Int
  month : Nat
  day : Nat
  hour : Nat
  minute : Nat
  second : Nat
  nanosecond : Nat
deriving DecidableEq, Repr

namespace Moment

/-! ### The calendar -/

def isLeapYear (year : Int) : Bool :=
  year % 4 == 0 && (year % 100 != 0 || year % 400 == 0)

def daysInMonth (year : Int) (month : Nat) : Nat :=
  if month = 2 then if isLeapYear year then 29 else 28
  else if month ∈ [4, 6, 9, 11] then 30
  else 31

/-- The years that can be represented. -/
def leastYear : Int := -262143
def greatestYear : Int := 262142

def yearInRange (year : Int) : Bool := leastYear ≤ year && year ≤ greatestYear

/-- The number of a day, counted in eras of 400 years that begin in March. -/
def dayNumber (year : Int) (month day : Nat) : Int :=
  let shifted := if month ≤ 2 then year - 1 else year
  let era := shifted / 400
  let yearOfEra := shifted - era * 400
  let monthFromMarch : Int := if month ≤ 2 then month + 9 else month - 3
  let dayOfYear := (153 * monthFromMarch + 2) / 5 + day - 1
  era * 146097 + yearOfEra * 365 + yearOfEra / 4 - yearOfEra / 100 + dayOfYear

/-- The date of a day number. -/
def dateOfDay (number : Int) : Int × Nat × Nat :=
  let era := number / 146097
  let dayOfEra := number - era * 146097
  let yearOfEra := (dayOfEra - dayOfEra / 1460 + dayOfEra / 36524 - dayOfEra / 146096) / 365
  let dayOfYear := dayOfEra - (365 * yearOfEra + yearOfEra / 4 - yearOfEra / 100)
  let monthFromMarch := (5 * dayOfYear + 2) / 153
  let day := dayOfYear - (153 * monthFromMarch + 2) / 5 + 1
  let month := if monthFromMarch < 10 then monthFromMarch + 3 else monthFromMarch - 9
  let year := yearOfEra + era * 400 + (if month ≤ 2 then 1 else 0)
  (year, month.toNat, day.toNat)

/-- The moment so many seconds and nanoseconds after the beginning of 1970. -/
def ofSeconds (seconds : Int) (nanosecond : Nat) : Moment :=
  let (year, month, day) := dateOfDay (dayNumber 1970 1 1 + seconds / 86400)
  let second := (seconds % 86400).toNat
  ⟨year, month, day, second / 3600, second / 60 % 60, second % 60, nanosecond⟩

/-- The same point in time, read off a clock that is this many minutes ahead of UTC. -/
def fromOffset (moment : Moment) (minutes : Int) : Moment :=
  if minutes = 0 then moment
  else
    let total := dayNumber moment.year moment.month moment.day * 1440 +
      moment.hour * 60 + moment.minute - minutes
    let (year, month, day) := dateOfDay (total / 1440)
    { moment with
      year, month, day
      hour := (total % 1440 / 60).toNat
      minute := (total % 60).toNat }

/-! ### Reading -/

def skipBlank (text : List Char) : List Char := text.dropWhile Text.isBlank

def digitsValue (digits : List Char) : Nat :=
  digits.foldl (fun total digit => total * 10 + (digit.toNat - '0'.toNat)) 0

/-- A number of at least one and at most so many digits. -/
def readDigits? (most : Nat) (text : List Char) : Option (Nat × List Char) :=
  let digits := (text.take most).takeWhile Char.isDigit
  if digits.isEmpty then none else some (digitsValue digits, text.drop digits.length)

/-- A number within bounds, with blanks before it. -/
def readField? (least greatest : Nat) (text : List Char) : Option (Nat × List Char) := do
  let (value, rest) ← readDigits? 2 (skipBlank text)
  if least ≤ value ∧ value ≤ greatest then some (value, rest) else none

/-- A year: four digits at most, or any number of digits after a sign. -/
def readYear? (text : List Char) : Option (Int × List Char) :=
  match skipBlank text with
  | '-' :: rest => (readDigits? rest.length rest).map fun (value, rest) => (-value, rest)
  | '+' :: rest => (readDigits? rest.length rest).map fun (value, rest) => (value, rest)
  | text => (readDigits? 4 text).map fun (value, rest) => (value, rest)

/-- A mark with blanks before it. -/
def readMark? (mark : Char) (text : List Char) : Option (List Char) :=
  match skipBlank text with
  | found :: rest => if found = mark then some rest else none
  | [] => none

/-- The nanoseconds of a fraction; none if there is no fraction. Digits behind the ninth are read
over. -/
def readFraction? : List Char → Option (Nat × List Char)
  | '.' :: text => do
    let digits := (text.take 9).takeWhile Char.isDigit
    let (value, rest) ← readDigits? 9 text
    some (value * Nat.pow 10 (9 - digits.length), rest.dropWhile Char.isDigit)
  | text => some (0, text)

/-- An offset from UTC in minutes. -/
def readOffset? (text : List Char) : Option (Int × List Char) :=
  let signed (negative : Bool) (text : List Char) : Option (Int × List Char) :=
    match text with
    | first :: second :: rest => do
      if !first.isDigit || !second.isDigit then none
      let hours := digitsValue [first, second]
      match rest.dropWhile fun character => character == ':' || Text.isBlank character with
      | third :: fourth :: rest =>
        if !third.isDigit || !fourth.isDigit || 24 ≤ hours then none
        let minutes := digitsValue [third, fourth]
        if 60 ≤ minutes then none
        let offset : Int := hours * 60 + minutes
        some (if negative then -offset else offset, rest)
      | _ => none
    | _ => none
  match text with
  | 'Z' :: rest | 'z' :: rest => some (0, rest)
  | '+' :: rest => signed false rest
  | '-' :: rest | '\u2212' :: rest => signed true rest
  | first :: second :: third :: rest =>
    if [first.toUpper, second.toUpper, third.toUpper] = ['U', 'T', 'C'] then some (0, rest)
    else none
  | _ => none

/-- Reads a point in time. -/
def parse? (text : String) : Option Moment := do
  let (year, rest) ← readYear? text.toList
  let rest ← readMark? '-' rest
  let (month, rest) ← readField? 1 12 rest
  let rest ← readMark? '-' rest
  let (day, rest) ← readField? 1 31 rest
  let rest ← match rest with
    | 'T' :: rest | 't' :: rest | ' ' :: rest => some rest
    | _ => none
  let (hour, rest) ← readField? 0 23 rest
  let rest ← readMark? ':' rest
  let (minute, rest) ← readField? 0 59 rest
  let rest ← readMark? ':' rest
  let (second, rest) ← readField? 0 60 rest
  let (nanosecond, rest) ← readFraction? rest
  let (offset, rest) ← readOffset? (skipBlank rest)
  let moment := fromOffset ⟨year, month, day, hour, minute, second, nanosecond⟩ offset
  if (skipBlank rest).isEmpty ∧ day ≤ daysInMonth year month ∧ yearInRange year ∧
      yearInRange moment.year then
    some moment
  else none

/-! ### Writing -/

/-- The digits of a number, with zeros before them up to a width. -/
def padded (width value : Nat) : String :=
  let digits := Nat.toDigits 10 value
  String.ofList (List.replicate (width - digits.length) '0' ++ digits)

/-- Years outside four digits are written with a sign. -/
def yearText (year : Int) : String :=
  if 0 ≤ year ∧ year ≤ 9999 then padded 4 year.toNat
  else (if year < 0 then "-" else "+") ++ padded 4 year.natAbs

def fractionText (nanosecond : Nat) : String :=
  if nanosecond = 0 then ""
  else if nanosecond % 1000000 = 0 then "." ++ padded 3 (nanosecond / 1000000)
  else if nanosecond % 1000 = 0 then "." ++ padded 6 (nanosecond / 1000)
  else "." ++ padded 9 nanosecond

/-- The text of a point in time. -/
def write (moment : Moment) : String :=
  yearText moment.year ++ "-" ++ padded 2 moment.month ++ "-" ++ padded 2 moment.day ++ "T" ++
    padded 2 moment.hour ++ ":" ++ padded 2 moment.minute ++ ":" ++ padded 2 moment.second ++
    fractionText moment.nanosecond ++ "Z"

end Moment

end BotHost
