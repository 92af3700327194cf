/-
Scalars of TOML: texts in four kinds of quotes, whole numbers in four bases, floating-point numbers,
and dates with times. Every reader takes a scalar from the beginning of a text and gives the rest.
-/

import BotHost.Number.Decimal

namespace BotHost.Toml

/-! ### Characters -/

/-- The blanks within a line. -/
def isSpace (character : Char) : Bool :=
  character = ' ' || character = '\t'

def skipSpace (text : List Char) : List Char :=
  text.dropWhile isSpace

/-- Characters that stand for themselves: no control character but the tab. -/
def isPlain (character : Char) : Bool :=
  character = '\t' || (' ' ≤ character && character ≠ '\x7f')

/-- The text after a line end it begins with. -/
def afterNewline? : List Char → Option (List Char)
  | '\n' :: rest => some rest
  | '\r' :: '\n' :: rest => some rest
  | _ => none

/-! ### Texts -/

/-- The character written by so many hexadecimal digits. -/
def readCode? (count : Nat) (text : List Char) : Option (Char × List Char) :=
  let digits := text.take count
  let value := digitsValue 16 digits
  if digits.length = count ∧ digits.all (fun digit => (Json.hexValue? digit).isSome) then
    if Nat.isValidChar value then some (Char.ofNat value, text.drop count) else none
  else none

/-- The character written behind a backslash. -/
def readEscape? : List Char → Option (Char × List Char)
  | 'b' :: rest => some ('\x08', rest)
  | 't' :: rest => some ('\t', rest)
  | 'n' :: rest => some ('\n', rest)
  | 'f' :: rest => some ('\x0c', rest)
  | 'r' :: rest => some ('\r', rest)
  | '"' :: rest => some ('"', rest)
  | '\\' :: rest => some ('\\', rest)
  | 'u' :: rest => readCode? 4 rest
  | 'U' :: rest => readCode? 8 rest
  | _ => none

/-- A text in quotes on one line, from behind its first quote; `done` holds what has been read, last
first. -/
def readBasic? : (fuel : Nat) → (done : List Char) → List Char → Option (String × List Char)
  | 0, _, _ => none
  | _ + 1, _, [] => none
  | _ + 1, done, '"' :: rest => some (String.ofList done.reverse, rest)
  | fuel + 1, done, '\\' :: rest => do
    let (character, rest) ← readEscape? rest
    readBasic? fuel (character :: done) rest
  | fuel + 1, done, character :: rest =>
    if isPlain character then readBasic? fuel (character :: done) rest else none

/-- A text in apostrophes on one line, in which nothing is escaped. -/
def readLiteral? (text : List Char) : Option (String × List Char) :=
  let content := text.takeWhile fun character => character != '\'' && isPlain character
  match text.drop content.length with
  | '\'' :: rest => some (String.ofList content, rest)
  | _ => none

/-- The text behind a backslash at the end of a line: the blanks and line ends up to the next
character. -/
def afterContinuation? (text : List Char) : Option (List Char) := do
  let rest ← afterNewline? (skipSpace text)
  some (skipLines (rest.length + 1) rest)
where
  skipLines : Nat → List Char → List Char
    | 0, text => text
    | fuel + 1, text =>
      match afterNewline? (skipSpace text) with
      | some rest => skipLines fuel rest
      | none => skipSpace text

/-- A text over several lines in three quotes or three apostrophes. Up to two more of them may stand
right before the closing three. -/
def readLines? (quote : Char) : (fuel : Nat) → (done : List Char) → List Char →
    Option (String × List Char)
  | 0, _, _ => none
  | fuel + 1, done, text =>
    match text with
    | [] => none
    | character :: rest =>
      if character = quote then
        let run := text.takeWhile (· == quote)
        let rest := text.dropWhile (· == quote)
        if run.length < 3 then readLines? quote fuel (run ++ done) rest
        else if run.length ≤ 5 then some (String.ofList (run.drop 3 ++ done).reverse, rest)
        else none
      else if character = '\\' ∧ quote = '"' then
        match readEscape? rest with
        | some (escaped, rest) => readLines? quote fuel (escaped :: done) rest
        | none =>
          match afterContinuation? rest with
          | some rest => readLines? quote fuel done rest
          | none => none
      else
        match afterNewline? text with
        | some rest => readLines? quote fuel ('\n' :: done) rest
        | none =>
          if isPlain character then readLines? quote fuel (character :: done) rest else none

/-- A line end right behind the opening quotes does not count. -/
def afterFirstNewline (text : List Char) : List Char :=
  (afterNewline? text).getD text

/-- A text in any of the four kinds of quotes. -/
def readText? : List Char → Option (String × List Char)
  | '"' :: '"' :: '"' :: rest => readLines? '"' (rest.length + 1) [] (afterFirstNewline rest)
  | '"' :: rest => readBasic? (rest.length + 1) [] rest
  | '\'' :: '\'' :: '\'' :: rest => readLines? '\'' (rest.length + 1) [] (afterFirstNewline rest)
  | '\'' :: rest => readLiteral? rest
  | _ => none

/-! ### Numbers -/

/-- Digits with single underscores between them. -/
def readDigits? (isDigit : Char → Bool) (text : List Char) : Option (List Char × List Char) :=
  match text with
  | [] => none
  | first :: rest =>
    if isDigit first then
      let (others, rest) := more (rest.length + 1) [] rest
      some (first :: others, rest)
    else none
where
  more : Nat → List Char → List Char → List Char × List Char
    | 0, done, text => (done.reverse, text)
    | fuel + 1, done, text =>
      match text with
      | '_' :: digit :: rest =>
        if isDigit digit then more fuel (digit :: done) rest else (done.reverse, text)
      | digit :: rest =>
        if isDigit digit then more fuel (digit :: done) rest else (done.reverse, text)
      | [] => (done.reverse, text)

/-- Whole numbers have 64 bits and a sign. -/
def whole? (negative : Bool) (magnitude : Nat) : Option Json :=
  let value : Int := if negative then -magnitude else magnitude
  if -0x8000000000000000 ≤ value ∧ value < 0x8000000000000000 then some (.ofInt value) else none

def isBaseDigit (base : Nat) (character : Char) : Bool :=
  match Json.hexValue? character with
  | some value => value < base
  | none => false

def readBased? (base : Nat) (text : List Char) : Option (Json × List Char) := do
  let (digits, rest) ← readDigits? (isBaseDigit base) text
  let value ← whole? false (digitsValue base digits)
  some (value, rest)

/-- The digits of the whole part: a zero, or digits that do not begin with one. -/
def readWhole? : List Char → Option (List Char × List Char)
  | '0' :: rest => some (['0'], rest)
  | text => readDigits? Char.isDigit text

def readExponent? : List Char → Option (Int × List Char)
  | mark :: rest =>
    if mark = 'e' ∨ mark = 'E' then do
      let (negative, rest) := Binary64.splitSign rest
      let (digits, rest) ← readDigits? Char.isDigit rest
      let value : Int := digitsValue 10 digits
      some (if negative then -value else value, rest)
    else none
  | [] => none

/-- A floating-point number; none that is too great. -/
def real? (negative : Bool) (digits : List Char) (exponent : Int) : Option Json :=
  let number := Binary64.nearest negative (digitsValue 10 digits) exponent
  if number.isFinite || number.isNegative then some (.number (.real number)) else none

/-- A number in base ten, whose sign has been read. -/
def readDecimal? (negative : Bool) (text : List Char) : Option (Json × List Char) := do
  let (whole, rest) ← readWhole? text
  let integer := (whole? negative (digitsValue 10 whole)).map (·, rest)
  match rest with
  | '.' :: afterPoint =>
    match readDigits? Char.isDigit afterPoint with
    | none => integer
    | some (fraction, rest) =>
      let (exponent, rest) := (readExponent? rest).getD (0, rest)
      let value ← real? negative (whole ++ fraction) (exponent - fraction.length)
      some (value, rest)
  | _ =>
    match readExponent? rest with
    | some (exponent, rest) =>
      let value ← real? negative whole exponent
      some (value, rest)
    | none => integer

def infinity (negative : Bool) : Json :=
  .number (.real (.ofFloat (if negative then -1.0 / 0.0 else 1.0 / 0.0)))

def notANumber : Json := .number (.real (.ofFloat (0.0 / 0.0)))

def readNumber? (text : List Char) : Option (Json × List Char) :=
  match text with
  | '0' :: 'x' :: rest => readBased? 16 rest
  | '0' :: 'o' :: rest => readBased? 8 rest
  | '0' :: 'b' :: rest => readBased? 2 rest
  | _ =>
    let (negative, text) := Binary64.splitSign text
    match text with
    | 'i' :: 'n' :: 'f' :: rest => some (infinity negative, rest)
    | 'n' :: 'a' :: 'n' :: rest => some (notANumber, rest)
    | _ => readDecimal? negative text

/-! ### Dates and times -/

/-- A number of exactly so many digits within bounds. -/
def readField? (count least greatest : Nat) (text : List Char) : Option (List Char × List Char) :=
  let digits := text.take count
  let value := digitsValue 10 digits
  if digits.length = count ∧ digits.all Char.isDigit ∧ least ≤ value ∧ value ≤ greatest then
    some (digits, text.drop count)
  else none

/-- The text after a character it begins with. -/
def after? (expected : Char) : List Char → Option (List Char)
  | found :: rest => if found = expected then some rest else none
  | [] => none

def daysIn (year month : Nat) : Nat :=
  if month = 2 then
    if year % 4 = 0 ∧ (year % 100 ≠ 0 ∨ year % 400 = 0) then 29 else 28
  else if month = 4 ∨ month = 6 ∨ month = 9 ∨ month = 11 then 30
  else 31

def readDate? (text : List Char) : Option (List Char × List Char) := do
  let (year, rest) ← readField? 4 0 9999 text
  let rest ← after? '-' rest
  let (month, rest) ← readField? 2 1 12 rest
  let rest ← after? '-' rest
  let (day, rest) ← readField? 2 1 (daysIn (digitsValue 10 year) (digitsValue 10 month)) rest
  some (year ++ '-' :: month ++ '-' :: day, rest)

/-- The fraction of a second to at most nine digits, without zeros at the end. -/
def fractionText (digits : List Char) : List Char :=
  match ((digits.take 9).reverse.dropWhile (· == '0')).reverse with
  | [] => []
  | kept => '.' :: kept

def readTime? (text : List Char) : Option (List Char × List Char) := do
  let (hour, rest) ← readField? 2 0 23 text
  let rest ← after? ':' rest
  let (minute, rest) ← readField? 2 0 59 rest
  let rest ← after? ':' rest
  let (second, rest) ← readField? 2 0 60 rest
  let time := hour ++ ':' :: minute ++ ':' :: second
  match rest with
  | '.' :: digit :: _ =>
    if digit.isDigit then
      let digits := (rest.drop 1).takeWhile Char.isDigit
      some (time ++ fractionText digits, rest.drop (1 + digits.length))
    else some (time, rest)
  | _ => some (time, rest)

def readOffset? (text : List Char) : Option (List Char × List Char) :=
  match text with
  | 'Z' :: rest | 'z' :: rest => some (['Z'], rest)
  | sign :: rest =>
    if sign = '+' ∨ sign = '-' then do
      let (hour, rest) ← readField? 2 0 23 rest
      let rest ← after? ':' rest
      let (minute, rest) ← readField? 2 0 59 rest
      some (sign :: hour ++ ':' :: minute, rest)
    else none
  | [] => none

/-- The time that follows a date behind a blank or a letter. -/
def readTimeOfDate? : List Char → Option (List Char × List Char)
  | mark :: rest =>
    if mark = 'T' ∨ mark = 't' ∨ mark = ' ' then do
      let (time, rest) ← readTime? rest
      let (offset, rest) := (readOffset? rest).getD ([], rest)
      some ('T' :: time ++ offset, rest)
    else none
  | [] => none

/-- The name under which a date or a time is kept as an object of one field. -/
def dateField : String := "$__toml_private_datetime"

/-- A date, a time, or both. -/
def readMoment? (text : List Char) : Option (Json × List Char) :=
  let kept (text rest : List Char) := (Json.object [(dateField, .text (String.ofList text))], rest)
  match readDate? text with
  | some (date, rest) =>
    match readTimeOfDate? rest with
    | some (time, rest) => some (kept (date ++ time) rest)
    | none => some (kept date rest)
  | none => (readTime? text).map fun (time, rest) => kept time rest

end BotHost.Toml
