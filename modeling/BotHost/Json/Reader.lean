/-
Reading the text of a structured value. The reader is strict: one value, blanks only of the four
kinds that the format allows, no control character inside quotes, no half of a surrogate pair, and at
most 127 levels of lists and objects.
-/

import BotHost.Json.Basic

namespace BotHost.Json

def isSpace (character : Char) : Bool :=
  character = ' ' || character = '\n' || character = '\t' || character = '\r'

def skipSpace (text : List Char) : List Char :=
  text.dropWhile isSpace

/-- The text after a literal it begins with. -/
def afterLiteral? : (literal text : List Char) → Option (List Char)
  | [], text => some text
  | _ :: _, [] => none
  | expected :: literal, found :: text =>
    if expected = found then afterLiteral? literal text else none

/-! ### Numbers -/

def digitValue (character : Char) : Nat :=
  character.toNat - '0'.toNat

/-- What has been taken of a number: as many leading digits as fit 64 bits, the power of ten they
are to be multiplied with, and whether a digit had to be left out. -/
structure Significand where
  value : Nat
  exponent : Int
  full : Bool

namespace Significand

def zero : Significand := ⟨0, 0, false⟩

/-- Takes a digit before the point; one that does not fit still counts as a place. -/
def takeWhole (significand : Significand) (digit : Char) : Significand :=
  let next := significand.value * 10 + digitValue digit
  if significand.full || 0x10000000000000000 ≤ next then
    { significand with exponent := significand.exponent + 1, full := true }
  else { significand with value := next }

/-- Takes a digit after the point; one that does not fit is left out. -/
def takeFraction (significand : Significand) (digit : Char) : Significand :=
  let next := significand.value * 10 + digitValue digit
  if significand.full || 0x10000000000000000 ≤ next then { significand with full := true }
  else { significand with value := next, exponent := significand.exponent - 1 }

end Significand

/-- A whole number that was written without a point or an exponent. -/
def wholeNumber? (negative : Bool) (significand : Significand) : Option Number :=
  let fits := if negative then 0 < significand.value && significand.value ≤ 0x8000000000000000 else true
  if !significand.full && fits then
    some (.integer (if negative then -significand.value else significand.value))
  else (Binary64.ofDecimal? negative significand.value.toUInt64 significand.exponent).map .real

/-- The exponent written after its mark, with the rest of the text. -/
def readExponent? (text : List Char) : Option (Int × List Char) :=
  let (negative, text) := match text with
    | '-' :: rest => (true, rest)
    | '+' :: rest => (false, rest)
    | _ => (false, text)
  let digits := text.takeWhile Char.isDigit
  if digits.isEmpty then none
  else
    let value := digits.foldl (fun total digit => total * 10 + digitValue digit) 0
    some (if negative then -(value : Int) else value, text.dropWhile Char.isDigit)

/-- A number that goes on with an exponent or ends here; `whole` is its value if it ends without
either a fraction or an exponent. -/
def finishNumber? (negative : Bool) (significand : Significand) (text : List Char)
    (whole : Option Number) : Option (Number × List Char) :=
  let scaled (exponent : Int) (rest : List Char) :=
    (Binary64.ofDecimal? negative significand.value.toUInt64 exponent).map (.real ·, rest)
  match text with
  | 'e' :: rest | 'E' :: rest => do
    let (exponent, rest) ← readExponent? rest
    scaled (significand.exponent + exponent) rest
  | _ =>
    match whole with
    | some number => some (number, text)
    | none => scaled significand.exponent text

/-- Reads a number, whose sign has been read. -/
def readUnsigned? (negative : Bool) (text : List Char) : Option (Number × List Char) :=
  let digits := text.takeWhile Char.isDigit
  let rest := text.dropWhile Char.isDigit
  match digits with
  | [] => none
  | '0' :: _ :: _ => none
  | _ =>
    let significand := digits.foldl Significand.takeWhole .zero
    match rest with
    | '.' :: afterPoint =>
      let fraction := afterPoint.takeWhile Char.isDigit
      if fraction.isEmpty then none
      else finishNumber? negative
        (fraction.foldl Significand.takeFraction { significand with full := false })
        (afterPoint.dropWhile Char.isDigit) none
    | _ => do
      let whole ← wholeNumber? negative significand
      finishNumber? negative significand rest (some whole)

def readNumber? (text : List Char) : Option (Number × List Char) :=
  match text with
  | '-' :: rest => readUnsigned? true rest
  | _ => readUnsigned? false text

/-! ### Texts -/

def hexValue? (character : Char) : Option Nat :=
  if character.isDigit then some (digitValue character)
  else if 'a' ≤ character ∧ character ≤ 'f' then some (character.toNat - 'a'.toNat + 10)
  else if 'A' ≤ character ∧ character ≤ 'F' then some (character.toNat - 'A'.toNat + 10)
  else none

/-- The value of four hexadecimal digits. -/
def readUnit? : List Char → Option (Nat × List Char)
  | a :: b :: c :: d :: rest => do
    let a ← hexValue? a
    let b ← hexValue? b
    let c ← hexValue? c
    let d ← hexValue? d
    some (((a * 16 + b) * 16 + c) * 16 + d, rest)
  | _ => none

/-- The character of one or two 16-bit units after the mark of the first. -/
def readUnits? (text : List Char) : Option (Char × List Char) := do
  let (first, rest) ← readUnit? text
  if 0xdc00 ≤ first ∧ first ≤ 0xdfff then none
  else if 0xd800 ≤ first ∧ first ≤ 0xdbff then
    match rest with
    | '\\' :: 'u' :: rest =>
      let (second, rest) ← readUnit? rest
      if 0xdc00 ≤ second ∧ second ≤ 0xdfff then
        some (Char.ofNat (0x10000 + (first - 0xd800) * 0x400 + (second - 0xdc00)), rest)
      else none
    | _ => none
  else some (Char.ofNat first, rest)

/-- The character that a single letter stands for after a backslash. -/
def unescape? (letter : Char) : Option Char :=
  match letter with
  | '"' => some '"'
  | '\\' => some '\\'
  | '/' => some '/'
  | 'b' => some '\x08'
  | 'f' => some '\x0c'
  | 'n' => some '\n'
  | 'r' => some '\r'
  | 't' => some '\t'
  | _ => none

/-- Reads a text up to its closing quote; `done` holds the characters read, last first. -/
def readText? : (fuel : Nat) → (done text : List Char) → Option (String × List Char)
  | 0, _, _ => none
  | fuel + 1, done, text =>
    match text with
    | [] => none
    | '"' :: rest => some (String.ofList done.reverse, rest)
    | '\\' :: 'u' :: rest => do
      let (character, rest) ← readUnits? rest
      readText? fuel (character :: done) rest
    | '\\' :: letter :: rest => do
      let character ← unescape? letter
      readText? fuel (character :: done) rest
    | character :: rest =>
      if character.toNat < 0x20 ∨ character = '\\' then none
      else readText? fuel (character :: done) rest

/-! ### Values -/

mutual

/-- Reads a value; `depth` levels of lists and objects are still allowed. -/
def readValue? : (fuel depth : Nat) → List Char → Option (Json × List Char)
  | 0, _, _ => none
  | fuel + 1, depth, text =>
    match skipSpace text with
    | 'n' :: rest => (afterLiteral? "ull".toList rest).map (.null, ·)
    | 't' :: rest => (afterLiteral? "rue".toList rest).map (.boolean true, ·)
    | 'f' :: rest => (afterLiteral? "alse".toList rest).map (.boolean false, ·)
    | '"' :: rest => (readText? (rest.length + 1) [] rest).map fun (value, rest) => (.text value, rest)
    | '[' :: rest =>
      match depth with
      | 0 => none
      | depth + 1 =>
        match skipSpace rest with
        | ']' :: rest => some (.list [], rest)
        | rest => (readItems? fuel depth [] rest).map fun (items, rest) => (.list items, rest)
    | '\x7b' :: rest =>
      match depth with
      | 0 => none
      | depth + 1 =>
        match skipSpace rest with
        | '\x7d' :: rest => some (.object [], rest)
        | rest => (readFields? fuel depth [] rest).map fun (fields, rest) => (.object fields, rest)
    | text => (readNumber? text).map fun (number, rest) => (.number number, rest)

/-- Reads the items of a list from the first not yet read; `done` holds those read, last first. -/
def readItems? : (fuel depth : Nat) → (done : List Json) → List Char → Option (List Json × List Char)
  | 0, _, _, _ => none
  | fuel + 1, depth, done, text => do
    let (item, rest) ← readValue? fuel depth text
    match skipSpace rest with
    | ',' :: rest => readItems? fuel depth (item :: done) rest
    | ']' :: rest => some ((item :: done).reverse, rest)
    | _ => none

/-- Reads the fields of an object from the first not yet read, as written. -/
def readFields? : (fuel depth : Nat) → (done : List (String × Json)) → List Char →
    Option (List (String × Json) × List Char)
  | 0, _, _, _ => none
  | fuel + 1, depth, done, text => do
    match skipSpace text with
    | '"' :: rest =>
      let (key, rest) ← readText? (rest.length + 1) [] rest
      match skipSpace rest with
      | ':' :: rest =>
        let (value, rest) ← readValue? fuel depth rest
        match skipSpace rest with
        | ',' :: rest => readFields? fuel depth ((key, value) :: done) rest
        | '\x7d' :: rest => some (((key, value) :: done).reverse, rest)
        | _ => none
      | _ => none
    | _ => none

end

/-- Lists and objects may be nested this deep. -/
def greatestDepth : Nat := 127

/-- Reads one value with the fields of its objects in the order, and as often, as written. -/
def readAsWritten? (text : String) : Option Json := do
  let characters := text.toList
  let (value, rest) ← readValue? (2 * characters.length + 2) greatestDepth characters
  if (skipSpace rest).isEmpty then some value else none

/-- Reads one value. -/
def read? (text : String) : Option Json :=
  (readAsWritten? text).map sorted

end BotHost.Json
