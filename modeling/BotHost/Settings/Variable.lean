/-
Environment variables as a source of settings.

The name of a variable behind the prefix `BLOCKBOT_` is the path of a setting, in any case, with two
underscores between its parts. Its text is read as a value: a boolean, a number, a list in brackets, a
table in braces, or a text. A text that is nothing of the kind stands for itself.
-/

import BotHost.Number.Decimal
import BotHost.Text.Blank
import BotHost.Text.Split

namespace BotHost.Variable

/-! ### Values -/

def isSpace (character : Char) : Bool :=
  character = ' ' || character = '\t' || character = '\n' || character = '\x0c' ||
    character = '\r'

def skipSpace (text : List Char) : List Char :=
  text.dropWhile isSpace

/-- What ends a value that is not in quotes. -/
def isSeparator (character : Char) : Bool :=
  character = ',' || character = '\x7b' || character = '\x7d' || character = '[' ||
    character = ']'

def isKeyCharacter (character : Char) : Bool :=
  character.isAlphanum || character = '_' || character = '-'

/-- A whole number of 64 bits, with or without a sign. -/
def whole? (text : List Char) : Option Int :=
  let (negative, digits) := Binary64.splitSign text
  let value : Int := digitsValue 10 digits
  if digits.isEmpty || !digits.all Char.isDigit then none
  else if negative then if value ≤ 0x8000000000000000 then some (-value) else none
  else if value < 0x10000000000000000 then some value
  else none

/-- The value of a text without quotes: a number with a point, a whole number, or the text. -/
def bare (text : List Char) : Json :=
  let text := Text.trimBlank text
  let real := if text.contains '.' then Binary64.ofText? text else none
  match real with
  | some value => .number (.real value)
  | none =>
    match whole? text with
    | some value => .ofInt value
    | none => .text (String.ofList text)

/-- The character written by so many hexadecimal digits, and the rest. -/
def readCode? (count : Nat) (text : List Char) : Option (Char × List Char) :=
  let digits := text.take count
  let value := digitsValue 16 digits
  if digits.length = count ∧ digits.all (fun digit => (Json.hexValue? digit).isSome) then
    if Nat.isValidChar value then some (Char.ofNat value, text.drop count) else none
  else none

/-- Reads a text in quotes from behind the first; `done` holds what has been read, last first. -/
def readQuoted? : (fuel : Nat) → (done : List Char) → List Char → Option (String × List Char)
  | 0, _, _ => none
  | fuel + 1, done, text =>
    match text with
    | [] => none
    | '"' :: rest => some (String.ofList done.reverse, rest)
    | '\\' :: 'b' :: rest => readQuoted? fuel ('\x08' :: done) rest
    | '\\' :: 'f' :: rest => readQuoted? fuel ('\x0c' :: done) rest
    | '\\' :: 'n' :: rest => readQuoted? fuel ('\n' :: done) rest
    | '\\' :: 'r' :: rest => readQuoted? fuel ('\r' :: done) rest
    | '\\' :: 't' :: rest => readQuoted? fuel ('\t' :: done) rest
    | '\\' :: '"' :: rest => readQuoted? fuel ('"' :: done) rest
    | '\\' :: '\\' :: rest => readQuoted? fuel ('\\' :: done) rest
    | '\\' :: 'u' :: rest => do
      let (character, rest) ← readCode? 4 rest
      readQuoted? fuel (character :: done) rest
    | '\\' :: 'U' :: rest => do
      let (character, rest) ← readCode? 8 rest
      readQuoted? fuel (character :: done) rest
    | '\\' :: _ => none
    | character :: rest =>
      if character = '\t' ∨ (' ' ≤ character ∧ character ≠ '\x7f') then
        readQuoted? fuel (character :: done) rest
      else none

/-- Reads the key of a table, with the blanks around it. -/
def readKey? (text : List Char) : Option (String × List Char) :=
  match skipSpace text with
  | '"' :: rest =>
    (readQuoted? (rest.length + 1) [] rest).map fun (key, rest) => (key, skipSpace rest)
  | text =>
    match text.takeWhile isKeyCharacter with
    | [] => none
    | key => some (String.ofList key, skipSpace (text.dropWhile isKeyCharacter))

mutual

/-- Reads a value with the blanks around it. -/
def readValue? : (fuel : Nat) → List Char → Option (Json × List Char)
  | 0, _ => none
  | fuel + 1, text => do
    let (value, rest) ← match skipSpace text with
      | 't' :: 'r' :: 'u' :: 'e' :: rest => some (Json.boolean true, rest)
      | 'f' :: 'a' :: 'l' :: 's' :: 'e' :: rest => some (Json.boolean false, rest)
      | '[' :: rest => (readItems? fuel [] rest).map fun (items, rest) => (Json.list items, rest)
      | '\x7b' :: rest =>
        (readPairs? fuel [] rest).map fun (pairs, rest) => (Json.ofFields pairs, rest)
      | '"' :: rest =>
        (readQuoted? (rest.length + 1) [] rest).map fun (value, rest) => (Json.text value, rest)
      | '\'' :: rest =>
        match rest with
        | character :: '\'' :: rest => some (Json.text (String.singleton character), rest)
        | _ => none
      | text =>
        let content := text.takeWhile fun character => !isSeparator character
        some (bare content, text.drop content.length)
    some (value, skipSpace rest)

/-- Reads the items of a list up to its end; `done` holds those read, last first. -/
def readItems? : (fuel : Nat) → (done : List Json) → List Char → Option (List Json × List Char)
  | 0, _, _ => none
  | fuel + 1, done, text =>
    match text with
    | ']' :: rest => some (done.reverse, rest)
    | _ => do
      let (item, rest) ← readValue? fuel text
      match rest with
      | ',' :: rest => readItems? fuel (item :: done) rest
      | ']' :: rest => some ((item :: done).reverse, rest)
      | _ => none

/-- Reads the keys and values of a table up to its end. -/
def readPairs? : (fuel : Nat) → (done : List (String × Json)) → List Char →
    Option (List (String × Json) × List Char)
  | 0, _, _ => none
  | fuel + 1, done, text =>
    match text with
    | '\x7d' :: rest => some (done.reverse, rest)
    | _ => do
      let (key, rest) ← readKey? text
      match rest with
      | '=' :: rest =>
        let (value, rest) ← readValue? fuel rest
        match rest with
        | ',' :: rest => readPairs? fuel ((key, value) :: done) rest
        | '\x7d' :: rest => some (((key, value) :: done).reverse, rest)
        | _ => none
      | _ => none

end

/-- The value that the text of a variable stands for. -/
def value (text : String) : Json :=
  let characters := text.toList
  match readValue? (2 * characters.length + 2) characters with
  | some (value, []) => value
  | _ => .text text

/-! ### Names -/

/-- What the names of the variables begin with. -/
def nameStart : String := "BLOCKBOT_"

/-- The variable that names the profile. -/
def profileName : String := "BLOCKBOT_PROFILE"

/-- The variable that names a file to load. -/
def fileName : String := "BLOCKBOT_CONFIG"

/-- The name with a point for every two underscores, in lower case. -/
def dotted : List Char → List Char
  | '_' :: '_' :: rest => '.' :: dotted rest
  | character :: rest => character.toLower :: dotted rest
  | [] => []

/-- The name behind the prefix, if it begins with that in any case. -/
def suffix? (name : String) : Option (List Char) :=
  let characters := Text.trimBlank name.toList
  let expected := nameStart.toList.map Char.toLower
  if expected.isPrefixOf (characters.map Char.toLower) then some (characters.drop expected.length)
  else none

/-- Whether a variable is about the loading itself. -/
def isReserved (suffix : List Char) : Bool :=
  let lower := suffix.map Char.toLower
  lower == "profile".toList || lower == "config".toList

/-- The value at a path. -/
def nest (value : Json) : (path : List (List Char)) → Json
  | [] => value
  | part :: path => .object [(String.ofList part, nest value path)]

/-- The settings that one variable names. It is not said here what becomes of a variable in whose path a
part is empty. -/
def settings? (odd? : String × String → Option Json) (entry : String × String) : Option Json := do
  let suffix ← suffix? entry.1
  if isReserved suffix then none
  else
    let path := Text.splitOn '.' (dotted suffix)
    if path.any List.isEmpty then odd? entry else some (nest (value entry.2) path)

end BotHost.Variable
