/-
Documents of TOML: lines that set a key or open a table.

A table comes into being in one of three ways: by a header of its own, by a header of a table inside
it, or by a dotted key. What a header has opened is neither opened again nor extended by a dotted
key, and what a dotted key has made is not opened by a header. No key is set twice.
-/

import BotHost.Toml.Scalar

namespace BotHost.Toml

/-! ### Tables -/

/-- How a table came into being. -/
inductive Origin where
  | header
  | headerInside
  | dottedKey
deriving DecidableEq, Repr

/-- What a key stands for: a value, a table, or the list of tables with that header. -/
inductive Entry where
  | value (value : Json)
  | table (origin : Origin) (fields : List (String × Entry))
  | tables (items : List (List (String × Entry)))
deriving Repr

abbrev Fields := List (String × Entry)

namespace Fields

def find? (fields : Fields) (key : String) : Option Entry :=
  (List.find? (fun field => field.1 == key) fields).map Prod.snd

/-- Sets a key. -/
def set (fields : Fields) (key : String) (entry : Entry) : Fields :=
  (key, entry) :: List.filter (fun field => field.1 != key) fields

/-- Sets a dotted key to a value: `path` holds the parts before the last, `key` is the last. -/
def setDotted? (value : Json) (key : String) : (path : List String) → Fields → Option Fields
  | [], fields =>
    match fields.find? key with
    | none => some (fields.set key (.value value))
    | some _ => none
  | name :: path, fields =>
    match fields.find? name with
    | none => (setDotted? value key path []).map fun inner => fields.set name (.table .dottedKey inner)
    | some (.value _) => none
    | some (.table origin inner) =>
      if origin = .header ∨ (path = [] ∧ origin ≠ .dottedKey) then none
      else (setDotted? value key path inner).map fun inner => fields.set name (.table origin inner)
    | some (.tables items) =>
      if path = [] then none
      else
        (setDotted? value key path (items.getLast?.getD [])).map fun last =>
          fields.set name (.tables (items.dropLast ++ [last]))

/-- Changes the table that the header path leads to; of a list of tables, the last is meant. Tables
that are missing on the way are made. -/
def within? (change : Fields → Option Fields) : (path : List String) → Fields → Option Fields
  | [], fields => change fields
  | name :: path, fields =>
    match fields.find? name with
    | none => (within? change path []).map fun inner => fields.set name (.table .headerInside inner)
    | some (.value _) => none
    | some (.table origin inner) =>
      (within? change path inner).map fun inner => fields.set name (.table origin inner)
    | some (.tables items) =>
      (within? change path (items.getLast?.getD [])).map fun last =>
        fields.set name (.tables (items.dropLast ++ [last]))

/-- Opens a table by its header. -/
def openTable? (path : List String) (key : String) (fields : Fields) : Option Fields :=
  within? (fun fields =>
    match fields.find? key with
    | none => some (fields.set key (.table .header []))
    | some (.table .headerInside inner) => some (fields.set key (.table .header inner))
    | some _ => none) path fields

/-- Adds a table to the list of those with one header. -/
def addTable? (path : List String) (key : String) (fields : Fields) : Option Fields :=
  within? (fun fields =>
    match fields.find? key with
    | none => some (fields.set key (.tables [[]]))
    | some (.tables items) => some (fields.set key (.tables (items ++ [[]])))
    | some _ => none) path fields

end Fields

mutual

def Entry.toJson : Entry → Json
  | .value value => value
  | .table _ fields => .ofFields (fieldsJson fields)
  | .tables items => .list (tablesJson items)

def fieldsJson : List (String × Entry) → List (String × Json)
  | [] => []
  | (key, entry) :: rest => (key, entry.toJson) :: fieldsJson rest

def tablesJson : List (List (String × Entry)) → List Json
  | [] => []
  | fields :: rest => .ofFields (fieldsJson fields) :: tablesJson rest

end

/-! ### Keys -/

def isBareKey (character : Char) : Bool :=
  character.isAlphanum || character = '_' || character = '-'

def readSimpleKey? (text : List Char) : Option (String × List Char) :=
  match text with
  | '"' :: rest => readBasic? (rest.length + 1) [] rest
  | '\'' :: rest => readLiteral? rest
  | _ =>
    match text.takeWhile isBareKey with
    | [] => none
    | key => some (String.ofList key, text.dropWhile isBareKey)

/-- A key whose parts are divided by points, and the text behind the blanks that follow it. -/
def readKey? : (fuel : Nat) → List Char → Option (List String × List Char)
  | 0, _ => none
  | fuel + 1, text => do
    let (first, rest) ← readSimpleKey? (skipSpace text)
    match skipSpace rest with
    | '.' :: rest =>
      let (others, rest) ← readKey? fuel rest
      some (first :: others, rest)
    | rest => some ([first], rest)

/-- The parts of a key before the last, and the last. -/
def splitKey? (key : List String) : Option (List String × String) :=
  key.getLast?.map fun last => (key.dropLast, last)

/-! ### Values -/

/-- The text after a comment it begins with. -/
def afterComment : List Char → List Char
  | '#' :: rest => rest.dropWhile isPlain
  | text => text

/-- Skips what may stand between the items of a list: blanks, comments and line ends. -/
def skipLines : (fuel : Nat) → List Char → List Char
  | 0, text => text
  | fuel + 1, text =>
    match afterNewline? (afterComment (skipSpace text)) with
    | some rest => skipLines fuel rest
    | none => skipSpace text

/-- Lists and inline tables may be nested this deep. -/
def greatestDepth : Nat := 80

mutual

/-- Reads a value; `depth` levels of lists and inline tables are still allowed. -/
def readValue? : (fuel depth : Nat) → List Char → Option (Json × List Char)
  | 0, _, _ => none
  | fuel + 1, depth, text =>
    match text with
    | '[' :: rest =>
      match depth with
      | 0 => none
      | depth + 1 => (readItems? fuel depth [] rest).map fun (items, rest) => (.list items, rest)
    | '\x7b' :: rest =>
      match depth with
      | 0 => none
      | depth + 1 =>
        match skipSpace rest with
        | '\x7d' :: rest => some (.object [], rest)
        | rest =>
          (readPairs? fuel depth [] rest).map fun (fields, rest) =>
            (.ofFields (fieldsJson fields), rest)
    | 't' :: 'r' :: 'u' :: 'e' :: rest => some (.boolean true, rest)
    | 'f' :: 'a' :: 'l' :: 's' :: 'e' :: rest => some (.boolean false, rest)
    | '"' :: _ | '\'' :: _ => (readText? text).map fun (value, rest) => (.text value, rest)
    | _ => (readMoment? text).or (readNumber? text)

/-- Reads the items of a list up to its end; `done` holds those read, last first. -/
def readItems? : (fuel depth : Nat) → (done : List Json) → List Char → Option (List Json × List Char)
  | 0, _, _, _ => none
  | fuel + 1, depth, done, text =>
    match skipLines (text.length + 1) text with
    | ']' :: rest => some (done.reverse, rest)
    | text => do
      let (item, rest) ← readValue? fuel depth text
      match skipLines (rest.length + 1) rest with
      | ',' :: rest => readItems? fuel depth (item :: done) rest
      | ']' :: rest => some ((item :: done).reverse, rest)
      | _ => none

/-- Reads the keys and values of an inline table, which has none yet read before `text`. -/
def readPairs? : (fuel depth : Nat) → (done : Fields) → List Char → Option (Fields × List Char)
  | 0, _, _, _ => none
  | fuel + 1, depth, done, text => do
    let (key, rest) ← readKey? (text.length + 1) text
    let (path, key) ← splitKey? key
    let rest ← after? '=' rest
    let (value, rest) ← readValue? fuel depth (skipSpace rest)
    let done ← done.setDotted? value key path
    match skipSpace rest with
    | ',' :: rest => readPairs? fuel depth done rest
    | '\x7d' :: rest => some (done, rest)
    | _ => none

end

/-! ### Lines -/

/-- The text behind the end of a line, of which only blanks and a comment are left. -/
def afterLine? (text : List Char) : Option (List Char) :=
  match afterComment (skipSpace text) with
  | [] => some []
  | text => afterNewline? text

/-- What has been read: the table that is open, and all tables. -/
structure Document where
  current : List String
  root : Fields

namespace Document

/-- Takes a header, from behind its first bracket. -/
def takeHeader? (document : Document) (text : List Char) : Option (Document × List Char) :=
  match text with
  | '[' :: rest => do
    let (key, rest) ← readKey? (rest.length + 1) rest
    let (path, last) ← splitKey? key
    let rest ← after? ']' (← after? ']' rest)
    let root ← document.root.addTable? path last
    some (⟨key, root⟩, rest)
  | _ => do
    let (key, rest) ← readKey? (text.length + 1) text
    let (path, last) ← splitKey? key
    let rest ← after? ']' rest
    let root ← document.root.openTable? path last
    some (⟨key, root⟩, rest)

/-- Takes a key with its value. -/
def takePair? (document : Document) (text : List Char) : Option (Document × List Char) := do
  let (key, rest) ← readKey? (text.length + 1) text
  let (path, last) ← splitKey? key
  let rest ← after? '=' rest
  let (value, rest) ← readValue? (2 * rest.length + 2) greatestDepth (skipSpace rest)
  let root ← document.root.within? (Fields.setDotted? value last path) document.current
  some ({ document with root }, rest)

def readFrom? : (fuel : Nat) → Document → List Char → Option Document
  | 0, _, _ => none
  | fuel + 1, document, text =>
    match skipSpace text with
    | [] => some document
    | '[' :: rest => do
      let (document, rest) ← document.takeHeader? rest
      readFrom? fuel document (← afterLine? rest)
    | text =>
      match afterLine? text with
      | some rest => readFrom? fuel document rest
      | none => do
        let (document, rest) ← document.takePair? text
        readFrom? fuel document (← afterLine? rest)

end Document

/-- The text behind a byte order mark. -/
def afterMark : List Char → List Char
  | '\ufeff' :: rest => rest
  | text => text

/-- Reads a document as an object. -/
def read? (text : String) : Option Json := do
  let characters := afterMark text.toList
  let document ← Document.readFrom? (characters.length + 1) ⟨[], []⟩ characters
  some (.ofFields (fieldsJson document.root))

end BotHost.Toml
