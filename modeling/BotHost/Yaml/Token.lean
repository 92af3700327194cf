/-
The tokens of a YAML stream.

Outside brackets the layout of the lines brackets the collections: a collection begins where a line
is indented further than the one around it, and ends where a line is indented less. That something is
a key shows only at the colon behind it, so the tokens that announce a key are put in front of what
has already been read. A key that is not announced is on one line and has at most 1024 characters.
-/

import BotHost.Yaml.Text

namespace BotHost.Yaml

inductive Token where
  | protected version (major minor : Nat)
  | protected tagHandle (handle start : String)
  | protected documentStart
  | protected documentEnd
  | protected streamEnd
  | protected blockSequence
  | protected blockMapping
  | protected blockEnd
  | protected flowSequence
  | protected flowSequenceEnd
  | protected flowMapping
  | protected flowMappingEnd
  | protected entry
  | protected comma
  | protected key
  | protected value
  | protected anchor (name : String)
  | protected alias (name : String)
  | protected tag (handle suffix : String)
  | protected scalar (text : String) (plain : Bool)
deriving DecidableEq, Repr

/-- Where a key may have begun: the number of its first token and its place. A key at the indentation
of its mapping has to be one. -/
structure PossibleKey where
  token : Nat
  place : Place
  required : Bool
deriving Repr

/-- The state of a reader: the tokens read, last first, the indentations of the open block collections,
the possible keys of the open brackets and of what is around them, and whether a key may begin. -/
structure Layout where
  place : Place
  tokens : List Token := []
  indent : Int := -1
  indents : List Int := []
  keys : List (Option PossibleKey) := [none]
  keyAllowed : Bool := true

namespace Layout

def inFlow (layout : Layout) : Bool := 1 < layout.keys.length

def push (layout : Layout) (token : Token) : Layout :=
  { layout with tokens := token :: layout.tokens }

/-- Puts a token in front of the one with this number. -/
def insertAt (layout : Layout) (number : Nat) (token : Token) : Layout :=
  { layout with tokens := layout.tokens.insertIdx (layout.tokens.length - number) token }

def skip (layout : Layout) (count : Nat := 1) : Layout :=
  { layout with place := layout.place.skip count }

/-! ### Indentation -/

/-- Opens a block collection at a column in front of a token, unless one is open there already. -/
def indentTo (layout : Layout) (column number : Nat) (token : Token) : Layout :=
  if layout.inFlow || !(layout.indent < column) then layout
  else
    { layout.insertAt number token with
      indents := layout.indent :: layout.indents
      indent := column }

/-- Closes the block collections to the right of a column. -/
def closeTo (column : Int) : (indents : List Int) → Layout → Layout
  | [], layout => layout
  | outer :: rest, layout =>
    if column < layout.indent then
      closeTo column rest { layout.push .blockEnd with indent := outer, indents := rest }
    else layout

def unindent (layout : Layout) (column : Int) : Layout :=
  if layout.inFlow then layout else closeTo column layout.indents layout

/-! ### Possible keys -/

/-- Keys may be this long. -/
def greatestKey : Nat := 1024

/-- Gives up possible keys that are too long or not on this line; none if one of them had to be a
key. -/
def dropStale? (layout : Layout) : Option Layout := do
  let keys ← layout.keys.mapM fun key =>
    match key with
    | none => some none
    | some key =>
      if key.place.line < layout.place.line ∨ key.place.offset + greatestKey < layout.place.offset
      then if key.required then none else some none
      else some (some key)
  some { layout with keys }

/-- Gives up the possible key of the innermost brackets. -/
def dropKey? (layout : Layout) : Option Layout :=
  match layout.keys with
  | some key :: rest => if key.required then none else some { layout with keys := none :: rest }
  | _ => some layout

/-- What comes next may be a key. -/
def noteKey? (layout : Layout) : Option Layout :=
  if layout.keyAllowed then do
    let layout ← layout.dropKey?
    let required := !layout.inFlow && layout.indent == layout.place.column
    some { layout with
      keys := some ⟨layout.tokens.length, layout.place, required⟩ :: layout.keys.drop 1 }
  else some layout

/-! ### Between tokens -/

/-- Skips blanks, comments and line ends. Outside brackets a key may begin behind a line end, and
where one may begin no tab indents it. -/
def skipGap : (fuel : Nat) → Layout → Layout
  | 0, layout => layout
  | fuel + 1, layout =>
    let layout :=
      if layout.place.column = 0 ∧ layout.place.rest.head? = some '\ufeff' then layout.skip
      else layout
    let tabs := layout.inFlow || !layout.keyAllowed
    let layout := layout.skip
      (layout.place.rest.takeWhile fun character =>
        character == ' ' || (tabs && character == '\t')).length
    let layout :=
      if layout.place.rest.head? = some '#' then { layout with place := layout.place.toLineEnd }
      else layout
    if layout.place.rest.head?.any isBreak then
      skipGap fuel { layout with
        place := layout.place.takeBreak.2
        keyAllowed := layout.keyAllowed || !layout.inFlow }
    else layout

/-! ### Indicators -/

/-- The stream is at its end. -/
def takeEnd? (layout : Layout) : Option Layout := do
  let layout ← (layout.unindent (-1)).dropKey?
  some (layout.push .streamEnd)

def takeMarker? (layout : Layout) (token : Token) : Option Layout := do
  let layout ← (layout.unindent (-1)).dropKey?
  some ({ layout with keyAllowed := false }.push token |>.skip 3)

def openFlow? (layout : Layout) (token : Token) : Option Layout := do
  let layout ← layout.noteKey?
  some ({ layout with keys := none :: layout.keys, keyAllowed := true }.push token).skip

def closeFlow? (layout : Layout) (token : Token) : Option Layout := do
  let layout ← layout.dropKey?
  let keys := if layout.inFlow then layout.keys.drop 1 else layout.keys
  some ({ layout with keys, keyAllowed := false }.push token).skip

def takeComma? (layout : Layout) : Option Layout := do
  let layout ← layout.dropKey?
  some ({ layout with keyAllowed := true }.push .comma).skip

/-- Takes the indicator of an entry of a block sequence. -/
def takeEntry? (layout : Layout) : Option Layout := do
  if !layout.inFlow && !layout.keyAllowed then none
  else
    let layout ←
      (layout.indentTo layout.place.column layout.tokens.length .blockSequence).dropKey?
    some ({ layout with keyAllowed := true }.push .entry).skip

/-- Takes the indicator of an announced key. -/
def takeKey? (layout : Layout) : Option Layout := do
  if !layout.inFlow && !layout.keyAllowed then none
  else
    let layout ←
      (layout.indentTo layout.place.column layout.tokens.length .blockMapping).dropKey?
    some ({ layout with keyAllowed := !layout.inFlow }.push .key).skip

/-- Takes the colon between a key and its value. If what was read before it may be a key, it is one. -/
def takeValue? (layout : Layout) : Option Layout :=
  match layout.keys with
  | some key :: rest =>
    let announced := (layout.insertAt key.token .key).indentTo key.place.column key.token .blockMapping
    some ({ announced with keys := none :: rest, keyAllowed := false }.push .value).skip
  | _ =>
    if layout.inFlow then some (layout.push .value).skip
    else if layout.keyAllowed then
      some ((layout.indentTo layout.place.column layout.tokens.length .blockMapping).push .value).skip
    else none

/-! ### Anchors and tags -/

def isNameCharacter (character : Char) : Bool :=
  character.isAlphanum || character = '_' || character = '-'

/-- What may stand behind a name: a gap or one of some indicators. -/
def endsName (text : List Char) : Bool :=
  atGap text || "?:,]\x7d%@\x60".toList.any fun indicator => text.head? == some indicator

/-- Takes the name of an anchor or an alias. -/
def takeName? (layout : Layout) (token : String → Token) : Option Layout := do
  let layout ← layout.noteKey?
  let layout := layout.skip
  let name := layout.place.rest.takeWhile isNameCharacter
  if name.isEmpty || !endsName (layout.place.rest.drop name.length) then none
  else
    let taken := { layout with keyAllowed := false }.push (token (String.ofList name))
    some (taken.skip name.length)

def isTagCharacter (character : Char) : Bool :=
  isNameCharacter character || ";/?:@&=+$.!~*'()".toList.contains character

/-- Characters of tags that are written out in full. -/
def isVerbatimCharacter (character : Char) : Bool :=
  isTagCharacter character || character = ',' || character = '[' || character = ']'

/-- How many octets a character has that begins with this one. -/
def octetCount? (octet : Nat) : Option Nat :=
  if octet < 0x80 then some 1
  else if octet < 0xc0 then none
  else if octet < 0xe0 then some 2
  else if octet < 0xf0 then some 3
  else if octet < 0xf8 then some 4
  else none

/-- The octet behind a percent sign at the beginning of a text. -/
def octet? : List Char → Option Nat
  | '%' :: first :: second :: _ => do
    some (16 * (← Json.hexValue? first) + (← Json.hexValue? second))
  | _ => none

/-- A character written as octets behind percent signs, and the rest. -/
def readOctets? (text : List Char) : Option (Char × List Char) := do
  let count ← octetCount? (← octet? text)
  let octets ← (List.range count).mapM fun index => octet? (text.drop (3 * index))
  let decoded ← String.fromUTF8? (octets.map UInt8.ofNat).toByteArray
  some (← decoded.toList.head?, text.drop (3 * count))

/-- Reads the characters of a tag; `done` holds those read, last first. -/
def readTagText? (allowed : Char → Bool) : (fuel : Nat) → (done text : List Char) →
    Option (List Char × List Char)
  | 0, _, _ => none
  | fuel + 1, done, text =>
    match text with
    | '%' :: _ => do
      let (character, rest) ← readOctets? text
      readTagText? allowed fuel (character :: done) rest
    | character :: rest =>
      if allowed character then readTagText? allowed fuel (character :: done) rest
      else some (done.reverse, text)
    | [] => some (done.reverse, [])

def tagText? (allowed : Char → Bool) (text : List Char) : Option (List Char × List Char) :=
  readTagText? allowed (text.length + 1) [] text

/-- The handle and the suffix of a tag, and the rest. A tag without a handle of its own has the handle
of one exclamation mark, and a tag written out in full has none; nor has the mark on its own. -/
def readTag? : List Char → Option (List Char × List Char × List Char)
  | '!' :: '<' :: rest => do
    let (suffix, rest) ← tagText? isVerbatimCharacter rest
    match rest with
    | '>' :: rest => if suffix.isEmpty then none else some ([], suffix, rest)
    | _ => none
  | '!' :: rest =>
    let name := rest.takeWhile isNameCharacter
    match rest.drop name.length with
    | '!' :: rest => do
      let (suffix, rest) ← tagText? isTagCharacter rest
      if suffix.isEmpty then none else some ('!' :: name ++ ['!'], suffix, rest)
    | _ => do
      let (suffix, rest) ← tagText? isTagCharacter rest
      some (if suffix.isEmpty then ([], ['!'], rest) else (['!'], suffix, rest))
  | _ => none

def takeTag? (layout : Layout) : Option Layout := do
  let layout ← layout.noteKey?
  let (handle, suffix, rest) ← readTag? layout.place.rest
  if atGap rest || (layout.inFlow && rest.head? == some ',') then
    let tag := Token.tag (String.ofList handle) (String.ofList suffix)
    let count := layout.place.rest.length - rest.length
    some (({ layout with keyAllowed := false }.push tag).skip count)
  else none

/-! ### Directives -/

def skipSpace (text : List Char) : List Char := text.dropWhile isSpace

/-- A number of at most nine digits. -/
def readNumber? (text : List Char) : Option (Nat × List Char) :=
  let digits := text.takeWhile Char.isDigit
  if digits.isEmpty || 9 < digits.length then none
  else some (digitsValue 10 digits, text.drop digits.length)

/-- Reads what stands behind the name of a version directive. -/
def readVersion? (text : List Char) : Option (Token × List Char) := do
  let (major, rest) ← readNumber? (skipSpace text)
  match rest with
  | '.' :: rest => do
    let (minor, rest) ← readNumber? rest
    some (.version major minor, rest)
  | _ => none

/-- Reads what stands behind the name of a directive for a tag handle. -/
def readTagHandle? (text : List Char) : Option (Token × List Char) :=
  match skipSpace text with
  | '!' :: rest => do
    let name := rest.takeWhile isNameCharacter
    let (handle, rest) ← match rest.drop name.length with
      | '!' :: rest => some ('!' :: name ++ ['!'], rest)
      | rest => if name.isEmpty then some (['!'], rest) else none
    if rest.head?.any isSpace then do
      let (start, rest) ← tagText? isVerbatimCharacter (skipSpace rest)
      if start.isEmpty || !atGap rest then none
      else some (.tagHandle (String.ofList handle) (String.ofList start), rest)
    else none
  | _ => none

/-- Takes a directive, with nothing behind it on its line but a comment. -/
def takeDirective? (layout : Layout) : Option Layout := do
  let layout ← (layout.unindent (-1)).dropKey?
  let text := layout.place.rest.drop 1
  let name := text.takeWhile isNameCharacter
  let rest := text.drop name.length
  let (token, rest) ←
    if !atGap rest then none
    else if name = "YAML".toList then readVersion? rest
    else if name = "TAG".toList then readTagHandle? rest
    else none
  let rest := skipSpace rest
  if rest.isEmpty || rest.head?.any fun character => character == '#' || isBreak character then
    some ({ layout with keyAllowed := false, place := layout.place.toLineEnd }.push token)
  else none

/-! ### Scalars -/

def takeQuoted? (layout : Layout) (quote : Char) : Option Layout := do
  let layout ← layout.noteKey?
  let (text, place) ← readQuoted? quote (layout.place.rest.length + 1) [] layout.place.skip
  some ({ layout with place, keyAllowed := false }.push (.scalar (String.ofList text) false))

def takePlain? (layout : Layout) : Option Layout := do
  let layout ← layout.noteKey?
  let (text, broken, place) ← readPlain? layout.inFlow (layout.indent + 1).toNat
    (layout.place.rest.length + 1) [] {} layout.place
  some ({ layout with place, keyAllowed := broken }.push (.scalar (String.ofList text) true))

def takeBlock? (layout : Layout) (folded : Bool) : Option Layout := do
  let layout ← layout.dropKey?
  let (text, place) ← readBlock? folded layout.indent layout.place.skip
  some ({ layout with place, keyAllowed := true }.push (.scalar (String.ofList text) false))

/-- Whether a plain text may begin with this character, before this rest. -/
def startsPlain (layout : Layout) (character : Char) (rest : List Char) : Bool :=
  if character = '-' then !(rest.head?.any isSpace)
  else if character = '?' ∨ character = ':' then !layout.inFlow && !atGap rest
  else !isFlowIndicator character && !("\t#&*!|>'\"%@\x60".toList.contains character)

/-! ### Tokens -/

/-- Takes the next token. -/
def take? (layout : Layout) : Option Layout := do
  let layout ← (skipGap (layout.place.rest.length + 1) layout).dropStale?
  let layout := layout.unindent layout.place.column
  match layout.place.rest with
  | [] => layout.takeEnd?
  | character :: rest =>
    if layout.place.column = 0 ∧ character = '%' then layout.takeDirective?
    else if layout.place.atMarker then
      layout.takeMarker? (if character = '-' then .documentStart else .documentEnd)
    else if character = '[' then layout.openFlow? .flowSequence
    else if character = '\x7b' then layout.openFlow? .flowMapping
    else if character = ']' then layout.closeFlow? .flowSequenceEnd
    else if character = '\x7d' then layout.closeFlow? .flowMappingEnd
    else if character = ',' then layout.takeComma?
    else if character = '-' ∧ atGap rest then layout.takeEntry?
    else if character = '?' ∧ (layout.inFlow ∨ atGap rest) then layout.takeKey?
    else if character = ':' ∧ (layout.inFlow ∨ atGap rest) then layout.takeValue?
    else if character = '*' then layout.takeName? .alias
    else if character = '&' then layout.takeName? .anchor
    else if character = '!' then layout.takeTag?
    else if character = '|' ∧ !layout.inFlow then layout.takeBlock? false
    else if character = '>' ∧ !layout.inFlow then layout.takeBlock? true
    else if character = '\'' ∨ character = '"' then layout.takeQuoted? character
    else if layout.startsPlain character rest then layout.takePlain?
    else none

def takeAll? : (fuel : Nat) → Layout → Option (List Token)
  | 0, _ => none
  | fuel + 1, layout => do
    let layout ← layout.take?
    match layout.tokens with
    | .streamEnd :: _ => some layout.tokens.reverse
    | _ => takeAll? fuel layout

end Layout

/-- The tokens of a stream. -/
def tokens? (text : String) : Option (List Token) :=
  let characters := text.toList
  let characters := if characters.head? = some '\ufeff' then characters.drop 1 else characters
  if characters.all isAllowed then
    Layout.takeAll? (2 * characters.length + 2) { place := { rest := characters } }
  else none

end BotHost.Yaml
