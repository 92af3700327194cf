/-
The texts of YAML: plain ones, quoted ones, and blocks of lines.

A text may go on over several lines. The gap between two of its runs of characters is folded: within a
line it stays as it is, a single line end becomes a blank, and of several line ends all but the first
stay.
-/

import BotHost.Number.Decimal

namespace BotHost.Yaml

/-! ### Characters -/

def isSpace (character : Char) : Bool :=
  character = ' ' || character = '\t'

def isBreak (character : Char) : Bool :=
  character = '\n' || character = '\r' || character = '\x85' || character = '\u2028' ||
    character = '\u2029'

/-- Whether a text begins with a blank or a line end, or is at its end. -/
def atGap : List Char → Bool
  | [] => true
  | character :: _ => isSpace character || isBreak character

/-- Characters that may stand in a stream. -/
def isAllowed (character : Char) : Bool :=
  character = '\t' || character = '\n' || character = '\r' ||
    (' ' ≤ character && character ≤ '~') || character = '\x85' || '\u00a0' ≤ character

/-! ### Places -/

/-- A place in a stream: the text from there on, and where that is. -/
structure Place where
  rest : List Char
  offset : Nat := 0
  line : Nat := 0
  column : Nat := 0
deriving Repr

namespace Place

/-- The place behind so many characters of a line. -/
def skip (place : Place) (count : Nat := 1) : Place :=
  { place with
    rest := place.rest.drop count
    offset := place.offset + count
    column := place.column + count }

/-- The line end that a place is at, and the place behind it. -/
def takeBreak (place : Place) : List Char × Place :=
  let next (text : List Char) (count : Nat) : Place :=
    ⟨text, place.offset + count, place.line + 1, 0⟩
  match place.rest with
  | '\r' :: '\n' :: rest => (['\n'], next rest 2)
  | character :: rest =>
    (if character = '\u2028' ∨ character = '\u2029' then [character] else ['\n'], next rest 1)
  | [] => ([], place)

/-- Whether a line begins here that ends a document or begins one. -/
def atMarker (place : Place) : Bool :=
  place.column = 0 &&
    match place.rest with
    | '-' :: '-' :: '-' :: rest => atGap rest
    | '.' :: '.' :: '.' :: rest => atGap rest
    | _ => false

/-- Skips to the end of the line. -/
def toLineEnd (place : Place) : Place :=
  place.skip (place.rest.takeWhile fun character => !isBreak character).length

end Place

/-! ### Gaps -/

/-- The blanks and line ends between two runs: the blanks as long as there is no line end, then the
first line end and the others. -/
structure Gap where
  spaces : List Char := []
  first : List Char := []
  others : List Char := []
  broken : Bool := false
deriving Repr

namespace Gap

/-- What a gap becomes in the text. -/
def text (gap : Gap) : List Char :=
  if gap.broken then
    if gap.first = ['\n'] then
      if gap.others.isEmpty then [' '] else gap.others
    else gap.first ++ gap.others
  else gap.spaces

/-- Takes a gap. A tab within the indentation of a new line is refused if one is given. -/
def take? (indentation : Option Nat) : (fuel : Nat) → Gap → Place → Option (Gap × Place)
  | 0, _, _ => none
  | fuel + 1, gap, place =>
    match place.rest with
    | [] => some (gap, place)
    | character :: _ =>
      if isSpace character then
        if gap.broken then
          if character = '\t' ∧ indentation.any (place.column < ·) then none
          else take? indentation fuel gap place.skip
        else take? indentation fuel { gap with spaces := gap.spaces ++ [character] } place.skip
      else if isBreak character then
        let (taken, place) := place.takeBreak
        if gap.broken then take? indentation fuel { gap with others := gap.others ++ taken } place
        else take? indentation fuel { gap with first := taken, broken := true } place
      else some (gap, place)

end Gap

/-! ### Plain texts -/

def isFlowIndicator (character : Char) : Bool :=
  character = ',' || character = '[' || character = ']' || character = '\x7b' ||
    character = '\x7d'

/-- Takes the characters of a plain text up to a gap or to an indicator. Within brackets a colon right
before an indicator is refused. -/
def plainRun? (inFlow : Bool) : (done text : List Char) → Option (List Char)
  | done, [] => some done.reverse
  | done, character :: rest =>
    if isSpace character || isBreak character then some done.reverse
    else if character = ':' then
      if atGap rest then some done.reverse
      else if inFlow && (rest.head?.any fun next => isFlowIndicator next || next == '?') then none
      else plainRun? inFlow (character :: done) rest
    else if inFlow && isFlowIndicator character then some done.reverse
    else plainRun? inFlow (character :: done) rest

/-- Takes a plain text that began before; also says whether a line end follows it. Outside brackets
all its lines are indented. -/
def readPlain? (inFlow : Bool) (indentation : Nat) : (fuel : Nat) → (done : List Char) → Gap →
    Place → Option (List Char × Bool × Place)
  | 0, _, _, _ => none
  | fuel + 1, done, gap, place =>
    if place.atMarker || place.rest.head? == some '#' then some (done, gap.broken, place)
    else do
      let run ← plainRun? inFlow [] place.rest
      let (done, gap) := if run.isEmpty then (done, gap) else (done ++ gap.text ++ run, {})
      let place := place.skip run.length
      if place.rest.isEmpty || !atGap place.rest then some (done, gap.broken, place)
      else
        let (gap, place) ← gap.take? (some indentation) (place.rest.length + 1) place
        if !inFlow && place.column < indentation then some (done, gap.broken, place)
        else readPlain? inFlow indentation fuel done gap place

/-! ### Quoted texts -/

/-- The character of so many hexadecimal digits, and their number. -/
def readCode? (count : Nat) (text : List Char) : Option (Char × Nat) :=
  let digits := text.take count
  let value := digitsValue 16 digits
  if digits.length = count ∧ digits.all (fun digit => (Json.hexValue? digit).isSome) then
    if Nat.isValidChar value then some (Char.ofNat value, count) else none
  else none

/-- The character written behind a backslash, and how many characters write it. -/
def readEscape? : List Char → Option (Char × Nat)
  | '0' :: _ => some ('\x00', 1)
  | 'a' :: _ => some ('\x07', 1)
  | 'b' :: _ => some ('\x08', 1)
  | 't' :: _ | '\t' :: _ => some ('\t', 1)
  | 'n' :: _ => some ('\n', 1)
  | 'v' :: _ => some ('\x0b', 1)
  | 'f' :: _ => some ('\x0c', 1)
  | 'r' :: _ => some ('\r', 1)
  | 'e' :: _ => some ('\x1b', 1)
  | ' ' :: _ => some (' ', 1)
  | '"' :: _ => some ('"', 1)
  | '/' :: _ => some ('/', 1)
  | '\\' :: _ => some ('\\', 1)
  | 'N' :: _ => some ('\x85', 1)
  | '_' :: _ => some ('\u00a0', 1)
  | 'L' :: _ => some ('\u2028', 1)
  | 'P' :: _ => some ('\u2029', 1)
  | 'x' :: rest => (readCode? 2 rest).map fun (character, count) => (character, count + 1)
  | 'u' :: rest => (readCode? 4 rest).map fun (character, count) => (character, count + 1)
  | 'U' :: rest => (readCode? 8 rest).map fun (character, count) => (character, count + 1)
  | _ => none

/-- Takes the characters of a quoted text up to a gap, to the closing quote, or to an escaped line
end, of which it tells. -/
def quotedRun? (quote : Char) : (fuel : Nat) → (done : List Char) → Place →
    Option (List Char × Bool × Place)
  | 0, _, _ => none
  | fuel + 1, done, place =>
    match place.rest with
    | [] => some (done, false, place)
    | character :: rest =>
      if isSpace character || isBreak character then some (done, false, place)
      else if quote = '\'' ∧ character = '\'' ∧ rest.head? = some '\'' then
        quotedRun? quote fuel (done ++ ['\'']) (place.skip 2)
      else if character = quote then some (done, false, place)
      else if quote = '"' ∧ character = '\\' then
        if rest.head?.any isBreak then some (done, true, place.skip.takeBreak.2)
        else do
          let (escaped, count) ← readEscape? rest
          quotedRun? quote fuel (done ++ [escaped]) (place.skip (count + 1))
      else quotedRun? quote fuel (done ++ [character]) place.skip

/-- Takes a quoted text from behind its first quote. -/
def readQuoted? (quote : Char) : (fuel : Nat) → (done : List Char) → Place →
    Option (List Char × Place)
  | 0, _, _ => none
  | fuel + 1, done, place =>
    if place.atMarker || place.rest.isEmpty then none
    else do
      let (done, escapedBreak, place) ← quotedRun? quote (place.rest.length + 1) done place
      if place.rest.head? = some quote ∧ !escapedBreak then some (done, place.skip)
      else
        let (gap, place) ←
          Gap.take? none (place.rest.length + 1) { broken := escapedBreak } place
        readQuoted? quote fuel (done ++ gap.text) place

/-! ### Blocks of lines -/

/-- What becomes of the line ends at the end of a block. -/
inductive Chomping where
  | strip
  | clip
  | keep
deriving DecidableEq, Repr

/-- Skips blank lines and the indentation of the next line, of at most `indentation` blanks if that is
known. Also gives the line ends and the greatest column. -/
def skipBlankLines? (indentation : Option Nat) : (fuel : Nat) → (breaks : List Char) →
    (greatest : Nat) → Place → Option (List Char × Nat × Place)
  | 0, _, _, _ => none
  | fuel + 1, breaks, greatest, place =>
    let blanks := (place.rest.takeWhile (· == ' ')).length
    let count := match indentation with
      | some indentation => min blanks (indentation - place.column)
      | none => blanks
    let place := place.skip count
    let greatest := max greatest place.column
    let within := match indentation with
      | some indentation => place.column < indentation
      | none => true
    match place.rest with
    | [] => some (breaks, greatest, place)
    | character :: _ =>
      if within && character == '\t' then none
      else if isBreak character then
        let (taken, place) := place.takeBreak
        skipBlankLines? indentation fuel (breaks ++ taken) greatest place
      else some (breaks, greatest, place)

/-- The lines of a block: what has been read, the line end of the last line, the line ends behind it,
and whether that line began with a blank. -/
structure BlockLines where
  done : List Char := []
  last : List Char := []
  breaks : List Char
  indented : Bool := false

namespace BlockLines

/-- Joins the line that begins at a place. In a folded block a line end between two lines that are not
indented further becomes a blank, or nothing if others follow it. -/
def join (lines : BlockLines) (folded : Bool) (place : Place) : BlockLines :=
  let indented := place.rest.head?.any isSpace
  let between :=
    if folded ∧ lines.last = ['\n'] ∧ !lines.indented ∧ !indented then
      if lines.breaks.isEmpty then [' '] else lines.breaks
    else lines.last ++ lines.breaks
  let line := place.rest.takeWhile fun character => !isBreak character
  { done := lines.done ++ between ++ line, breaks := [], indented }

def read? (folded : Bool) (indentation : Nat) : (fuel : Nat) → BlockLines → Place →
    Option (BlockLines × Place)
  | 0, _, _ => none
  | fuel + 1, lines, place =>
    if place.column = indentation ∧ !place.rest.isEmpty then do
      let joined := lines.join folded place
      let (last, place) := place.toLineEnd.takeBreak
      let (breaks, _, place) ←
        skipBlankLines? (some indentation) (place.rest.length + 1) [] 0 place
      read? folded indentation fuel { joined with last, breaks } place
    else some (lines, place)

/-- The text of a block whose lines have all been read. -/
def text (lines : BlockLines) : Chomping → List Char
  | .strip => lines.done
  | .clip => lines.done ++ lines.last
  | .keep => lines.done ++ lines.last ++ lines.breaks

end BlockLines

/-- The marks behind the indicator of a block, in either order: how many blanks its lines are indented
by, and what becomes of the last line ends. -/
def readMarks? (text : List Char) : Option (Option Nat × Chomping × Nat) :=
  let chomping? : Char → Option Chomping
    | '-' => some .strip
    | '+' => some .keep
    | _ => none
  let blanks? (digit : Char) : Option (Option Nat) :=
    if digit.isDigit then
      if digit = '0' then none else some (some (digitsValue 10 [digit]))
    else some none
  match text with
  | [] => some (none, .clip, 0)
  | first :: rest =>
    match chomping? first with
    | some chomping =>
      match rest with
      | [] => some (none, chomping, 1)
      | second :: _ => do
        match ← blanks? second with
        | some blanks => some (some blanks, chomping, 2)
        | none => some (none, chomping, 1)
    | none => do
      match ← blanks? first with
      | none => some (none, .clip, 0)
      | some blanks =>
        match rest.head?.bind chomping? with
        | some chomping => some (some blanks, chomping, 2)
        | none => some (some blanks, .clip, 1)

/-- Takes a block from behind its indicator; `indentation` is that of the lines around it. -/
def readBlock? (folded : Bool) (indentation : Int) (place : Place) :
    Option (List Char × Place) := do
  let (blanks, chomping, count) ← readMarks? place.rest
  let place := place.skip count
  let place := place.skip (place.rest.takeWhile isSpace).length
  let place := if place.rest.head? == some '#' then place.toLineEnd else place
  if !(place.rest.isEmpty || place.rest.head?.any isBreak) then none
  else
    let place := place.takeBreak.2
    let fuel := place.rest.length + 1
    let known := blanks.map fun blanks => indentation.toNat + blanks
    let (breaks, greatest, place) ← skipBlankLines? known fuel [] 0 place
    let least := max (indentation + 1).toNat 1
    let inner := known.getD (max greatest least)
    let (lines, place) ← BlockLines.read? folded inner fuel { breaks } place
    some (lines.text chomping, place)

end BotHost.Yaml
