/-
Filter directives: which log events are shown. A directive gives a threshold, for everything or for
the targets that begin with its own; it may be limited to a span and to events with certain fields.

    level    target    target=level    target[span]=level    target[span{field=value}]=level

A target without a level shows all levels.
-/

import BotHost.Settings.Basic
import BotHost.Text.Alphabetic
import BotHost.Text.Blank
import BotHost.Text.Numeric
import BotHost.Text.Search

namespace BotHost

/-- The least severe level that is shown; nothing is shown if there is none. -/
abbrev Threshold := Option LogLevel

namespace Threshold

def admits (threshold : Threshold) (level : LogLevel) : Bool :=
  threshold.any fun least => level.rank ≤ least.rank

/-- The thresholds by number: zero shows nothing, five shows all. -/
def ofNumber? (number : Nat) : Option Threshold :=
  if number = 0 then some none
  else (LogLevel.all.find? fun level => level.rank == number).map some

/-- Reads a threshold: a number, or a name in any case. -/
def ofText? (text : String) : Option Threshold :=
  let digits := match text.toList with
    | '+' :: rest => rest
    | characters => characters
  let name := String.ofList (text.toList.map Char.toLower)
  let numbered :=
    if !digits.isEmpty && digits.all Char.isDigit then
      ofNumber? (digits.foldl (fun total digit => total * 10 + (digit.toNat - '0'.toNat)) 0)
    else none
  if numbered.isSome then numbered
  else if name = "off" then some none
  else (LogLevel.all.find? fun level => level.name == name).map some

end Threshold

/-- A field that a directive asks for, and whether it asks for a value. -/
structure FieldMatch where
  name : String
  hasValue : Bool
deriving DecidableEq, Repr

structure Directive where
  threshold : Threshold := some .trace
  target : Option String := none
  span : Option String := none
  fields : List FieldMatch := []
deriving DecidableEq, Repr

namespace Directive

/-! ### Reading -/

/-- What is being read, and where it began. -/
inductive ReadState where
  | start
  | levelOrTarget (start : Nat)
  | span (start : Nat)
  | field (start : Nat)
  | afterFields
  | afterSpan
  | level (start : Nat)

/-- A field is a name, or a name with a value behind an equals sign. -/
def readField? (text : String) : Option FieldMatch :=
  if text.isEmpty then none
  else
    let name := text.toList.takeWhile (· != '=')
    some ⟨String.ofList name, name.length < text.toList.length⟩

/-- Whether a directive without a span may begin with a character. -/
def mayBegin (character : Char) : Bool :=
  character = '-' || character = ':' || character = '_' || Text.isAlphabetic character ||
    Text.isNumeric character

/-- One more character at a position; `cut` gives the part between two positions. -/
def step? (cut : Nat → Nat → String) (directive : Directive) (position : Nat) (character : Char) :
    ReadState → Option (Directive × ReadState)
  | .start =>
    if character = '[' then some (directive, .span (position + 1))
    else if mayBegin character then some (directive, .levelOrTarget position)
    else none
  | .levelOrTarget start =>
    if character = '=' then
      some ({ directive with target := some (cut start position) }, .level (position + 1))
    else if character = '[' then
      some ({ directive with target := some (cut start position) }, .span (position + 1))
    else if character = ',' then none
    else some (directive, .levelOrTarget start)
  | .span start =>
    if character = ']' then
      some ({ directive with span := some (cut start position) }, .afterSpan)
    else if character = '\x7b' then
      let name := cut start position
      some ({ directive with span := if name.isEmpty then none else some name },
        .field (position + 1))
    else some (directive, .span start)
  | .field start =>
    if character = '\x7d' ∨ character = ',' then do
      let field ← readField? (cut start position)
      some ({ directive with fields := directive.fields ++ [field] },
        if character = ',' then .field (position + 1) else .afterFields)
    else some (directive, .field start)
  | .afterFields => if character = ']' then some (directive, .afterSpan) else none
  | .afterSpan => if character = '=' then some (directive, .level (position + 1)) else none
  | .level start => if character = ',' then none else some (directive, .level start)

def readFrom? (cut : Nat → Nat → String) : (position : Nat) → List Char → Directive → ReadState →
    Option (Directive × ReadState)
  | _, [], directive, state => some (directive, state)
  | position, character :: rest, directive, state => do
    let (directive, state) ← step? cut directive position character state
    readFrom? cut (position + 1) rest directive state

/-- Reads a directive. Positions are those in the text without the blanks around it, and the parts are
cut out of the text with them, so a blank in front of a directive spoils it. -/
def ofText? (text : String) : Option Directive := do
  let characters := text.toList
  let cut (first last : Nat) : String := String.ofList ((characters.take last).drop first)
  let (directive, state) ← readFrom? cut 0 (Text.trimBlank characters) {} .start
  match state with
  | .levelOrTarget start =>
    let rest := cut start characters.length
    match Threshold.ofText? rest with
    | some threshold => some { directive with threshold }
    | none => some { directive with target := some rest }
  | .level start =>
    let rest := cut start characters.length
    if rest.isEmpty then some directive
    else do some { directive with threshold := ← Threshold.ofText? rest }
  | .afterSpan => some directive
  | _ => none

/-! ### Matching -/

/-- Whether the directive looks at targets and at the names of fields only. -/
def isStatic (directive : Directive) : Bool :=
  directive.span.isNone && directive.fields.all fun field => !field.hasValue

def matchesTarget (directive : Directive) (target : String) : Bool :=
  directive.target.all fun start => target.startsWith start

/-- Whether the directive is about an event that has these fields. -/
def coversEvent (directive : Directive) (target : String) (fields : List String) : Bool :=
  directive.matchesTarget target &&
    directive.fields.all fun field => fields.contains field.name

/-- Whether the directive is about a span of this name, which has no fields. -/
def coversSpan (directive : Directive) (target name : String) : Bool :=
  directive.matchesTarget target && directive.span.all (· == name) && directive.fields.isEmpty

/-- How specific the directive is: first by the length of its target, then by its fields. -/
def specificity (directive : Directive) : Nat × Nat :=
  ((directive.target.map fun target => Text.byteLength target.toList + 1).getD 0,
    directive.fields.length)

end Directive

end BotHost
