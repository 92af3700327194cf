/-
Filters: directives taken together. Of the directives that are about an event the most specific one
decides, and without one the event is not shown.
-/

import BotHost.Logging.Directive
import BotHost.Text.Split

namespace BotHost

/-- The directives about targets, each target and list of fields once, and those about spans. -/
structure LogFilter where
  statics : List Directive := []
  dynamics : List Directive := []
deriving DecidableEq, Repr

namespace LogFilter

/-- Adds a directive. One about the same target and fields gives way to it. -/
def add (filter : LogFilter) (directive : Directive) : LogFilter :=
  if directive.isStatic then
    { filter with
      statics := directive :: filter.statics.filter fun other =>
        other.target != directive.target || other.fields != directive.fields }
  else { filter with dynamics := directive :: filter.dynamics }

def ofDirectives (directives : List Directive) : LogFilter :=
  directives.foldl add {}

/-- Reads a list of directives between commas; none if one of them cannot be read. -/
def ofText? (text : String) : Option LogFilter :=
  let parts := (Text.splitOn ',' text.toList).filter fun part => !part.isEmpty
  (parts.mapM fun part => Directive.ofText? (String.ofList part)).map ofDirectives

/-- Whether one directive is more specific than another; of equally specific ones, the greater target
counts as more specific. -/
def precedes (first second : Directive) : Bool :=
  let (firstLength, firstFields) := first.specificity
  let (secondLength, secondFields) := second.specificity
  secondLength < firstLength || (secondLength == firstLength &&
    (secondFields < firstFields || (secondFields == firstFields &&
      second.target.getD "" < first.target.getD "")))

/-- The most specific directive. -/
def mostSpecific? (directives : List Directive) : Option Directive :=
  directives.foldl (fun best directive =>
    match best with
    | none => some directive
    | some best => if precedes directive best then some directive else some best) none

/-- What the most specific of some directives says of a level. -/
def admits (directives : List Directive) (level : LogLevel) : Bool :=
  (mostSpecific? directives).any fun directive => directive.threshold.admits level

/-- Whether an event that has a message and no other field is shown. -/
def showsEvent (filter : LogFilter) (target : String) (level : LogLevel) : Bool :=
  admits (filter.statics.filter fun directive => directive.coversEvent target ["message"]) level

/-- Whether any directive admits a level. -/
def reaches (filter : LogFilter) (level : LogLevel) : Bool :=
  (filter.statics ++ filter.dynamics).any fun directive => directive.threshold.admits level

/-- Whether a span without fields is followed. A directive about the span suffices, whatever its
threshold, as long as the level is shown somewhere. -/
def showsSpan (filter : LogFilter) (target name : String) (level : LogLevel) : Bool :=
  filter.reaches level &&
    ((filter.dynamics.any fun directive => directive.coversSpan target name) ||
      admits (filter.statics.filter fun directive => directive.matchesTarget target) level)

end LogFilter

end BotHost
