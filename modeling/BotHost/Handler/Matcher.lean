/-
Matchers: the rules that decide whether a handler reacts to an event.
-/

import BotHost.Event
import BotHost.Text.Blank
import BotHost.Text.Folding
import BotHost.Text.Quoted

namespace BotHost

/-- What searches texts for triggers. It makes a pattern of every trigger and takes none that would be
too large; how much room a pattern needs is its own affair. -/
class PatternEngine where
  /-- Whether the pattern of a trigger stays within the limit. -/
  fits : String → Bool

namespace PatternEngine

/-- The engine with room for every pattern. -/
abbrev unlimited : PatternEngine where
  fits _ := true

instance : Repr PatternEngine := ⟨fun _ _ => "PatternEngine"⟩

end PatternEngine

/-- A trigger text is taken literally, and matches wherever it stands in a message once case is
ignored. -/
inductive Matcher where
  | command (name : String)
  | trigger (literal : String)
  | nonCommandText
  | callbackData (data : String)
  | anyMessage
deriving DecidableEq, Repr

namespace Matcher

/-- The command of a name, whose leading slashes do not count. -/
def ofCommand (name : String) : Matcher :=
  .command (String.ofList (name.toList.dropWhile (· == '/')))

/-- The patterns of triggers may take at most this many bytes. -/
def patternLimit : Nat := 0x100000

/-- A trigger whose pattern would be too large. -/
structure TriggerTooLarge where
deriving DecidableEq, Repr

def TriggerTooLarge.message (_ : TriggerTooLarge) : String :=
  s!"Compiled regex exceeds size limit of {patternLimit} bytes."

/-- The matcher of a trigger text. -/
def ofTrigger [PatternEngine] (literal : String) : Except TriggerTooLarge Matcher :=
  if PatternEngine.fits literal then .ok (.trigger literal) else .error ⟨⟩

/-- The rule of blocks that react to text: their trigger, or without one any text that is no
command. -/
def ofTextRule [PatternEngine] : Option String → Except TriggerTooLarge Matcher
  | some literal => ofTrigger literal
  | none => .ok .nonCommandText

/-- The text behind a pattern that it begins with. -/
def afterPattern? : (pattern text : List Char) → Option (List Char)
  | [], text => some text
  | _ :: _, [] => none
  | expected :: pattern, found :: text =>
    if expected = found then afterPattern? pattern text else none

/-- Whether the first word of the text is the command, alone or addressed to a bot by name. -/
def isCommand (name text : String) : Bool :=
  match text.toList with
  | '/' :: _ =>
    match afterPattern? ('/' :: name.toList) (Text.firstWord text.toList) with
    | some [] => true
    | some ('@' :: bot) => !bot.isEmpty
    | _ => false
  | _ => false

/-- Whether the matcher accepts a message. -/
def acceptsMessage (matcher : Matcher) (message : Message) : Bool :=
  match matcher, message.text with
  | .anyMessage, _ => true
  | .command name, some text => isCommand name text
  | .trigger literal, some text => Text.containsFolded literal.toList text.toList
  | .nonCommandText, some _ => !message.isCommand
  | _, _ => false

/-- Whether the matcher accepts an event. -/
def accepts (matcher : Matcher) : Event → Bool
  | .message message => matcher.acceptsMessage message
  | .callback callback =>
    match matcher with
    | .callbackData data => callback.data == some data
    | _ => false

/-- The rule in words. -/
def describe : Matcher → String
  | .command name => "command /" ++ name
  | .trigger literal => "text contains " ++ Text.quoted literal ++ " (any case)"
  | .nonCommandText => "any non-command text"
  | .callbackData data => "callback data " ++ Text.quoted data
  | .anyMessage => "any message"

end Matcher

end BotHost
