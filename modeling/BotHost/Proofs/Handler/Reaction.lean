/-
What the matchers accept.

Each rule is put in terms of the text of a message or the data of a pressed button: how the text can be
cut, not how it is searched. Which triggers can be searched for is left to the engine, of which nothing
is assumed.
-/

import BotHost.Handler.Matcher
import BotHost.Proofs.Text.Pieces

namespace BotHost

/-! ### Commands -/

/-- The first word of the text is the command behind a slash, alone or addressed to a bot by name. -/
def CallsCommand (name text : List Char) : Prop :=
  Text.BeginsWithWord ('/' :: name) text ∨
    ∃ bot, bot ≠ [] ∧ Text.BeginsWithWord ('/' :: name ++ '@' :: bot) text

namespace Matcher

theorem afterPattern?_eq_some {pattern text rest : List Char} :
    afterPattern? pattern text = some rest ↔ text = pattern ++ rest := by
  fun_induction afterPattern? pattern text with
  | case1 => simp
  | case2 => simp
  | case3 pattern found text inductionHypothesis => simpa using inductionHypothesis
  | case4 expected pattern found text different =>
    simp [Ne.symm different]

theorem isCommand_iff (name text : String) :
    isCommand name text = true ↔ CallsCommand name.toList text.toList := by
  unfold isCommand CallsCommand
  split
  · rename_i after begins
    have visible : ∀ character ∈ text.toList.head?, Text.isBlank character = false := by
      rw [begins]
      rintro _ ⟨⟩
      decide
    have addressed (rest : List Char) :
        Text.BeginsWithWord ('/' :: name.toList ++ rest) text.toList ↔
          afterPattern? ('/' :: name.toList) (Text.firstWord text.toList) = some rest := by
      rw [← Text.firstWord_eq_iff visible, afterPattern?_eq_some]
    have alone := addressed []
    rw [List.append_nil] at alone
    simp only [alone, addressed]
    split
    · rename_i found
      simp [found]
    · rename_i bot found
      simp [found]
    · rename_i notAlone notAddressed
      refine iff_of_false nofun ?_
      rintro (found | ⟨bot, -, found⟩)
      · exact notAlone found
      · exact notAddressed bot found
  · rename_i other
    simp only [Bool.false_eq_true, false_iff]
    rintro (⟨rest, split, -⟩ | ⟨bot, -, rest, split, -⟩)
    · exact other _ split
    · exact other _ split

end Matcher

instance (name text : List Char) : Decidable (CallsCommand name text) :=
  decidable_of_iff (Matcher.isCommand (String.ofList name) (String.ofList text) = true) (by
    rw [Matcher.isCommand_iff, String.toList_ofList, String.toList_ofList])

/-! ### Events -/

/-- The event is a message with a text that the rule holds of. -/
def Hears (rule : List Char → Prop) : Event → Prop
  | .message ⟨_, _, some text⟩ => rule text.toList
  | _ => False

instance (rule : List Char → Prop) [DecidablePred rule] : DecidablePred (Hears rule)
  | .message ⟨_, _, some text⟩ => inferInstanceAs (Decidable (rule text.toList))
  | .message ⟨_, _, none⟩ | .callback _ => inferInstanceAs (Decidable False)

/-- The event is a press of a button with this data. -/
def Presses (data : String) : Event → Prop
  | .callback callback => callback.data = some data
  | .message _ => False

instance (data : String) : DecidablePred (Presses data)
  | .callback callback => inferInstanceAs (Decidable (callback.data = some data))
  | .message _ => inferInstanceAs (Decidable False)

/-- The text is no command. -/
def PlainText (text : List Char) : Prop := text.head? ≠ some '/'

instance : DecidablePred PlainText := fun text => inferInstanceAs (Decidable (text.head? ≠ some '/'))

/-- What a text is to be like for blocks that react to text: the trigger stands in it, or without one
it is no command. -/
def TextRule : Option String → List Char → Prop
  | some trigger => Text.OccursFolded trigger.toList
  | none => PlainText

instance : (trigger? : Option String) → DecidablePred (TextRule trigger?)
  | some trigger => inferInstanceAs (DecidablePred (Text.OccursFolded trigger.toList))
  | none => inferInstanceAs (DecidablePred PlainText)

/-- The engine takes the pattern of the trigger, if there is one. -/
def TriggerFits [PatternEngine] : Option String → Prop
  | some trigger => PatternEngine.fits trigger = true
  | none => True

instance [PatternEngine] : DecidablePred TriggerFits
  | some trigger => inferInstanceAs (Decidable (PatternEngine.fits trigger = true))
  | none => inferInstanceAs (Decidable True)

namespace Matcher

theorem accepts_command (name : String) (event : Event) :
    (command name).accepts event = true ↔ Hears (CallsCommand name.toList) event := by
  match event with
  | .message ⟨_, _, some text⟩ => exact isCommand_iff name text
  | .message ⟨_, _, none⟩ | .callback _ => exact iff_of_false nofun nofun

/-- The slashes in front of a command do not count. -/
theorem accepts_ofCommand (name : String) (event : Event) :
    (ofCommand name).accepts event = true ↔
      Hears (CallsCommand (name.toList.dropWhile (· == '/'))) event := by
  rw [ofCommand, accepts_command, String.toList_ofList]

theorem accepts_trigger (literal : String) (event : Event) :
    (trigger literal).accepts event = true ↔ Hears (Text.OccursFolded literal.toList) event := by
  match event with
  | .message ⟨_, _, some text⟩ => exact Text.containsFolded_iff _ _
  | .message ⟨_, _, none⟩ | .callback _ => exact iff_of_false nofun nofun

theorem accepts_nonCommandText (event : Event) :
    nonCommandText.accepts event = true ↔ Hears PlainText event := by
  match event with
  | .message ⟨_, _, some text⟩ => simp [accepts, acceptsMessage, Message.isCommand, Hears, PlainText]
  | .message ⟨_, _, none⟩ | .callback _ => exact iff_of_false nofun nofun

theorem accepts_callbackData (data : String) (event : Event) :
    (callbackData data).accepts event = true ↔ Presses data event := by
  match event with
  | .callback callback => exact beq_iff_eq
  | .message ⟨_, _, some text⟩ | .message ⟨_, _, none⟩ => exact iff_of_false nofun nofun

variable [PatternEngine] {trigger? : Option String}

theorem ofTextRule_of_fits (fits : TriggerFits trigger?) :
    ∃ matcher, ofTextRule trigger? = .ok matcher ∧
      ∀ event, matcher.accepts event = true ↔ Hears (TextRule trigger?) event := by
  cases trigger? with
  | some trigger => exact ⟨_, if_pos fits, accepts_trigger trigger⟩
  | none => exact ⟨_, rfl, accepts_nonCommandText⟩

theorem ofTextRule_of_not_fits (large : ¬TriggerFits trigger?) :
    ∃ fault, ofTextRule trigger? = .error fault := by
  cases trigger? with
  | some trigger => exact ⟨_, if_neg large⟩
  | none => exact absurd trivial large

end Matcher

end BotHost
