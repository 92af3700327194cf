/-
Who answers a command.

A command is called by the first word of a text that begins with a slash, alone or addressed to a bot.
A command block is refused exactly if its name, without the slashes in front, is empty or has blanks in
it; any other name can be the first word of a text, so the block can be called. The name itself can be
read off the first word as long as names hold no at sign, so two such commands are never called at once.
-/

import BotHost.Proofs.Handler.Binding
import BotHost.Proofs.Handler.Making

namespace BotHost

open Compilation
open Interpretation (UsableCommand commandName)

variable {name other text : List Char}

/-! ### Calls of a command -/

/-- Nothing, or an at sign with the name of a bot. -/
def Addresses (address : List Char) : Prop :=
  address = [] ∨ ∃ bot, bot ≠ [] ∧ (∀ character ∈ bot, Text.isBlank character = false) ∧
    address = '@' :: bot

/-- Nothing, or something behind a blank. -/
def SetOff (payload : List Char) : Prop :=
  ∀ character ∈ payload.head?, Text.isBlank character = true

theorem callsCommand_of_usable {address payload : List Char} (usable : UsableCommand name)
    (addresses : Addresses address) (setOff : SetOff payload) :
    CallsCommand name ('/' :: name ++ address ++ payload) := by
  have visible : ∀ character ∈ '/' :: name, Text.isBlank character = false :=
    List.forall_mem_cons.mpr ⟨by decide, usable.2⟩
  obtain rfl | ⟨bot, named, joined, rfl⟩ := addresses
  · rw [List.append_nil]
    exact .inl ⟨payload, rfl, visible, setOff⟩
  · have all : ∀ character ∈ '@' :: bot, Text.isBlank character = false :=
      List.forall_mem_cons.mpr ⟨by decide, joined⟩
    exact .inr ⟨bot, named, payload, rfl, List.forall_mem_append.mpr ⟨visible, all⟩, setOff⟩

/-! ### The command of a call -/

/-- The name in the first word of a text, between the slash and an at sign. -/
def calledName (text : List Char) : List Char :=
  ((text.takeWhile fun character => !Text.isBlank character).drop 1).takeWhile (· != '@')

theorem Text.BeginsWithWord.takeWhile_eq {word : List Char} (begins : BeginsWithWord word text) :
    (text.takeWhile fun character => !isBlank character) = word := by
  obtain ⟨rest, rfl, visible, stops⟩ := begins
  exact takeWhile_append_stop (fun character among => by simp [visible character among])
    fun character head => by simp [stops character head]

/-- Only one name without an at sign is called by a text. -/
theorem CallsCommand.calledName_eq (calls : CallsCommand name text) (plain : '@' ∉ name) :
    calledName text = name := by
  have kept : ∀ character ∈ name, (character != '@') = true :=
    fun character among => bne_iff_ne.mpr fun same => plain (same ▸ among)
  have upTo (rest : List Char) (stops : ∀ character ∈ rest.head?, (character != '@') = false) :
      (('/' :: name ++ rest).drop 1).takeWhile (· != '@') = name :=
    Text.takeWhile_append_stop kept stops
  obtain begins | ⟨bot, -, begins⟩ := calls <;> rw [calledName, begins.takeWhile_eq]
  · have alone := upTo [] nofun
    rwa [List.append_nil] at alone
  · exact upTo ('@' :: bot) (by simp)

theorem name_unique {event : Event} (plain : '@' ∉ name) (plain' : '@' ∉ other)
    (calls : Hears (CallsCommand name) event) (calls' : Hears (CallsCommand other) event) :
    name = other := by
  match event with
  | .message ⟨_, _, some text⟩ =>
    rw [← CallsCommand.calledName_eq calls plain, CallsCommand.calledName_eq calls' plain']

/-- No text is a call and plain. -/
theorem not_calls_and_plain (event : Event) :
    ¬(Hears (CallsCommand name) event ∧ Hears PlainText event) := by
  rintro ⟨calls, plain⟩
  match event with
  | .message ⟨_, _, some text⟩ =>
    obtain ⟨rest, split, -⟩ | ⟨bot, -, rest, split, -⟩ := calls <;> exact plain (by rw [split]; rfl)

/-! ### Command blocks -/

/-- The handler is called by the name behind a slash, alone or addressed to a bot, with or without a
payload. -/
def Callable (name : List Char) (handler : Handler) : Prop :=
  ∀ chat id address payload, Addresses address → SetOff payload →
    handler.matcher.accepts
      (.message ⟨chat, id, some (String.ofList ('/' :: name ++ address ++ payload))⟩) = true

section Blocks

variable {scope : Condition.Scope} {block : Block} {handler : Handler}

theorem usable_of_commandRule {matcher : Matcher} (ruled : commandRule block = .ok matcher) :
    UsableCommand (commandName block) := by
  by_contra unusable
  obtain ⟨refusal, refused⟩ := Interpretation.commandRule_of_not_usable unusable
  cases ruled.symm.trans refused

variable [PatternEngine]

/-- A command block has a handler exactly if its name is usable. -/
theorem exists_handler?_iff_usable (kind : block.kind = .command) :
    (∃ handler, handler? scope block = .ok (some handler)) ↔ UsableCommand (commandName block) := by
  constructor
  · rintro ⟨handler, compiled⟩
    exact usable_of_commandRule ((makes_of_handler? compiled).ruled_of_command kind)
  · intro usable
    obtain ⟨matcher, ruled, -⟩ := Interpretation.commandRule_of_usable usable
    refine ⟨⟨.command, some block.id, matcher,
      .sendText (block.textOr "response" defaultCommandResponse)⟩, ?_⟩
    unfold handler?
    simp only [kind, ruled]
    rfl

theorem callable_of_handler? (kind : block.kind = .command)
    (compiled : handler? scope block = .ok (some handler)) : Callable (commandName block) handler := by
  have ruled := (makes_of_handler? compiled).ruled_of_command kind
  have usable := usable_of_commandRule ruled
  obtain ⟨matcher, same, accepts⟩ := Interpretation.commandRule_of_usable usable
  cases ruled.symm.trans same
  intro chat id address payload addresses setOff
  rw [accepts]
  show CallsCommand _ (String.ofList _).toList
  rw [String.toList_ofList]
  exact callsCommand_of_usable usable addresses setOff

end Blocks

/-- Who answers a command. A command handler accepts the texts whose first word calls it. A command
block is compiled exactly if its name is usable, and then its handler is one of the bot's and can be
called. Names without an at sign are called by different texts if they differ behind their slashes, and a
text that calls a command is no plain text. -/
theorem answers_commands [PatternEngine] :
    (∀ name event, (Matcher.ofCommand name).accepts event = true ↔
        Hears (CallsCommand (name.toList.dropWhile (· == '/'))) event) ∧
      (∀ (blocks : List Block) (index : Nat) (block : Block), blocks[index]? = some block →
        block.kind = .command →
        ((∃ handler, (outcomes blocks)[index]? = some (.handler handler)) ↔
            UsableCommand (commandName block)) ∧
          ∀ handler, (outcomes blocks)[index]? = some (.handler handler) →
            handler ∈ (compile blocks).handlers ∧ Callable (commandName block) handler) ∧
      (∀ name other event, '@' ∉ name.toList → '@' ∉ other.toList →
        (Matcher.ofCommand name).accepts event = true →
          (Matcher.ofCommand other).accepts event = true →
            name.toList.dropWhile (· == '/') = other.toList.dropWhile (· == '/')) ∧
      ∀ name event, ¬((Matcher.command name).accepts event = true ∧
        Matcher.nonCommandText.accepts event = true) := by
  refine ⟨Matcher.accepts_ofCommand, fun blocks index block there kind => ?_,
    fun name other event plain plain' calls calls' => ?_, fun name event both => ?_⟩
  · have yields (handler : Handler) : (outcomes blocks)[index]? = some (.handler handler) ↔
        handler? ((blocks.take index).foldl scopeAfter .empty) block = .ok (some handler) := by
      rw [outcomes, getElem?_outcomesFrom, there, Option.map_some, Option.some_inj,
        outcome_eq_handler_iff]
    simp only [yields]
    refine ⟨exists_handler?_iff_usable kind, fun handler compiled => ⟨?_, ?_⟩⟩
    · exact mem_handlers_of_mem_outcomes (List.mem_of_getElem? ((yields handler).mpr compiled))
    · exact callable_of_handler? kind compiled
  · have kept {name : List Char} (plain : '@' ∉ name) : '@' ∉ name.dropWhile (· == '/') :=
      fun among => plain ((List.dropWhile_sublist _).subset among)
    rw [Matcher.accepts_ofCommand] at calls calls'
    exact name_unique (kept plain) (kept plain') calls calls'
  · rw [Matcher.accepts_command, Matcher.accepts_nonCommandText] at both
    exact not_calls_and_plain event both

end BotHost
