/-
Compiling blocks and dispatching an event is interpreting the blocks.

The interpretation goes over the blocks once, with the variables bound so far, and says for each block
what it makes of the event; it knows neither handlers nor matchers nor actions.
-/

import BotHost.Handler.Compilation
import BotHost.Proofs.Handler.Reaction
import BotHost.Proofs.Handler.Recording

namespace BotHost

namespace Interpretation

/-! ### One block -/

/-- What is entered in a field: a text that is not empty, or a number or a truth value as it is
written. -/
def entered? (block : Block) (key : String) : Option String :=
  match block.field? key with
  | some (.text text) => if text = "" then none else some text
  | some (.number number) => some number.write
  | some (.boolean true) => some "true"
  | some (.boolean false) => some "false"
  | _ => none

/-- What is entered in a field, or what stands for it where nothing is. -/
def entered (block : Block) (key default : String) : String := (entered? block key).getD default

/-- The command of the block without the slashes in front. -/
def commandName (block : Block) : List Char :=
  (entered block "command" "help").toList.dropWhile (· == '/')

/-- There is a name, and no blank in it. -/
def UsableCommand (name : List Char) : Prop :=
  name ≠ [] ∧ ∀ character ∈ name, Text.isBlank character = false

instance : DecidablePred UsableCommand :=
  fun name => inferInstanceAs (Decidable (name ≠ [] ∧ ∀ character ∈ name, _))

/-- What an event is answered with. -/
def answer (reacts : Prop) [Decidable reacts] (calls : List Call) : List Call :=
  if reacts then calls else []

/-- Makes the calls if the text of the event is as the block wants it; nothing if the block is invalid
because no pattern can be made of its trigger. -/
def onText [PatternEngine] (event : Event) (block : Block) (calls : List Call) : Option (List Call) :=
  if TriggerFits (entered? block "trigger") then
    some (answer (Hears (TextRule (entered? block "trigger")) event) calls)
  else none

/-- The calls that a block makes in reply to an event; nothing if the block is invalid. -/
def reply? [PatternEngine] (event : Event) (scope : Condition.Scope) (block : Block) :
    Option (List Call) :=
  match block.kind with
  | .start =>
    some (answer (Hears (CallsCommand "start".toList) event)
      [.message event.chat
        (entered block "message" "Hello! I am a bot built with the visual constructor.")])
  | .command =>
    if UsableCommand (commandName block) then
      some (answer (Hears (CallsCommand (commandName block)) event)
        [.message event.chat (entered block "response" "Help")])
    else none
  | .message =>
    onText event block
      [.message event.chat (entered block "response" "Response is not configured")]
  | .keyboard =>
    match Buttons.rows (block.field? "buttons") with
    | .ok rows =>
      onText event block [.keyboard event.chat (entered block "text" "Choose an option:") rows]
    | .error _ => none
  | .button =>
    some (match event with
      | .callback callback =>
        answer (callback.data = some (entered block "callbackData" "button_click"))
          [.callbackAnswer callback.id,
            .message callback.chat (entered block "response" "Button pressed")]
      | .message _ => [])
  | .photo =>
    match entered? block "photoUrl" with
    | some url => onText event block [.photo event.chat url (entered block "caption" "")]
    | none => some []
  | .condition =>
    match Condition.parse (entered block "condition" "msg.text.length > 10") scope with
    | .ok condition =>
      some (match event with
        | .message message =>
          [.message message.chat
            (if condition.holds (message.text.getD "") then
              entered block "trueResponse" "Condition met"
            else entered block "falseResponse" "Condition not met")]
        | .callback _ => [])
    | .error _ => none
  | .variable =>
    if Condition.isVariableName (entered block "name" "myVar") then some [] else none
  | .unknown _ => none

/-- The variables behind a valid block. -/
def bound (scope : Condition.Scope) (block : Block) : Condition.Scope :=
  match block.kind with
  | .variable =>
    scope.bind (entered block "name" "myVar")
      (match block.field? "value" with
        | some field => .ofJson field
        | none => .string "")
  | _ => scope

/-! ### The handler of a block makes the same calls -/

theorem entered?_eq_text? (block : Block) (key : String) : entered? block key = block.text? key := by
  unfold entered? Block.text?
  split
  next text there => simp only [there, String.isEmpty_iff]
  next number there => simp only [there]
  next there => simp only [there, if_true]
  next there => simp only [there, Bool.false_eq_true, if_false]
  next noText noNumber noTrue noFalse =>
    split
    next text there => exact absurd there (noText text)
    next number there => exact absurd there (noNumber number)
    next flag there =>
      cases flag with
      | true => exact absurd there noTrue
      | false => exact absurd there noFalse
    next => rfl

theorem entered_eq_textOr (block : Block) (key default : String) :
    entered block key default = block.textOr key default := by
  rw [entered, entered?_eq_text?, Block.textOr]

section Block

variable {event : Event} {scope : Condition.Scope} {block : Block}

/-- A handler that reacts as it should makes the calls that it should. -/
theorem answer_eq_calls {handler : Handler} {reacts : Prop} [Decidable reacts] {made : List Call}
    (accepts : handler.matcher.accepts event = true ↔ reacts)
    (makes : handler.action.calls event = made) :
    answer reacts made = Dispatch.calls [handler] event := by
  rw [Dispatch.calls_cons, Dispatch.calls_nil, List.append_nil, answer, makes]
  by_cases holds : reacts
  · rw [if_pos (accepts.mpr holds), if_pos holds]
  · rw [if_neg (holds ∘ accepts.mp), if_neg holds]

/-- What is left of a compiled block for one event: the calls of its handler, if it has one, and whether
it was refused. -/
def repliesWith (event : Event) : Except Refusal (Option Handler) → Option (List Call)
  | .ok (some handler) => some (Dispatch.calls [handler] event)
  | .ok none => some []
  | .error _ => none

theorem commandRule_eq : Compilation.commandRule block =
    if (commandName block).isEmpty then .error .commandEmpty
    else if (commandName block).any Text.isBlank then
      .error (.commandBlank (block.textOr "command" "help"))
    else .ok (.ofCommand (String.ofList (commandName block))) := by
  rw [commandName, entered_eq_textOr]
  rfl

/-- A usable command hears the texts that call it. -/
theorem commandRule_of_usable (usable : UsableCommand (commandName block)) :
    ∃ matcher, Compilation.commandRule block = .ok matcher ∧
      ∀ event, matcher.accepts event = true ↔ Hears (CallsCommand (commandName block)) event := by
  obtain ⟨named, visible⟩ := usable
  have filled : ¬(commandName block).isEmpty = true := mt List.isEmpty_iff.mp named
  have joined : ¬(commandName block).any Text.isBlank = true := by
    simpa using visible
  refine ⟨.ofCommand (String.ofList (commandName block)),
    commandRule_eq.trans ((if_neg filled).trans (if_neg joined)), fun event => ?_⟩
  rw [Matcher.accepts_ofCommand, String.toList_ofList, commandName, Text.dropWhile_dropWhile]

/-- A command that cannot be used is refused. -/
theorem commandRule_of_not_usable (unusable : ¬UsableCommand (commandName block)) :
    ∃ refusal, Compilation.commandRule block = .error refusal := by
  by_cases empty : (commandName block).isEmpty = true
  · exact ⟨_, commandRule_eq.trans (if_pos empty)⟩
  by_cases blank : (commandName block).any Text.isBlank = true
  · exact ⟨_, commandRule_eq.trans ((if_neg empty).trans (if_pos blank))⟩
  · have visible : ∀ character ∈ commandName block, Text.isBlank character = false := by
      simpa using blank
    exact absurd ⟨mt List.isEmpty_iff.mpr empty, visible⟩ unusable

variable [PatternEngine]

/-- The blocks that react to text differ in their actions only. -/
theorem onText_eq {action : Action} {made : List Call} (makes : action.calls event = made) :
    onText event block made =
      repliesWith event (Compilation.textRule block >>= fun matcher =>
        .ok (some ⟨.trigger, some block.id, matcher, action⟩)) := by
  unfold onText
  rw [entered?_eq_text?]
  by_cases fits : TriggerFits (block.text? "trigger")
  · obtain ⟨matcher, built, accepts⟩ := Matcher.ofTextRule_of_fits fits
    simp only [Compilation.textRule, built, if_pos fits]
    exact congrArg some (answer_eq_calls (accepts event) makes)
  · obtain ⟨fault, refused⟩ := Matcher.ofTextRule_of_not_fits fits
    simp only [Compilation.textRule, refused, if_neg fits]
    rfl

/-- A block replies as the handler that it is compiled to, if it is compiled to one. -/
theorem reply?_eq (event : Event) (scope : Condition.Scope) (block : Block) :
    reply? event scope block = repliesWith event (Compilation.handler? scope block) := by
  unfold reply? Compilation.handler?
  simp only [entered?_eq_text?, entered_eq_textOr]
  cases block.kind with
  | start =>
    exact congrArg some (answer_eq_calls (Matcher.accepts_ofCommand "start" event) rfl)
  | command =>
    by_cases usable : UsableCommand (commandName block)
    · obtain ⟨matcher, built, accepts⟩ := commandRule_of_usable usable
      simp only [built, if_pos usable]
      exact congrArg some (answer_eq_calls (accepts event) rfl)
    · obtain ⟨refusal, refused⟩ := commandRule_of_not_usable usable
      simp only [refused, if_neg usable]
      rfl
  | message => exact onText_eq rfl
  | keyboard =>
    cases Buttons.rows (block.field? "buttons") with
    | ok rows => exact onText_eq rfl
    | error fault => rfl
  | button =>
    cases event with
    | callback callback =>
      exact congrArg some (answer_eq_calls (Matcher.accepts_callbackData _ (.callback callback)) rfl)
    | message message =>
      obtain ⟨_, _, _ | text⟩ := message
      · rfl
      · rfl
  | photo =>
    cases block.text? "photoUrl" with
    | none => rfl
    | some url => exact onText_eq rfl
  | condition =>
    simp only [Compilation.defaultCondition]
    cases Condition.parse (block.textOr "condition" "msg.text.length > 10") scope with
    | ok condition => cases event <;> rfl
    | error fault => rfl
  | «variable» =>
    show _ = repliesWith event
      (if Condition.isVariableName (block.textOr "name" "myVar") then .ok none else .error _)
    by_cases usable : Condition.isVariableName (block.textOr "name" "myVar") = true
    · rw [if_pos usable, if_pos usable]
      rfl
    · rw [if_neg usable, if_neg usable]
      rfl
  | unknown name => rfl

end Block

/-! ### All blocks -/

/-- How far the interpretation has come: the variables bound, the calls made, and whether there has been
a valid block. -/
structure Progress where
  scope : Condition.Scope
  calls : List Call
  configured : Bool

def step [PatternEngine] (event : Event) (progress : Progress) (block : Block) : Progress :=
  match reply? event progress.scope block with
  | some calls => ⟨bound progress.scope block, progress.calls ++ calls, true⟩
  | none => progress

/-- What is said of a bot that has no valid block. -/
def notConfigured : Event → List Call
  | .message message =>
    [.message message.chat "The bot is not configured yet. Add blocks in the builder."]
  | .callback _ => []

end Interpretation

/-- The calls that a list of blocks makes in reply to an event. -/
def interpret [PatternEngine] (blocks : List Block) (event : Event) : List Call :=
  let progress := blocks.foldl (Interpretation.step event) ⟨.empty, [], false⟩
  if progress.configured then progress.calls else Interpretation.notConfigured event

namespace Interpretation

/-! ### The compilation of all blocks makes the same calls -/

open Compilation (outcome outcomesFrom scopeAfter)

variable [PatternEngine] (event : Event)

theorem scopeAfter_eq (scope : Condition.Scope) (block : Block) :
    scopeAfter scope block =
      match reply? event scope block with
      | some _ => bound scope block
      | none => scope := by
  unfold scopeAfter bound
  simp only [entered_eq_textOr]
  cases kind : block.kind with
  | «variable» =>
    simp only [reply?, kind, entered_eq_textOr]
    show (if Condition.isVariableName (block.textOr "name" "myVar") then _ else scope) = _
    by_cases usable : Condition.isVariableName (block.textOr "name" "myVar") = true
    · rw [if_pos usable]
      simp only [if_pos usable]
      cases block.field? "value" <;> rfl
    · rw [if_neg usable]
      simp only [if_neg usable]
  | _ => cases reply? event scope block <;> rfl

/-- What a block yields, and the variables behind it, decide how the interpretation goes on. -/
theorem step_eq (progress : Progress) (block : Block) :
    step event progress block =
      ⟨scopeAfter progress.scope block,
        progress.calls ++ Dispatch.calls (outcome progress.scope block).handler?.toList event,
        progress.configured || (outcome progress.scope block).warning?.isNone⟩ := by
  rw [step, scopeAfter_eq event, reply?_eq, outcome]
  match Compilation.handler? progress.scope block with
  | .error refusal =>
    simp [repliesWith, Outcome.handler?, Outcome.warning?, Dispatch.calls_nil]
  | .ok none => simp [repliesWith, Outcome.handler?, Outcome.warning?, Dispatch.calls_nil]
  | .ok (some handler) => simp [repliesWith, Outcome.handler?, Outcome.warning?]

/-- By induction over the blocks, whatever has been interpreted before them. -/
theorem foldl_step (blocks : List Block) (progress : Progress) :
    (blocks.foldl (step event) progress).calls =
        progress.calls ++
          Dispatch.calls ((outcomesFrom progress.scope blocks).filterMap Outcome.handler?) event ∧
      ((blocks.foldl (step event) progress).configured = true ↔
        progress.configured = true ∨
          ∃ outcome ∈ outcomesFrom progress.scope blocks, outcome.warning? = none) := by
  induction blocks generalizing progress with
  | nil => simp [outcomesFrom, Dispatch.calls_nil]
  | cons block rest inductionHypothesis =>
    obtain ⟨calls, configured⟩ := inductionHypothesis (step event progress block)
    rw [List.foldl_cons, calls, configured, step_eq]
    constructor
    · rw [List.append_assoc, ← Dispatch.calls_append, outcomesFrom, List.filterMap_cons]
      cases (outcome progress.scope block).handler? <;> rfl
    · simp [outcomesFrom, or_assoc]

theorem length_outcomesFrom (scope : Condition.Scope) (blocks : List Block) :
    (outcomesFrom scope blocks).length = blocks.length := by
  induction blocks generalizing scope with
  | nil => rfl
  | cons block rest inductionHypothesis => exact congrArg (· + 1) (inductionHypothesis _)

/-- The fallback stands for the blocks exactly if none of them is valid. -/
theorem handlers_compile (blocks : List Block) :
    (compile blocks).handlers =
      if ∃ outcome ∈ outcomesFrom .empty blocks, outcome.warning? = none then
        (outcomesFrom .empty blocks).filterMap Outcome.handler?
      else [.fallback] := by
  have allRefused :
      ((outcomesFrom .empty blocks).filterMap Outcome.warning?).length = blocks.length ↔
        ¬∃ outcome ∈ outcomesFrom .empty blocks, outcome.warning? = none := by
    rw [← length_outcomesFrom .empty blocks, List.filterMap_length_eq_length]
    simp [Option.isSome_iff_ne_none]
  simp only [compile, Compilation.outcomes, allRefused, ite_not]

/-- Compiled handlers make the calls that the blocks stand for. -/
theorem calls_compile (blocks : List Block) :
    Dispatch.calls (compile blocks).handlers event = interpret blocks event := by
  obtain ⟨calls, configured⟩ := foldl_step event blocks ⟨.empty, [], false⟩
  rw [handlers_compile, interpret]
  simp only [configured, calls, Bool.false_eq_true, false_or, List.nil_append]
  split
  · rfl
  · cases event <;> rfl

end Interpretation

/-- Dispatching an event to a compiled list of blocks makes the calls of the interpretation, whatever
the session answers; everything else about the dispatch is as it is without writing the calls down. -/
theorem run_compile [PatternEngine] {State : Type} (send : Send State) (blocks : List Block) (event : Event)
    (state : State) (made : List Call) :
    Dispatch.run (Dispatch.recorded send) (compile blocks).handlers event (state, made) =
      ((Dispatch.run send (compile blocks).handlers event state).1,
        (Dispatch.run send (compile blocks).handlers event state).2,
        made ++ interpret blocks event) := by
  rw [Dispatch.run_recorded, Interpretation.calls_compile]

/-- A photo without an address is skipped but valid: the bot is configured, and silent. -/
example [PatternEngine] :
    interpret [⟨"first", .unknown "poll", []⟩] (.ofText 7 "hi") =
        [.message 7 "The bot is not configured yet. Add blocks in the builder."] ∧
      interpret [⟨"first", .unknown "poll", []⟩, ⟨"second", .photo, []⟩] (.ofText 7 "hi") = [] :=
  ⟨rfl, rfl⟩

end BotHost
