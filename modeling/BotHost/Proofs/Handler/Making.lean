/-
What a block is made into.

Each kind of block has one form of handler, with texts taken from the fields of the block. The kinds
that react to text share the rule of their matcher. A bot's handlers are those of its blocks, or the
fallback alone.
-/

import BotHost.Proofs.Condition.Reading
import BotHost.Proofs.Handler.Interpretation

namespace BotHost

namespace Compilation

open Condition (Scope bind_eq_ok)

/-- The block is of a kind that reacts to text. -/
def ReactsToText (block : Block) : Prop :=
  block.kind = .message ∨ block.kind = .keyboard ∨ block.kind = .photo

/-- The handlers that a block may be made into, kind by kind. -/
inductive Makes [PatternEngine] (scope : Scope) (block : Block) : Handler → Prop
  | start (kind : block.kind = .start) :
      Makes scope block ⟨.command, some block.id, .ofCommand "start",
        .sendText (block.textOr "message" defaultGreeting)⟩
  | command {matcher : Matcher} (kind : block.kind = .command)
      (ruled : commandRule block = .ok matcher) :
      Makes scope block ⟨.command, some block.id, matcher,
        .sendText (block.textOr "response" defaultCommandResponse)⟩
  | message {matcher : Matcher} (kind : block.kind = .message) (ruled : textRule block = .ok matcher) :
      Makes scope block ⟨.trigger, some block.id, matcher,
        .sendText (block.textOr "response" defaultMessageResponse)⟩
  | keyboard {matcher : Matcher} {grid : ButtonRows} (kind : block.kind = .keyboard)
      (read : Buttons.rows (block.field? "buttons") = .ok grid)
      (ruled : textRule block = .ok matcher) :
      Makes scope block ⟨.trigger, some block.id, matcher,
        .sendKeyboard (block.textOr "text" defaultKeyboardText) grid⟩
  | button (kind : block.kind = .button) :
      Makes scope block ⟨.callbackData, some block.id,
        .callbackData (block.textOr "callbackData" defaultCallbackData),
        .answerCallback (block.textOr "response" defaultButtonResponse)⟩
  | photo {matcher : Matcher} {url : String} (kind : block.kind = .photo)
      (addressed : block.text? "photoUrl" = some url) (ruled : textRule block = .ok matcher) :
      Makes scope block ⟨.trigger, some block.id, matcher,
        .sendPhoto url (block.textOr "caption" "")⟩
  | condition {condition : Condition.Expression} (kind : block.kind = .condition)
      (read : Condition.parse (block.textOr "condition" defaultCondition) scope = .ok condition) :
      Makes scope block ⟨.trigger, some block.id, .anyMessage,
        .branch condition (block.textOr "trueResponse" defaultTrueResponse)
          (block.textOr "falseResponse" defaultFalseResponse)⟩

theorem mapError_eq_ok {Cause Other Value : Type} {change : Cause → Other}
    {result : Except Cause Value} {value : Value} :
    result.mapError change = .ok value ↔ result = .ok value := by
  cases result with
  | ok found =>
    show Except.ok found = Except.ok value ↔ Except.ok found = Except.ok value
    rw [Except.ok.injEq, Except.ok.injEq]
  | error cause => exact ⟨nofun, nofun⟩

variable [PatternEngine] {scope : Scope} {block : Block} {handler : Handler}

theorem makes_of_handler? (compiled : handler? scope block = .ok (some handler)) :
    Makes scope block handler := by
  unfold handler? at compiled
  cases kind : block.kind with simp only [kind] at compiled
  | start =>
    cases compiled
    exact .start kind
  | button =>
    cases compiled
    exact .button kind
  | command =>
    obtain ⟨matcher, ruled, made⟩ := bind_eq_ok.mp compiled
    cases made
    exact .command kind ruled
  | message =>
    obtain ⟨matcher, ruled, made⟩ := bind_eq_ok.mp compiled
    cases made
    exact .message kind ruled
  | keyboard =>
    obtain ⟨grid, read, rest⟩ := bind_eq_ok.mp compiled
    obtain ⟨matcher, ruled, made⟩ := bind_eq_ok.mp rest
    cases made
    exact .keyboard kind (mapError_eq_ok.mp read) ruled
  | photo =>
    split at compiled
    · cases compiled
    next url addressed =>
      obtain ⟨matcher, ruled, made⟩ := bind_eq_ok.mp compiled
      cases made
      exact .photo kind addressed ruled
  | condition =>
    obtain ⟨condition, read, made⟩ := bind_eq_ok.mp compiled
    cases made
    exact .condition kind (mapError_eq_ok.mp read)
  | «variable» => split at compiled <;> cases compiled
  | unknown name => cases compiled

/-! ### Blocks that react to text -/

theorem Makes.ruled_of_reactsToText (made : Makes scope block handler) (reacts : ReactsToText block) :
    textRule block = .ok handler.matcher := by
  cases made with
  | message kind ruled | keyboard kind read ruled | photo kind addressed ruled => exact ruled
  | start kind | command kind | button kind | condition kind => simp [ReactsToText, kind] at reacts

/-! ### Command blocks -/

theorem Makes.ruled_of_command (made : Makes scope block handler) (kind : block.kind = .command) :
    commandRule block = .ok handler.matcher := by
  cases made with
  | command other ruled => exact ruled
  | start other | message other | keyboard other | button other | photo other | condition other =>
    cases other.symm.trans kind

/-! ### All blocks -/

theorem outcome_eq_handler_iff :
    outcome scope block = .handler handler ↔ handler? scope block = .ok (some handler) := by
  unfold outcome
  split <;> simp_all

theorem exists_handler?_of_mem_outcomesFrom {blocks : List Block}
    (yielded : .handler handler ∈ outcomesFrom scope blocks) :
    ∃ block ∈ blocks, ∃ scope, handler? scope block = .ok (some handler) := by
  induction blocks generalizing scope with
  | nil => cases yielded
  | cons block rest inductionHypothesis =>
    obtain first | later := List.mem_cons.mp yielded
    · exact ⟨block, List.mem_cons_self, scope, outcome_eq_handler_iff.mp first.symm⟩
    · obtain ⟨other, among, scope, compiled⟩ := inductionHypothesis later
      exact ⟨other, List.mem_cons_of_mem block among, scope, compiled⟩

end Compilation

open Compilation

variable [PatternEngine] {blocks : List Block} {handler : Handler}

/-- Whatever a block yields is among the handlers of the bot. -/
theorem mem_handlers_of_mem_outcomes (yielded : .handler handler ∈ outcomes blocks) :
    handler ∈ (compile blocks).handlers := by
  have valid : ∃ outcome ∈ outcomesFrom .empty blocks, outcome.warning? = none :=
    ⟨_, yielded, rfl⟩
  rw [Interpretation.handlers_compile, if_pos valid]
  exact List.mem_filterMap.mpr ⟨_, yielded, rfl⟩

theorem mem_warnings_of_mem_outcomes {warning : Warning}
    (yielded : .warning warning ∈ outcomes blocks) : warning ∈ (compile blocks).warnings :=
  List.mem_filterMap.mpr ⟨_, yielded, rfl⟩

/-- A handler of a bot is the fallback or made of one of the blocks. -/
theorem makes_of_mem_handlers (among : handler ∈ (compile blocks).handlers) :
    handler = .fallback ∨ ∃ block ∈ blocks, ∃ scope, Makes scope block handler := by
  rw [Interpretation.handlers_compile] at among
  split at among
  · obtain ⟨outcome, yielded, same⟩ := List.mem_filterMap.mp among
    cases outcome <;> cases same
    obtain ⟨block, member, scope, compiled⟩ := exists_handler?_of_mem_outcomesFrom yielded
    exact .inr ⟨block, member, scope, makes_of_handler? compiled⟩
  · exact .inl (List.mem_singleton.mp among)

end BotHost
