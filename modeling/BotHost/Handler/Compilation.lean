/-
From blocks to handlers.

Every block yields a handler, a warning, or nothing, and none of them stops the blocks behind it.
Variable blocks yield nothing and bind a name that the conditions behind them may use. A bot of which
every block was refused, or that has none, gets the fallback handler.
-/

import BotHost.Block
import BotHost.Condition.Parser
import BotHost.Handler.Basic
import BotHost.Handler.Buttons

namespace BotHost

/-- Why a block was skipped. -/
inductive Refusal where
  | commandEmpty
  | commandBlank (command : String)
  | badCondition (fault : Condition.Fault)
  | badTrigger (fault : Matcher.TriggerTooLarge)
  | badButtons (fault : Buttons.Fault)
  | badVariableName (name : String)
  | unknownKind (name : String)
deriving DecidableEq, Repr

def Refusal.message : Refusal → String
  | .commandEmpty => "command name is empty"
  | .commandBlank command => "command name " ++ Text.quoted command ++ " contains whitespace"
  | .badCondition fault => "invalid condition: " ++ fault.message
  | .badTrigger fault => "invalid trigger: " ++ fault.message
  | .badButtons fault => fault.message
  | .badVariableName name => Text.quoted name ++ " is not a usable variable name"
  | .unknownKind name => "unknown block type " ++ Text.quoted name

/-- A skipped block and the reason. -/
structure Warning where
  block : String
  refusal : Refusal
deriving DecidableEq, Repr

def Warning.reason (warning : Warning) : String := warning.refusal.message

def Warning.toJson (warning : Warning) : Json :=
  .object [("block_id", .text warning.block), ("reason", .text warning.reason)]

def Warning.display (warning : Warning) : String :=
  "block '" ++ warning.block ++ "': " ++ warning.reason

/-- What one block yields. -/
inductive Outcome where
  | protected handler (handler : Handler)
  | protected warning (warning : Warning)
  | silent
deriving DecidableEq, Repr

def Outcome.handler? : Outcome → Option Handler
  | .handler handler => some handler
  | _ => none

def Outcome.warning? : Outcome → Option Warning
  | .warning warning => some warning
  | _ => none

namespace Compilation

/-! ### Texts of fields that are not filled in -/

def defaultGreeting : String := "Hello! I am a bot built with the visual constructor."
def defaultCommand : String := "help"
def defaultCommandResponse : String := "Help"
def defaultMessageResponse : String := "Response is not configured"
def defaultKeyboardText : String := "Choose an option:"
def defaultCallbackData : String := "button_click"
def defaultButtonResponse : String := "Button pressed"
def defaultCondition : String := "msg.text.length > 10"
def defaultTrueResponse : String := "Condition met"
def defaultFalseResponse : String := "Condition not met"
def defaultVariableName : String := "myVar"

/-! ### One block -/

/-- The rule of a block that reacts to text. -/
def textRule [PatternEngine] (block : Block) : Except Refusal Matcher :=
  (Matcher.ofTextRule (block.text? "trigger")).mapError .badTrigger

/-- The command that a command block answers. -/
def commandRule (block : Block) : Except Refusal Matcher :=
  let command := block.textOr "command" defaultCommand
  let name := command.toList.dropWhile (· == '/')
  if name.isEmpty then .error .commandEmpty
  else if name.any Text.isBlank then .error (.commandBlank command)
  else .ok (.ofCommand (String.ofList name))

/-- The handler of a block, if it is to have one. -/
def handler? [PatternEngine] (scope : Condition.Scope) (block : Block) : Except Refusal (Option Handler) :=
  let handler (kind : HandlerKind) (matcher : Matcher) (action : Action) : Option Handler :=
    some ⟨kind, some block.id, matcher, action⟩
  match block.kind with
  | .start =>
    .ok (handler .command (.ofCommand "start") (.sendText (block.textOr "message" defaultGreeting)))
  | .command => do
    let matcher ← commandRule block
    .ok (handler .command matcher (.sendText (block.textOr "response" defaultCommandResponse)))
  | .message => do
    let matcher ← textRule block
    .ok (handler .trigger matcher (.sendText (block.textOr "response" defaultMessageResponse)))
  | .keyboard => do
    let rows ← (Buttons.rows (block.field? "buttons")).mapError .badButtons
    let matcher ← textRule block
    .ok (handler .trigger matcher (.sendKeyboard (block.textOr "text" defaultKeyboardText) rows))
  | .button =>
    .ok (handler .callbackData (.callbackData (block.textOr "callbackData" defaultCallbackData))
      (.answerCallback (block.textOr "response" defaultButtonResponse)))
  | .photo =>
    match block.text? "photoUrl" with
    | none => .ok none
    | some url => do
      let matcher ← textRule block
      .ok (handler .trigger matcher (.sendPhoto url (block.textOr "caption" "")))
  | .condition => do
    let condition ←
      (Condition.parse (block.textOr "condition" defaultCondition) scope).mapError .badCondition
    .ok (handler .trigger .anyMessage (.branch condition
      (block.textOr "trueResponse" defaultTrueResponse)
      (block.textOr "falseResponse" defaultFalseResponse)))
  | .variable =>
    let name := block.textOr "name" defaultVariableName
    if Condition.isVariableName name then .ok none else .error (.badVariableName name)
  | .unknown name => .error (.unknownKind name)

/-- The scope behind a block: a variable block with a usable name binds it. -/
def scopeAfter (scope : Condition.Scope) (block : Block) : Condition.Scope :=
  match block.kind with
  | .variable =>
    let name := block.textOr "name" defaultVariableName
    if Condition.isVariableName name then
      scope.bind name (((block.field? "value").map .ofJson).getD (.string ""))
    else scope
  | _ => scope

def outcome [PatternEngine] (scope : Condition.Scope) (block : Block) : Outcome :=
  match handler? scope block with
  | .ok (some handler) => .handler handler
  | .ok none => .silent
  | .error refusal => .warning ⟨block.id, refusal⟩

/-! ### A list of blocks -/

/-- What each block yields, with the variables that the blocks before it bind. -/
def outcomesFrom [PatternEngine] (scope : Condition.Scope) : List Block → List Outcome
  | [] => []
  | block :: rest => outcome scope block :: outcomesFrom (scopeAfter scope block) rest

def outcomes [PatternEngine] (blocks : List Block) : List Outcome :=
  outcomesFrom .empty blocks

end Compilation

/-- The handlers of a list of blocks, and a warning for each block that was skipped, both in block
order. -/
structure Compilation where
  handlers : List Handler
  warnings : List Warning
deriving DecidableEq, Repr

/-- Whether no block was skipped. -/
def Compilation.isClean (compilation : Compilation) : Bool := compilation.warnings.isEmpty

/-- Compiles the blocks of a bot. -/
def compile [PatternEngine] (blocks : List Block) : Compilation :=
  let outcomes := Compilation.outcomes blocks
  let warnings := outcomes.filterMap Outcome.warning?
  let handlers := outcomes.filterMap Outcome.handler?
  ⟨if warnings.length = blocks.length then [.fallback] else handlers, warnings⟩

end BotHost
