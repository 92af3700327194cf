/-
Requests to the Telegram Bot API. A request is posted to an address that holds the token and the name
of its method, and its body is an object.
-/

import BotHost.Outbound

namespace BotHost.Telegram

/-- The methods that a bot calls. -/
inductive ApiMethod where
  | getMe
  | getUpdates
  | sendMessage
  | sendPhoto
  | answerCallbackQuery
deriving DecidableEq, Repr

def ApiMethod.name : ApiMethod → String
  | .getMe => "getMe"
  | .getUpdates => "getUpdates"
  | .sendMessage => "sendMessage"
  | .sendPhoto => "sendPhoto"
  | .answerCallbackQuery => "answerCallbackQuery"

structure Request where
  method : ApiMethod
  body : Json
deriving DecidableEq, Repr

/-- The address of a bot's methods: slashes at the end of the service's own address do not count. -/
def methodBase (apiBase token : String) : String :=
  String.ofList (apiBase.toList.reverse.dropWhile (· == '/')).reverse ++ "/bot" ++ token

namespace Request

/-- The address that a request is posted to. -/
def address (request : Request) (base : String) : String :=
  base ++ "/" ++ request.method.name

/-- Asks who the bot is. -/
def getMe : Request := ⟨.getMe, .object []⟩

/-- Asks for updates from `offset` on. The service may hold the request for so many seconds. -/
def getUpdates (offset : Int) (seconds : Nat) : Request :=
  ⟨.getUpdates, .object [
    ("allowed_updates", .list [.text "message", .text "callback_query"]),
    ("offset", .ofInt offset),
    ("timeout", .ofNat seconds)]⟩

/-- A keyboard that stays in the place of the ordinary one. -/
def replyKeyboard (rows : ButtonRows) : Json :=
  .object [
    ("is_persistent", .boolean true),
    ("keyboard", .list (rows.map fun row =>
      .list (row.map fun label => .object [("text", .text label)]))),
    ("resize_keyboard", .boolean true)]

/-- The request for a call through a session. A photo without a caption is sent without that field. -/
def ofCall : Call → Request
  | .message chat text => ⟨.sendMessage, .object [("chat_id", .ofInt chat), ("text", .text text)]⟩
  | .photo chat url caption =>
    let fields := [("chat_id", Json.ofInt chat), ("photo", Json.text url)]
    ⟨.sendPhoto,
      .object (if caption.isEmpty then fields else ("caption", .text caption) :: fields)⟩
  | .keyboard chat text rows =>
    ⟨.sendMessage, .object [
      ("chat_id", .ofInt chat),
      ("reply_markup", replyKeyboard rows),
      ("text", .text text)]⟩
  | .callbackAnswer id => ⟨.answerCallbackQuery, .object [("callback_query_id", .text id)]⟩

end Request

end BotHost.Telegram
