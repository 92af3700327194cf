/-
Checks of settings beyond the types of their fields. They run in a fixed order, and the first that
fails is reported.
-/

import BotHost.Settings.Basic
import BotHost.Text.Blank

namespace BotHost

/-- Why settings are not usable, or could not be had. -/
inductive SettingsFault where
  | fileNotFound (path : String)
  | unsupportedFormat (path : String)
  | unreadable
  | missing (field : String)
  | invalid (field reason : String)
  | duplicateBot (id : String)
deriving DecidableEq, Repr

namespace SettingsFault

def message : SettingsFault → String
  | .fileNotFound path => "configuration file " ++ path ++ " does not exist"
  | .unsupportedFormat path =>
    "configuration format of " ++ path ++ " is not supported by this build"
  | .unreadable => "failed to read configuration"
  | .missing field => field ++ " must not be empty"
  | .invalid field reason => "invalid " ++ field ++ ": " ++ reason
  | .duplicateBot id => "bot id " ++ Text.quoted id ++ " is configured more than once"

/-- The field that the fault is about, if it is about one. -/
def field? : SettingsFault → Option String
  | .missing field | .invalid field _ => some field
  | _ => none

end SettingsFault

namespace Settings

def checkPositive (field : String) (value : Nat) : Except SettingsFault Unit :=
  if value = 0 then .error (.invalid field "must be greater than 0") else .ok ()

def checkManager (manager : ManagerSettings) : Except SettingsFault Unit := do
  checkPositive "manager.close_timeout_ms" manager.closeTimeout
  checkPositive "manager.connect_timeout_ms" manager.connectTimeout
  checkPositive "manager.event_buffer" manager.eventBuffer

def checkLogging (logging : LoggingSettings) : Except SettingsFault Unit :=
  if logging.output = .file ∧ logging.filePath = none then
    .error (.missing "logging.file_path")
  else if logging.filters.any fun filter => filter.1.toList.all Text.isBlank then
    .error (.invalid "logging.filters" "filter targets must be module paths")
  else .ok ()

/-- Whether the address names one of the two protocols. -/
def isHttpAddress (address : String) : Bool :=
  "https://".toList.isPrefixOf address.toList || "http://".toList.isPrefixOf address.toList

def checkTelegram (telegram : TelegramSettings) : Except SettingsFault Unit :=
  if telegram.apiBase.isEmpty then .error (.missing "telegram.api_base")
  else if !isHttpAddress telegram.apiBase then
    .error (.invalid "telegram.api_base"
      (Text.quoted telegram.apiBase ++ " is not an http(s) URL"))
  else checkPositive "telegram.poll_timeout_secs" telegram.pollTimeout

/-- Checks one bot, given the identifiers before it. -/
def checkBot (earlier : List String) (bot : Bot) : Except SettingsFault Unit :=
  if bot.id.isEmpty then .error (.missing "bots[].id")
  else if bot.id.toList.any Text.isBlank then
    .error (.invalid "bots[].id" (Text.quoted bot.id ++ " contains whitespace"))
  else if earlier.contains bot.id then .error (.duplicateBot bot.id)
  else if bot.token.isEmpty then .error (.missing ("bots." ++ bot.id ++ ".token"))
  else .ok ()

def checkBots (earlier : List String) : List Bot → Except SettingsFault Unit
  | [] => .ok ()
  | bot :: rest => do
    checkBot earlier bot
    checkBots (bot.id :: earlier) rest

/-- Checks all sections. -/
def validate (settings : Settings) : Except SettingsFault Unit := do
  checkManager settings.manager
  checkLogging settings.logging
  checkTelegram settings.telegram
  checkBots [] settings.bots

end Settings

end BotHost
