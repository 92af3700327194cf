/-
What checking accepts, and which fault it reports.

The checks are written down as a list of rules, in the order in which the sections and, in them, the
fields and the bots are looked at. Checking goes along this list and reports the first rule that is
broken; this is shown check by check, and from it for lists of checks one behind the other. A
configuration that breaks no rule is sound: the rule that an identifier was not used by an earlier bot,
taken for all bots, says that the identifiers are pairwise distinct.
-/

import BotHost.Settings.Validation
import Mathlib.Data.List.Basic

namespace BotHost

namespace Settings

/-- A condition on settings, put as what breaks it, and the fault that is reported then. -/
structure Rule where
  broken : Prop
  fault : SettingsFault

/-! ### The first broken rule -/

/-- The fault belongs to the first rule of the list that is broken. -/
inductive FirstBroken : List Rule → SettingsFault → Prop
  | here {rule : Rule} {rest : List Rule} (broken : rule.broken) :
    FirstBroken (rule :: rest) rule.fault
  | later {rule : Rule} {rest : List Rule} {fault : SettingsFault} (kept : ¬rule.broken)
      (first : FirstBroken rest fault) : FirstBroken (rule :: rest) fault

section FirstBroken

variable {rules more : List Rule} {rule : Rule} {fault : SettingsFault}

/-- If there is a first broken rule, a rule is broken. -/
theorem FirstBroken.exists_broken (first : FirstBroken rules fault) : ∃ rule ∈ rules, rule.broken := by
  induction first with
  | here broken => exact ⟨_, List.mem_cons_self, broken⟩
  | later _ _ inductionHypothesis =>
    obtain ⟨rule, among, broken⟩ := inductionHypothesis
    exact ⟨rule, List.mem_cons_of_mem _ among, broken⟩

/-- There is only one first broken rule, so only one fault. -/
theorem FirstBroken.unique {other : SettingsFault} (first : FirstBroken rules fault)
    (first' : FirstBroken rules other) : other = fault := by
  induction first with
  | here broken =>
    cases first' with
    | here => rfl
    | later kept => exact absurd broken kept
  | later kept _ inductionHypothesis =>
    cases first' with
    | here broken => exact absurd broken kept
    | later _ first' => exact inductionHypothesis first'

/-- What is broken first stays so when more rules come behind. -/
theorem FirstBroken.append (first : FirstBroken rules fault) : FirstBroken (rules ++ more) fault := by
  induction first with
  | here broken => exact .here broken
  | later kept _ inductionHypothesis => exact .later kept inductionHypothesis

/-- Behind rules that are kept, the first broken rule is that of the rest. -/
theorem FirstBroken.behind (kept : ∀ rule ∈ rules, ¬rule.broken) (first : FirstBroken more fault) :
    FirstBroken (rules ++ more) fault := by
  induction rules with
  | nil => exact first
  | cons rule rules inductionHypothesis =>
    obtain ⟨here, others⟩ := List.forall_mem_cons.mp kept
    exact .later here (inductionHypothesis others)

/-- A check of the rules comes to this: nothing is broken, or the first broken rule is reported. -/
def Reports (rules : List Rule) : Except SettingsFault Unit → Prop
  | .ok () => ∀ rule ∈ rules, ¬rule.broken
  | .error fault => FirstBroken rules fault

variable {result next : Except SettingsFault Unit}

/-- A check that reports rules accepts exactly when all are kept. -/
theorem Reports.eq_ok_iff (reports : Reports rules result) :
    result = .ok () ↔ ∀ rule ∈ rules, ¬rule.broken := by
  cases result with
  | ok => exact iff_of_true rfl reports
  | error fault =>
    obtain ⟨rule, among, broken⟩ := FirstBroken.exists_broken reports
    exact iff_of_false nofun fun kept => kept rule among broken

/-- A check that reports rules fails with the fault of the first that is broken. -/
theorem Reports.eq_error_iff (reports : Reports rules result) :
    result = .error fault ↔ FirstBroken rules fault := by
  cases result with
  | ok =>
    refine iff_of_false nofun fun first => ?_
    obtain ⟨rule, among, broken⟩ := first.exists_broken
    exact reports rule among broken
  | error found =>
    constructor
    · rintro ⟨⟩
      exact reports
    · exact fun first => congrArg Except.error (first.unique reports)

theorem reports_nil : Reports [] (.ok ()) := nofun

/-- One check behind another. -/
theorem Reports.andThen (reports : Reports rules result) (reportsNext : Reports more next) :
    Reports (rules ++ more) (result >>= fun _ => next) := by
  cases result with
  | error fault => exact FirstBroken.append reports
  | ok =>
    cases next with
    | error fault => exact FirstBroken.behind reports reportsNext
    | ok => exact List.forall_mem_append.mpr ⟨reports, reportsNext⟩

/-- One rule in front of others. -/
theorem Reports.unless {broken : Prop} [Decidable broken] (same : rule.broken ↔ broken)
    (reports : Reports rules result) :
    Reports (rule :: rules) (if broken then .error rule.fault else result) := by
  split
  · rename_i broken
    exact FirstBroken.here (same.mpr broken)
  · rename_i kept
    cases result with
    | ok => exact List.forall_mem_cons.mpr ⟨kept ∘ same.mp, reports⟩
    | error fault => exact FirstBroken.later (kept ∘ same.mp) reports

end FirstBroken

/-! ### The rules -/

/-- The number is greater than zero. -/
def Rule.positive (field : String) (value : Nat) : Rule :=
  ⟨value = 0, .invalid field "must be greater than 0"⟩

def managerRules (manager : ManagerSettings) : List Rule := [
  .positive "manager.close_timeout_ms" manager.closeTimeout,
  .positive "manager.connect_timeout_ms" manager.connectTimeout,
  .positive "manager.event_buffer" manager.eventBuffer]

def loggingRules (logging : LoggingSettings) : List Rule := [
  ⟨logging.output = .file ∧ logging.filePath = none, .missing "logging.file_path"⟩,
  ⟨∃ filter ∈ logging.filters, ∀ character ∈ filter.1.toList, Text.isBlank character = true,
    .invalid "logging.filters" "filter targets must be module paths"⟩]

/-- The address begins with the name of one of the two protocols. -/
def NamesProtocol (address : String) : Prop :=
  ∃ rest, address = "http://" ++ rest ∨ address = "https://" ++ rest

def telegramRules (telegram : TelegramSettings) : List Rule := [
  ⟨telegram.apiBase = "", .missing "telegram.api_base"⟩,
  ⟨¬NamesProtocol telegram.apiBase,
    .invalid "telegram.api_base" (Text.quoted telegram.apiBase ++ " is not an http(s) URL")⟩,
  .positive "telegram.poll_timeout_secs" telegram.pollTimeout]

/-- The rules for a bot behind others. -/
def botRules (earlier : List Bot) (bot : Bot) : List Rule := [
  ⟨bot.id = "", .missing "bots[].id"⟩,
  ⟨∃ character ∈ bot.id.toList, Text.isBlank character = true,
    .invalid "bots[].id" (Text.quoted bot.id ++ " contains whitespace")⟩,
  ⟨∃ other ∈ earlier, other.id = bot.id, .duplicateBot bot.id⟩,
  ⟨bot.token = "", .missing ("bots." ++ bot.id ++ ".token")⟩]

/-- The rules for bots behind others, one bot after another. -/
def botsRules (earlier : List Bot) : List Bot → List Rule
  | [] => []
  | bot :: rest => botRules earlier bot ++ botsRules (earlier ++ [bot]) rest

/-- The rules in the order in which they are checked. -/
def rules (settings : Settings) : List Rule :=
  managerRules settings.manager ++ (loggingRules settings.logging ++
    (telegramRules settings.telegram ++ botsRules [] settings.bots))

/-! ### Checking goes along the rules -/

theorem reports_checkPositive (field : String) (value : Nat) :
    Reports [.positive field value] (checkPositive field value) := by
  unfold checkPositive Rule.positive
  exact .unless Iff.rfl reports_nil

theorem reports_checkManager (manager : ManagerSettings) :
    Reports (managerRules manager) (checkManager manager) :=
  (reports_checkPositive _ _).andThen
    ((reports_checkPositive _ _).andThen (reports_checkPositive _ _))

theorem reports_checkLogging (logging : LoggingSettings) :
    Reports (loggingRules logging) (checkLogging logging) := by
  unfold checkLogging loggingRules
  refine .unless Iff.rfl (.unless ?_ reports_nil)
  simp only [List.any_eq_true, List.all_eq_true]

/-- An address passes when it names its protocol. -/
theorem isHttpAddress_iff (address : String) : isHttpAddress address = true ↔ NamesProtocol address := by
  have begins (start : String) : start.toList.isPrefixOf address.toList = true ↔
      ∃ rest, address = start ++ rest := by
    rw [List.isPrefixOf_iff_prefix]
    constructor
    · rintro ⟨rest, split⟩
      refine ⟨String.ofList rest, String.toList_inj.mp ?_⟩
      rw [String.toList_append, String.toList_ofList, split]
    · rintro ⟨rest, rfl⟩
      exact ⟨rest.toList, String.toList_append.symm⟩
  rw [isHttpAddress, Bool.or_eq_true, begins, begins, NamesProtocol, or_comm, exists_or]

theorem reports_checkTelegram (telegram : TelegramSettings) :
    Reports (telegramRules telegram) (checkTelegram telegram) := by
  unfold checkTelegram telegramRules
  refine .unless ?_ (.unless ?_ (reports_checkPositive _ _))
  · exact String.isEmpty_iff.symm
  · simp [← isHttpAddress_iff]

/-- Checking a bot reports its rules in order, against the bots before it. -/
theorem reports_checkBot {earlier : List Bot} {ids : List String}
    (same : ∀ id, id ∈ ids ↔ ∃ other ∈ earlier, other.id = id) (bot : Bot) :
    Reports (botRules earlier bot) (checkBot ids bot) := by
  unfold checkBot botRules
  refine .unless ?_ (.unless ?_ (.unless ?_ (.unless ?_ reports_nil)))
  · exact String.isEmpty_iff.symm
  · simp only [List.any_eq_true]
  · simp [same]
  · exact String.isEmpty_iff.symm

/-- By induction over the bots: what has been collected are the identifiers of those before. -/
theorem reports_checkBots {earlier : List Bot} {ids : List String}
    (same : ∀ id, id ∈ ids ↔ ∃ other ∈ earlier, other.id = id) (bots : List Bot) :
    Reports (botsRules earlier bots) (checkBots ids bots) := by
  induction bots generalizing earlier ids with
  | nil => exact reports_nil
  | cons bot rest inductionHypothesis =>
    refine (reports_checkBot same bot).andThen (inductionHypothesis fun id => ?_)
    rw [List.mem_cons, same]
    simp [or_comm, eq_comm]

/-- Validation reports all rules in order. -/
theorem reports_validate (settings : Settings) : Reports settings.rules settings.validate :=
  (reports_checkManager _).andThen ((reports_checkLogging _).andThen
    ((reports_checkTelegram _).andThen (reports_checkBots (by simp) _)))

/-! ### Sound settings -/

/-- What is asked of settings beyond the types of their fields. -/
structure Sound (settings : Settings) : Prop where
  closeTimeout : 0 < settings.manager.closeTimeout
  connectTimeout : 0 < settings.manager.connectTimeout
  eventBuffer : 0 < settings.manager.eventBuffer
  filePath : settings.logging.output = .file → ∃ path, settings.logging.filePath = some path
  filters : ∀ filter ∈ settings.logging.filters,
    ∃ character ∈ filter.1.toList, Text.isBlank character = false
  apiBase : settings.telegram.apiBase ≠ ""
  protocol : NamesProtocol settings.telegram.apiBase
  pollTimeout : 0 < settings.telegram.pollTimeout
  ids : ∀ bot ∈ settings.bots,
    bot.id ≠ "" ∧ ∀ character ∈ bot.id.toList, Text.isBlank character = false
  distinct : (settings.bots.map Bot.id).Nodup
  tokens : ∀ bot ∈ settings.bots, bot.token ≠ ""

theorem managerRules_kept_iff {manager : ManagerSettings} :
    (∀ rule ∈ managerRules manager, ¬rule.broken) ↔
      0 < manager.closeTimeout ∧ 0 < manager.connectTimeout ∧ 0 < manager.eventBuffer := by
  simp [managerRules, Rule.positive, Nat.pos_iff_ne_zero]

theorem loggingRules_kept_iff {logging : LoggingSettings} :
    (∀ rule ∈ loggingRules logging, ¬rule.broken) ↔
      (logging.output = .file → ∃ path, logging.filePath = some path) ∧
        ∀ filter ∈ logging.filters, ∃ character ∈ filter.1.toList,
          Text.isBlank character = false := by
  simp [loggingRules, Option.ne_none_iff_exists']

theorem telegramRules_kept_iff {telegram : TelegramSettings} :
    (∀ rule ∈ telegramRules telegram, ¬rule.broken) ↔
      telegram.apiBase ≠ "" ∧ NamesProtocol telegram.apiBase ∧ 0 < telegram.pollTimeout := by
  simp [telegramRules, Rule.positive, Nat.pos_iff_ne_zero]

theorem botRules_kept_iff {earlier : List Bot} {bot : Bot} :
    (∀ rule ∈ botRules earlier bot, ¬rule.broken) ↔
      (bot.id ≠ "" ∧ ∀ character ∈ bot.id.toList, Text.isBlank character = false) ∧
        (∀ other ∈ earlier, other.id ≠ bot.id) ∧ bot.token ≠ "" := by
  simp [botRules, and_assoc]

/-- The identifiers that a bot may not have are those of all bots before it. -/
theorem botsRules_kept_iff {earlier bots : List Bot} :
    (∀ rule ∈ botsRules earlier bots, ¬rule.broken) ↔
      (∀ bot ∈ bots, bot.id ≠ "" ∧ ∀ character ∈ bot.id.toList, Text.isBlank character = false) ∧
        ((bots.map Bot.id).Nodup ∧ ∀ bot ∈ bots, ∀ other ∈ earlier, other.id ≠ bot.id) ∧
          ∀ bot ∈ bots, bot.token ≠ "" := by
  induction bots generalizing earlier with
  | nil => simp [botsRules]
  | cons bot rest inductionHypothesis =>
    have fresh : (∀ other ∈ rest, ∀ before ∈ earlier ++ [bot], before.id ≠ other.id) ↔
        bot.id ∉ rest.map Bot.id ∧ ∀ other ∈ rest, ∀ before ∈ earlier, before.id ≠ other.id := by
      simp only [List.forall_mem_append, List.forall_mem_singleton, List.mem_map, not_exists, not_and]
      constructor
      · exact fun apart => ⟨fun other among same => (apart other among).2 same.symm,
          fun other among => (apart other among).1⟩
      · rintro ⟨new, apart⟩ other among
        exact ⟨apart other among, fun same => new other among same.symm⟩
    rw [botsRules, List.forall_mem_append, botRules_kept_iff, inductionHypothesis, fresh,
      List.map_cons, List.nodup_cons]
    simp only [List.forall_mem_cons]
    tauto

/-- Settings are sound when they keep all rules. -/
theorem rules_kept_iff {settings : Settings} :
    (∀ rule ∈ settings.rules, ¬rule.broken) ↔ settings.Sound := by
  simp only [rules, List.forall_mem_append, managerRules_kept_iff, loggingRules_kept_iff,
    telegramRules_kept_iff, botsRules_kept_iff]
  constructor
  · rintro ⟨⟨close, connect, buffer⟩, ⟨path, filters⟩, ⟨base, protocol, poll⟩, ids, ⟨distinct, -⟩, tokens⟩
    exact ⟨close, connect, buffer, path, filters, base, protocol, poll, ids, distinct, tokens⟩
  · intro sound
    exact ⟨⟨sound.closeTimeout, sound.connectTimeout, sound.eventBuffer⟩,
      ⟨sound.filePath, sound.filters⟩, ⟨sound.apiBase, sound.protocol, sound.pollTimeout⟩,
      sound.ids, ⟨sound.distinct, nofun⟩, sound.tokens⟩

theorem validate_eq_ok_iff {settings : Settings} : settings.validate = .ok () ↔ settings.Sound :=
  (reports_validate settings).eq_ok_iff.trans rules_kept_iff

/-- Settings are accepted exactly if they are sound, and otherwise the fault is that of the first rule
that is broken, in the order of the sections and of the bots. -/
theorem validate_reports_first (settings : Settings) :
    (settings.validate = .ok () ↔ settings.Sound) ∧
      ∀ fault, settings.validate = .error fault ↔ FirstBroken settings.rules fault :=
  ⟨validate_eq_ok_iff, fun _ => (reports_validate settings).eq_error_iff⟩

end Settings

end BotHost
