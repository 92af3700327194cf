/-
Settings are kept, and with them everything that the host writes down.

The sections of the settings are kept like bots are: all fields are written, so no default comes into
it. The levels of the log targets are the one table among them; its targets stand in ascending order.

The last theorem is about all kinds of records at once. Their values come back without exception. Of
their texts, those do not come back that the reader was not made for: it reads at most 127 levels, and
it reads a floating-point number by one multiplication or division, which misses some numbers by the
last bit.
-/

import BotHost.Proofs.Bot.Keeping
import BotHost.Settings.Basic

namespace BotHost

/-! ### The manager and the transport -/

namespace ManagerSettings

/-- The numbers are of 64 bits. -/
structure Proper (settings : ManagerSettings) : Prop where
  closeTimeout : settings.closeTimeout < 2 ^ 64
  connectTimeout : settings.connectTimeout < 2 ^ 64
  eventBuffer : settings.eventBuffer < 2 ^ 64

def codec : Codec ManagerSettings := ⟨toJson, ofJson?⟩

variable {settings : ManagerSettings}

theorem Proper.ofJson?_toJson (proper : settings.Proper) :
    ofJson? settings.toJson = some settings := by
  have closeTimeout := Json.asUnsigned?_ofNat proper.closeTimeout
  have connectTimeout := Json.asUnsigned?_ofNat proper.connectTimeout
  have eventBuffer := Json.asUnsigned?_ofNat proper.eventBuffer
  simp [ofJson?, ManagerSettings.toJson, Json.asRecord?, Json.lookup, Json.orDefault?, closeTimeout,
    connectTimeout, eventBuffer]

theorem Proper.toJson (proper : settings.Proper) : settings.toJson.Proper := by
  refine Json.proper_record ["close_timeout_ms", "connect_timeout_ms", "event_buffer"] (by decide)
    rfl ?_
  simp only [List.forall_mem_cons]
  exact ⟨Json.proper_ofNat proper.closeTimeout, Json.proper_ofNat proper.connectTimeout,
    Json.proper_ofNat proper.eventBuffer, nofun⟩

theorem Proper.keeps (proper : settings.Proper) : codec.Keeps settings :=
  Codec.keeps_of_proper proper.toJson proper.ofJson?_toJson

end ManagerSettings

namespace TelegramSettings

/-- The timeout is a number of 64 bits. -/
def Proper (settings : TelegramSettings) : Prop := settings.pollTimeout < 2 ^ 64

def codec : Codec TelegramSettings := ⟨toJson, ofJson?⟩

variable {settings : TelegramSettings}

theorem Proper.ofJson?_toJson (proper : settings.Proper) :
    ofJson? settings.toJson = some settings := by
  have pollTimeout := Json.asUnsigned?_ofNat proper
  simp [ofJson?, TelegramSettings.toJson, Json.asRecord?, Json.lookup, Json.orDefault?,
    Json.asText?, pollTimeout]

theorem Proper.toJson (proper : settings.Proper) : settings.toJson.Proper := by
  refine Json.proper_record ["api_base", "poll_timeout_secs"] (by decide) rfl ?_
  simp only [List.forall_mem_cons]
  exact ⟨.text _, Json.proper_ofNat proper, nofun⟩

theorem Proper.keeps (proper : settings.Proper) : codec.Keeps settings :=
  Codec.keeps_of_proper proper.toJson proper.ofJson?_toJson

end TelegramSettings

/-! ### Logging -/

theorem LogLevel.ofJson?_toJson (level : LogLevel) : ofJson? level.toJson = some level := by
  cases level <;> rfl

theorem LogFormat.ofJson?_toJson (format : LogFormat) : ofJson? format.toJson = some format := by
  cases format <;> rfl

theorem LogOutput.ofJson?_toJson (output : LogOutput) : ofJson? output.toJson = some output := by
  cases output <;> rfl

namespace SpanEvents

theorem ofJson?_toJson (events : SpanEvents) : ofJson? events.toJson = some events := by
  simp [ofJson?, toJson, Json.asRecord?, Json.lookup, Json.orDefault?, Json.asBoolean?]

theorem toJson_proper (events : SpanEvents) : events.toJson.Proper := by
  refine Json.proper_record ["close", "enter", "exit", "new"] (by decide) rfl ?_
  simp only [List.forall_mem_cons]
  exact ⟨.boolean _, .boolean _, .boolean _, .boolean _, nofun⟩

end SpanEvents

namespace LoggingSettings

/-- The targets with levels of their own stand in ascending order. -/
def Proper (settings : LoggingSettings) : Prop :=
  (settings.filters.map Prod.fst).Pairwise (· < ·)

def codec : Codec LoggingSettings := ⟨toJson, ofJson?⟩

/-- Filters are read back in the order in which they were written. -/
theorem filtersOfJson?_map (filters : LogFilters) :
    filtersOfJson? (.object (filters.map fun (target, level) => (target, level.toJson))) =
      some filters := by
  refine Json.mapM_map fun (target, level) _ => ?_
  dsimp only
  rw [LogLevel.ofJson?_toJson]
  rfl

variable {settings : LoggingSettings}

theorem ofJson?_toJson (settings : LoggingSettings) :
    ofJson? settings.toJson = some settings := by
  have level := LogLevel.ofJson?_toJson settings.level
  have format := LogFormat.ofJson?_toJson settings.format
  have output := LogOutput.ofJson?_toJson settings.output
  have filePath := Json.asNullable?_ofText? settings.filePath
  have filters := filtersOfJson?_map settings.filters
  have spanEvents := SpanEvents.ofJson?_toJson settings.spanEvents
  simp [ofJson?, toJson, Json.asRecord?, Json.lookup, Json.orDefault?, Json.asBoolean?, level,
    format, output, filePath, filters, spanEvents]

theorem Proper.toJson (proper : settings.Proper) : settings.toJson.Proper := by
  have filters : Json.Proper
      (.object (settings.filters.map fun (target, level) => (target, level.toJson))) := by
    refine .object ?_ fun field member => ?_
    · rw [List.map_map]
      exact proper
    · obtain ⟨⟨target, level⟩, _, rfl⟩ := List.mem_map.mp member
      exact .text level.name
  refine Json.proper_record ["file_location", "file_path", "filters", "format", "level", "output",
    "span_events", "thread_ids"] (by decide) rfl ?_
  simp only [List.forall_mem_cons]
  exact ⟨.boolean _, Json.proper_ofText? _, filters, .text _, .text _, .text _,
    settings.spanEvents.toJson_proper, .boolean _, nofun⟩

theorem Proper.keeps (proper : settings.Proper) : codec.Keeps settings :=
  Codec.keeps_of_proper proper.toJson settings.ofJson?_toJson

end LoggingSettings

/-! ### All sections -/

namespace Settings

structure Proper (settings : Settings) : Prop where
  manager : settings.manager.Proper
  logging : settings.logging.Proper
  telegram : settings.telegram.Proper
  bots : ∀ bot ∈ settings.bots, bot.Proper

def codec (now : Moment) : Codec Settings := ⟨toJson, ofJson? now⟩

variable {settings : Settings}

theorem Proper.ofJson?_toJson (proper : settings.Proper) (now : Moment) :
    ofJson? now settings.toJson = some settings := by
  have manager := proper.manager.ofJson?_toJson
  have logging := settings.logging.ofJson?_toJson
  have telegram := proper.telegram.ofJson?_toJson
  have bots := Json.asListOf?_map fun bot member => (proper.bots bot member).ofJson?_toJson now
  simp [ofJson?, Settings.toJson, Json.asRecord?, Json.lookup, Json.orDefault?, manager, logging,
    telegram, bots]

theorem Proper.toJson (proper : settings.Proper) : settings.toJson.Proper := by
  refine Json.proper_record ["bots", "logging", "manager", "telegram"] (by decide) rfl ?_
  simp only [List.forall_mem_cons]
  exact ⟨Json.proper_map fun bot member => (proper.bots bot member).toJson, proper.logging.toJson,
    proper.manager.toJson, proper.telegram.toJson, nofun⟩

theorem Proper.keeps (proper : settings.Proper) (now : Moment) : (codec now).Keeps settings :=
  Codec.keeps_of_proper proper.toJson (proper.ofJson?_toJson now)

end Settings

/-! ### Everything that is written down -/

/-- Every record comes back from the value that it is encoded as, and from its text where that can be
read as it was written. -/
theorem keeps_every_record (now : Moment) :
    (∀ block : Block, block.Proper → Block.codec.Keeps block) ∧
    (∀ event : Event, event.Proper → Event.codec.Keeps event) ∧
    (∀ bot : Bot, bot.Proper → (Bot.codec now).Keeps bot) ∧
    (∀ patch : BotPatch, patch.Proper → BotPatch.codec.Keeps patch) ∧
    (∀ settings : ManagerSettings, settings.Proper → ManagerSettings.codec.Keeps settings) ∧
    (∀ settings : LoggingSettings, settings.Proper → LoggingSettings.codec.Keeps settings) ∧
    (∀ settings : TelegramSettings, settings.Proper → TelegramSettings.codec.Keeps settings) ∧
    (∀ settings : Settings, settings.Proper → (Settings.codec now).Keeps settings) :=
  ⟨fun _ proper => proper.keeps, fun _ proper => proper.keeps, fun _ proper => proper.keeps now,
    fun _ proper => proper.keeps, fun _ proper => proper.keeps, fun _ proper => proper.keeps,
    fun _ proper => proper.keeps, fun _ proper => proper.keeps now⟩

/-- A block of an unknown kind with a fraction among nested lists. -/
def Block.poll : Block :=
  ⟨"b", .unknown "poll",
    [("answers", .list [.list [], .number (.real ⟨0x3ff8000000000000⟩), .null])]⟩

/-- A bot with that block, of which the record says that it failed in a leap second. -/
def Bot.poller : Bot :=
  ⟨"p", "Poller", "1:a", [.poll], .error, ⟨2016, 12, 31, 23, 59, 60, 5000⟩⟩

/-- Settings with that bot and with a level of its own for one target. -/
def Settings.polling : Settings :=
  { bots := [.poller], logging := { filters := [("net", .warn)], output := .stderr } }

theorem Block.poll_proper : poll.Proper where
  kind name same := by
    cases same
    decide
  data := by
    refine Json.proper_record ["answers"] (by decide) rfl ?_
    simp only [poll, List.forall_mem_cons]
    refine ⟨.list ?_, nofun⟩
    simp only [List.forall_mem_cons]
    exact ⟨.list nofun, .real _, .null, nofun⟩

theorem Bot.poller_proper : poller.Proper where
  blocks := by simpa [poller] using Block.poll_proper
  createdAt := ⟨by decide, by decide, by decide, by decide, by decide, by decide, by decide⟩

theorem Settings.polling_proper : polling.Proper where
  manager := ⟨by decide, by decide, by decide⟩
  logging := by simp [polling, LoggingSettings.Proper]
  telegram := show 30 < 2 ^ 64 by decide
  bots := by simpa [polling] using Bot.poller_proper

/-- They come back from their texts, and so do an event and an update, read at any time. -/
theorem keeps_every_record_polling :
    (Json.read? Block.poll.toJson.write).bind Block.ofJson? = some .poll ∧
    (Json.read? (Event.ofText (-5) "").toJson.write).bind Event.ofJson? = some (.ofText (-5) "") ∧
    (Json.read? Bot.poller.toJson.write).bind (Bot.ofJson? (.ofSeconds 0 0)) = some .poller ∧
    (Json.read? (BotPatch.toJson ⟨none, some "", none⟩).write).bind BotPatch.ofJson? =
      some ⟨none, some "", none⟩ ∧
    (Json.read? (ManagerSettings.toJson {}).write).bind ManagerSettings.ofJson? = some {} ∧
    (Json.read? Settings.polling.logging.toJson.write).bind LoggingSettings.ofJson? =
      some Settings.polling.logging ∧
    (Json.read? (TelegramSettings.toJson {}).write).bind TelegramSettings.ofJson? = some {} ∧
    (Json.read? Settings.polling.toJson.write).bind (Settings.ofJson? (.ofSeconds 0 0)) =
      some .polling := by
  obtain ⟨block, event, bot, patch, manager, logging, telegram, settings⟩ :=
    keeps_every_record (.ofSeconds 0 0)
  have proper := Settings.polling_proper
  have eventProper : (Event.ofText (-5) "").Proper := by
    intro number member
    obtain rfl : number = -5 := List.mem_singleton.mp member
    decide
  refine ⟨?_, ?_, ?_, ?_, ?_, ?_, ?_, ?_⟩
  · exact (block .poll Block.poll_proper).text (by decide +kernel)
  · exact (event (.ofText (-5) "") eventProper).text (by decide +kernel)
  · exact (bot .poller Bot.poller_proper).text (by decide +kernel)
  · exact (patch ⟨none, some "", none⟩ nofun).text (by decide +kernel)
  · exact (manager {} proper.manager).text (by decide +kernel)
  · exact (logging _ proper.logging).text (by decide +kernel)
  · exact (telegram {} proper.telegram).text (by decide +kernel)
  · exact (settings .polling proper).text (by decide +kernel)

/-! ### Texts that lose something -/

/-- An empty list within so many lists. -/
def Json.nested : Nat → Json
  | 0 => .list []
  | depth + 1 => .list [nested depth]

theorem Json.nested_proper (depth : Nat) : (nested depth).Proper := by
  induction depth with
  | zero => exact .list nofun
  | succ depth inductionHypothesis => exact .list (by simpa using inductionHypothesis)

/-- Each list around adds a level. -/
theorem Json.levels_nested (depth : Nat) : (nested depth).levels = depth + 1 := by
  induction depth with
  | zero => rfl
  | succ depth inductionHypothesis =>
    rw [nested, levels, levelsOfItems, levelsOfItems, inductionHypothesis, Nat.max_zero]

/-- A message block whose only field holds this value. -/
def Block.holding (value : Json) : Block := ⟨"b", .message, [("x", value)]⟩

/-- A block that holds a value can be kept if the value can. -/
theorem Block.holding_proper {value : Json} (proper : value.Proper) : (holding value).Proper where
  kind := nofun
  data := by
    refine Json.proper_record ["x"] (by decide) rfl ?_
    simp only [holding, List.forall_mem_cons]
    exact ⟨proper, nofun⟩

/-- The text of a block loses a number that the reader misses by the last bit, here the one that is
written `1e-25`, and a block that is deeper than the reader goes does not come back at all. -/
theorem texts_lose_blocks :
    (∃ block : Block, block = .holding (.number (.real ⟨0x3abef2d0f5da7dd9⟩)) ∧ block.Proper ∧
      (Json.read? block.toJson.write).bind Block.ofJson? ≠ some block) ∧
    (∃ block : Block, block = .holding (.nested 125) ∧ block.Proper ∧
      (Json.read? block.toJson.write).bind Block.ofJson? ≠ some block) := by
  refine ⟨⟨_, rfl, Block.holding_proper (.real _), ?_⟩,
    ⟨_, rfl, Block.holding_proper (Json.nested_proper 125), fun read => ?_⟩⟩
  · decide +kernel
  · have shallow := Block.levels_of_read? read
    simp only [Block.holding, Json.levels, Json.levelsOfFields, Json.levels_nested] at shallow
    exact absurd shallow (by decide)

end BotHost
