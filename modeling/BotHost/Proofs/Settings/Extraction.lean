/-
How settings are read from the layers laid over each other.

A merged value has its sections at the keys of a table, and most of these are tables again. Each setting
has a path, and what the settings hold there is what the value at that path is read as, or the usual value
if nothing stands there. A section can also be written as the list of its fields in order; then the list
stands in the place of a table, and the section is read as a whole.
-/

import BotHost.Proofs.Settings.Layering
import Mathlib.Data.List.Infix

namespace BotHost

namespace Json

/-! ### What stands at a path -/

/-- What stands at a path of keys, with everything below it. -/
def at? (value : Json) : (path : List String) → Option Json
  | [] => some value
  | key :: path => (value.field? key).bind fun part => part.at? path

variable {merged : Json} {front path : List String} {key : String}

/-- A path leads where its second part leads from where its first does. -/
theorem at?_append (merged : Json) (front path : List String) :
    merged.at? (front ++ path) = (merged.at? front).bind fun part => part.at? path := by
  induction front generalizing merged with
  | nil => rfl
  | cons key front inductionHypothesis =>
    rw [List.cons_append, at?, at?, Option.bind_assoc]
    congr 1
    funext part
    exact inductionHypothesis part

/-- A setting is what stands at its path, without what is below a table. -/
theorem setting_eq_at? (merged : Json) (path : List String) :
    merged.setting path = (merged.at? path).elim .absent fun part => part.setting [] := by
  induction path generalizing merged with
  | nil => rfl
  | cons key path inductionHypothesis =>
    cases merged with
    | object fields =>
      rw [setting_object_cons, at?, field?]
      cases lookup key fields with
      | none => rfl
      | some part => exact inductionHypothesis part
    | _ => rfl

/-- What is held is what stands at the path: a value, or a table with everything below it, or the usual
content if nothing is there. If a value stands where a table would be on the way to the path, what is
held lies with the section that this value is read as. -/
inductive Gives {Content : Type} (merged : Json) (path : List String) (read? : Json → Option Content)
    (usual content : Content) : Prop
  | value {value : Json} (there : merged.setting path = .value value)
      (read : read? value = some content)
  | table {fields : List (String × Json)} (there : merged.at? path = some (.object fields))
      (read : read? (.object fields) = some content)
  | absent (absent : merged.setting path = .absent) (same : content = usual)
  | hidden {front : List String} {value : Json} (before : front <+: path) (above : front ≠ path)
      (there : merged.setting front = .value value)

variable {Section Content : Type} {readSection? : Json → Option Section} {read? : Json → Option Content}
  {usualSection whole : Section} {usual content : Content}

/-- A field that is read with a default is given by what stands at its path, or by the default. -/
theorem gives_of_orDefault? (read : orDefault? usual read? (merged.at? path) = some content) :
    merged.Gives path read? usual content := by
  cases there : merged.at? path with
  | none =>
    rw [there] at read
    exact .absent (by rw [setting_eq_at?, there]; rfl) (Option.some.inj read).symm
  | some part =>
    rw [there] at read
    obtain leaf | ⟨fields, rfl⟩ := part.isLeaf_or_object
    · refine .value ?_ read
      rw [setting_eq_at?, there]
      exact leaf.setting_nil
    · exact .table there read

/-- What a section holds at a key, if the section is read field by field whenever it is a table. -/
theorem Gives.field (given : merged.Gives front readSection? usualSection whole) (key : String)
    (fieldwise : ∀ fields, readSection? (.object fields) = some whole →
      orDefault? usual read? (lookup key fields) = some content)
    (empty : usualSection = whole → content = usual) :
    merged.Gives (front ++ [key]) read? usual content := by
  cases given with
  | value there read =>
    refine .hidden (List.prefix_append _ _) ?_ there
    simp
  | table there read =>
    refine gives_of_orDefault? ?_
    rw [at?_append, there]
    simpa [at?, field?] using fieldwise _ read
  | absent absent same =>
    refine .absent ?_ (empty same.symm)
    rw [setting_eq_at?, at?_append]
    rw [setting_eq_at?] at absent
    cases there : merged.at? front with
    | none => rfl
    | some part =>
      rw [there] at absent
      cases part <;> cases absent
  | hidden before above there =>
    refine .hidden (before.trans (List.prefix_append _ _)) ?_ there
    rintro rfl
    have length := before.length_le
    simp at length

/-- Changing a field changes what is found under its name. -/
theorem lookup_map_change (changed : String) (change : Json → Json) (key : String)
    (fields : List (String × Json)) :
    lookup key (fields.map fun field =>
        (field.1, if field.1 = changed then change field.2 else field.2)) =
      (lookup key fields).map (if key = changed then change else id) := by
  induction fields with
  | nil => rfl
  | cons field fields inductionHypothesis =>
    obtain ⟨other, value⟩ := field
    rw [List.map_cons, lookup, lookup]
    split
    next same =>
      subst same
      split <;> rfl
    next => exact inductionHypothesis

end Json

open Json (Gives orDefault? lookup)

variable {merged : Json} {fields : List (String × Json)}

/-! ### The manager and the transport -/

/-- The section of the manager holds what stands at the paths of its settings. -/
structure ManagerSettings.GivenBy (merged : Json) (settings : ManagerSettings) : Prop where
  whole : merged.Gives ["manager"] ofJson? {} settings
  closeTimeout : merged.Gives ["manager", "close_timeout_ms"] Json.asUnsigned? 5000
    settings.closeTimeout
  connectTimeout : merged.Gives ["manager", "connect_timeout_ms"] Json.asUnsigned? 10000
    settings.connectTimeout
  eventBuffer : merged.Gives ["manager", "event_buffer"] Json.asUnsigned? 256 settings.eventBuffer

/-- What is read from the fields of a table. -/
structure ManagerSettings.ReadFrom (fields : List (String × Json)) (settings : ManagerSettings) :
    Prop where
  closeTimeout : orDefault? 5000 Json.asUnsigned? (lookup "close_timeout_ms" fields) =
    some settings.closeTimeout
  connectTimeout : orDefault? 10000 Json.asUnsigned? (lookup "connect_timeout_ms" fields) =
    some settings.connectTimeout
  eventBuffer : orDefault? 256 Json.asUnsigned? (lookup "event_buffer" fields) =
    some settings.eventBuffer

/-- The manager's settings are read from an object field by field. -/
theorem ManagerSettings.readFrom_of_object {settings : ManagerSettings}
    (read : ofJson? (.object fields) = some settings) : settings.ReadFrom fields := by
  simp only [ofJson?, Json.asRecord?, List.map_cons, List.map_nil, Option.bind_eq_bind,
    Option.bind_some, Option.bind_eq_some_iff, Option.some.injEq] at read
  obtain ⟨closeTimeout, closeTimeoutRead, connectTimeout, connectTimeoutRead, eventBuffer,
    eventBufferRead, rfl⟩ := read
  exact ⟨closeTimeoutRead, connectTimeoutRead, eventBufferRead⟩

/-- The manager's settings are given by the fields below theirs. -/
theorem ManagerSettings.givenBy_of_gives {settings : ManagerSettings}
    (given : merged.Gives ["manager"] ofJson? {} settings) : settings.GivenBy merged where
  whole := given
  closeTimeout := given.field "close_timeout_ms" (fun _ read => (readFrom_of_object read).closeTimeout)
    (by rintro rfl; rfl)
  connectTimeout := given.field "connect_timeout_ms"
    (fun _ read => (readFrom_of_object read).connectTimeout) (by rintro rfl; rfl)
  eventBuffer := given.field "event_buffer" (fun _ read => (readFrom_of_object read).eventBuffer)
    (by rintro rfl; rfl)

/-- The section of the transport holds what stands at the paths of its settings. -/
structure TelegramSettings.GivenBy (merged : Json) (settings : TelegramSettings) : Prop where
  whole : merged.Gives ["telegram"] ofJson? {} settings
  apiBase : merged.Gives ["telegram", "api_base"] Json.asText? "https://api.telegram.org"
    settings.apiBase
  pollTimeout : merged.Gives ["telegram", "poll_timeout_secs"] Json.asUnsigned? 30
    settings.pollTimeout

/-- What is read from the fields of a table. -/
structure TelegramSettings.ReadFrom (fields : List (String × Json)) (settings : TelegramSettings) :
    Prop where
  apiBase : orDefault? "https://api.telegram.org" Json.asText? (lookup "api_base" fields) =
    some settings.apiBase
  pollTimeout : orDefault? 30 Json.asUnsigned? (lookup "poll_timeout_secs" fields) =
    some settings.pollTimeout

theorem TelegramSettings.readFrom_of_object {settings : TelegramSettings}
    (read : ofJson? (.object fields) = some settings) : settings.ReadFrom fields := by
  simp only [ofJson?, Json.asRecord?, List.map_cons, List.map_nil, Option.bind_eq_bind,
    Option.bind_some, Option.bind_eq_some_iff, Option.some.injEq] at read
  obtain ⟨apiBase, apiBaseRead, pollTimeout, pollTimeoutRead, rfl⟩ := read
  exact ⟨apiBaseRead, pollTimeoutRead⟩

theorem TelegramSettings.givenBy_of_gives {settings : TelegramSettings}
    (given : merged.Gives ["telegram"] ofJson? {} settings) : settings.GivenBy merged where
  whole := given
  apiBase := given.field "api_base" (fun _ read => (readFrom_of_object read).apiBase)
    (by rintro rfl; rfl)
  pollTimeout := given.field "poll_timeout_secs" (fun _ read => (readFrom_of_object read).pollTimeout)
    (by rintro rfl; rfl)

/-! ### Logging -/

/-- The events of spans are those that stand at their paths. -/
structure SpanEvents.GivenBy (merged : Json) (events : SpanEvents) : Prop where
  whole : merged.Gives ["logging", "span_events"] ofJson? {} events
  new : merged.Gives ["logging", "span_events", "new"] Json.asBoolean? false events.new
  enter : merged.Gives ["logging", "span_events", "enter"] Json.asBoolean? false events.enter
  exit : merged.Gives ["logging", "span_events", "exit"] Json.asBoolean? false events.exit
  close : merged.Gives ["logging", "span_events", "close"] Json.asBoolean? false events.close

/-- What is read from the fields of a table. -/
structure SpanEvents.ReadFrom (fields : List (String × Json)) (events : SpanEvents) : Prop where
  new : orDefault? false Json.asBoolean? (lookup "new" fields) = some events.new
  enter : orDefault? false Json.asBoolean? (lookup "enter" fields) = some events.enter
  exit : orDefault? false Json.asBoolean? (lookup "exit" fields) = some events.exit
  close : orDefault? false Json.asBoolean? (lookup "close" fields) = some events.close

theorem SpanEvents.readFrom_of_object {events : SpanEvents}
    (read : ofJson? (.object fields) = some events) : events.ReadFrom fields := by
  simp only [ofJson?, Json.asRecord?, List.map_cons, List.map_nil, Option.bind_eq_bind,
    Option.bind_some, Option.bind_eq_some_iff, Option.some.injEq] at read
  obtain ⟨new, newRead, enter, enterRead, exit, exitRead, close, closeRead, rfl⟩ := read
  exact ⟨newRead, enterRead, exitRead, closeRead⟩

theorem SpanEvents.givenBy_of_gives {events : SpanEvents}
    (given : merged.Gives ["logging", "span_events"] ofJson? {} events) : events.GivenBy merged where
  whole := given
  new := given.field "new" (fun _ read => (readFrom_of_object read).new) (by rintro rfl; rfl)
  enter := given.field "enter" (fun _ read => (readFrom_of_object read).enter) (by rintro rfl; rfl)
  exit := given.field "exit" (fun _ read => (readFrom_of_object read).exit) (by rintro rfl; rfl)
  close := given.field "close" (fun _ read => (readFrom_of_object read).close) (by rintro rfl; rfl)

/-- The level of a log target, or that it has none of its own. -/
def LogLevel.ofTarget? (value : Json) : Option (Option LogLevel) := (ofJson? value).map some

/-- The section on logging holds what stands at the paths of its settings. -/
structure LoggingSettings.GivenBy (merged : Json) (settings : LoggingSettings) : Prop where
  whole : merged.Gives ["logging"] ofJson? {} settings
  level : merged.Gives ["logging", "level"] LogLevel.ofJson? .info settings.level
  format : merged.Gives ["logging", "format"] LogFormat.ofJson? .compact settings.format
  output : merged.Gives ["logging", "output"] LogOutput.ofJson? .stdout settings.output
  filePath : merged.Gives ["logging", "file_path"] (Json.asNullable? Json.asText?) none
    settings.filePath
  filters : merged.Gives ["logging", "filters"] filtersOfJson? [] settings.filters
  target : ∀ target, merged.Gives ["logging", "filters", target] LogLevel.ofTarget? none
    (settings.filters.lookup target)
  spanEvents : settings.spanEvents.GivenBy merged
  threadIds : merged.Gives ["logging", "thread_ids"] Json.asBoolean? false settings.threadIds
  fileLocation : merged.Gives ["logging", "file_location"] Json.asBoolean? false
    settings.fileLocation

/-- What is read from the fields of a table. -/
structure LoggingSettings.ReadFrom (fields : List (String × Json)) (settings : LoggingSettings) :
    Prop where
  level : orDefault? .info LogLevel.ofJson? (lookup "level" fields) = some settings.level
  format : orDefault? .compact LogFormat.ofJson? (lookup "format" fields) = some settings.format
  output : orDefault? .stdout LogOutput.ofJson? (lookup "output" fields) = some settings.output
  filePath : orDefault? none (Json.asNullable? Json.asText?) (lookup "file_path" fields) =
    some settings.filePath
  filters : orDefault? [] filtersOfJson? (lookup "filters" fields) = some settings.filters
  spanEvents : orDefault? {} SpanEvents.ofJson? (lookup "span_events" fields) =
    some settings.spanEvents
  threadIds : orDefault? false Json.asBoolean? (lookup "thread_ids" fields) =
    some settings.threadIds
  fileLocation : orDefault? false Json.asBoolean? (lookup "file_location" fields) =
    some settings.fileLocation

theorem LoggingSettings.readFrom_of_object {settings : LoggingSettings}
    (read : ofJson? (.object fields) = some settings) : settings.ReadFrom fields := by
  simp only [ofJson?, Json.asRecord?, List.map_cons, List.map_nil, Option.bind_eq_bind,
    Option.bind_some, Option.bind_eq_some_iff, Option.some.injEq] at read
  obtain ⟨level, levelRead, format, formatRead, output, outputRead, filePath, filePathRead, filters,
    filtersRead, spanEvents, spanEventsRead, threadIds, threadIdsRead, fileLocation,
    fileLocationRead, rfl⟩ := read
  exact ⟨levelRead, formatRead, outputRead, filePathRead, filtersRead, spanEventsRead,
    threadIdsRead, fileLocationRead⟩

/-- The level of a target is read from what stands under its name. -/
theorem LoggingSettings.lookup_filtersOfJson? {filters : LogFilters}
    (read : filtersOfJson? (.object fields) = some filters) (target : String) :
    orDefault? none LogLevel.ofTarget? (lookup target fields) = some (filters.lookup target) := by
  simp only [filtersOfJson?, Json.asObject?, Option.bind_eq_bind, Option.bind_some] at read
  induction fields generalizing filters with
  | nil =>
    cases read
    rfl
  | cons field fields inductionHypothesis =>
    obtain ⟨other, value⟩ := field
    rw [List.mapM_cons] at read
    simp only [Option.bind_eq_bind, Option.bind_eq_some_iff, Option.pure_def,
      Option.some.injEq] at read
    obtain ⟨_, ⟨level, levelRead, rfl⟩, rest, restRead, rfl⟩ := read
    rw [lookup, List.lookup_cons]
    by_cases same : target = other
    · rw [if_pos same, beq_iff_eq.mpr same]
      show LogLevel.ofTarget? value = _
      rw [LogLevel.ofTarget?, levelRead, Option.map_some]
    · rw [if_neg same, beq_eq_false_iff_ne.mpr same]
      exact inductionHypothesis restRead

theorem LoggingSettings.givenBy_of_gives {settings : LoggingSettings}
    (given : merged.Gives ["logging"] ofJson? {} settings) : settings.GivenBy merged where
  whole := given
  level := given.field "level" (fun _ read => (readFrom_of_object read).level) (by rintro rfl; rfl)
  format := given.field "format" (fun _ read => (readFrom_of_object read).format) (by rintro rfl; rfl)
  output := given.field "output" (fun _ read => (readFrom_of_object read).output) (by rintro rfl; rfl)
  filePath := given.field "file_path" (fun _ read => (readFrom_of_object read).filePath)
    (by rintro rfl; rfl)
  filters := given.field "filters" (fun _ read => (readFrom_of_object read).filters)
    (by rintro rfl; rfl)
  target target := (given.field "filters" (fun _ read => (readFrom_of_object read).filters)
    (by rintro rfl; rfl)).field target (fun _ read => lookup_filtersOfJson? read target)
    (by intro same; rw [← same]; rfl)
  spanEvents := SpanEvents.givenBy_of_gives (given.field "span_events"
    (fun _ read => (readFrom_of_object read).spanEvents) (by rintro rfl; rfl))
  threadIds := given.field "thread_ids" (fun _ read => (readFrom_of_object read).threadIds)
    (by rintro rfl; rfl)
  fileLocation := given.field "file_location" (fun _ read => (readFrom_of_object read).fileLocation)
    (by rintro rfl; rfl)

/-! ### All sections -/

namespace Settings

variable {now : Moment} {settings : Settings}

/-- The bots of a merged value. Data of a block that are null are none. -/
def botsOfMerged? (now : Moment) (bots : Json) : Option (List Bot) :=
  let block := Json.changeField "data" blockData
  let bot := Json.changeField "blocks" (Json.changeItems block)
  Json.asListOf? (Bot.ofJson? now) (Json.changeItems bot bots)

/-- The settings that a merged value stands for. -/
def ofMerged? (now : Moment) (merged : Json) : Option Settings :=
  let block := Json.changeField "data" blockData
  let bot := Json.changeField "blocks" (Json.changeItems block)
  ofJson? now (merged.changeField "bots" (Json.changeItems bot))

/-- Every setting is what stands at its path. -/
structure GivenBy (now : Moment) (merged : Json) (settings : Settings) : Prop where
  manager : settings.manager.GivenBy merged
  logging : settings.logging.GivenBy merged
  telegram : settings.telegram.GivenBy merged
  bots : merged.Gives ["bots"] (botsOfMerged? now) [] settings.bots

/-- What is read from the fields of a table. -/
structure ReadFrom (now : Moment) (fields : List (String × Json)) (settings : Settings) : Prop where
  manager : orDefault? {} ManagerSettings.ofJson? (lookup "manager" fields) = some settings.manager
  logging : orDefault? {} LoggingSettings.ofJson? (lookup "logging" fields) = some settings.logging
  telegram : orDefault? {} TelegramSettings.ofJson? (lookup "telegram" fields) =
    some settings.telegram
  bots : orDefault? [] (botsOfMerged? now) (lookup "bots" fields) = some settings.bots

/-- Settings are read from an object field by field. -/
theorem readFrom_of_object (read : ofMerged? now (.object fields) = some settings) :
    settings.ReadFrom now fields := by
  unfold ofMerged? ofJson? at read
  simp only [Json.changeField, Json.asRecord?, List.map_cons, List.map_nil, Option.bind_eq_bind,
    Option.bind_some, Option.bind_eq_some_iff, Option.some.injEq, Json.lookup_map_change] at read
  obtain ⟨manager, managerRead, logging, loggingRead, telegram, telegramRead, bots, botsRead, rfl⟩ :=
    read
  exact {
    manager := by simpa using managerRead
    logging := by simpa using loggingRead
    telegram := by simpa using telegramRead
    bots := by
      cases there : lookup "bots" fields with
      | none =>
        rw [there] at botsRead
        exact botsRead
      | some given =>
        rw [there] at botsRead
        exact botsRead }

theorem givenBy_of_ofMerged? (read : ofMerged? now merged = some settings) :
    settings.GivenBy now merged := by
  have given : merged.Gives [] (ofMerged? now) {} settings := Json.gives_of_orDefault? read
  exact {
    manager := ManagerSettings.givenBy_of_gives (given.field "manager"
      (fun _ read => (readFrom_of_object read).manager) (by rintro rfl; rfl))
    logging := LoggingSettings.givenBy_of_gives (given.field "logging"
      (fun _ read => (readFrom_of_object read).logging) (by rintro rfl; rfl))
    telegram := TelegramSettings.givenBy_of_gives (given.field "telegram"
      (fun _ read => (readFrom_of_object read).telegram) (by rintro rfl; rfl))
    bots := given.field "bots" (fun _ read => (readFrom_of_object read).bots) (by rintro rfl; rfl) }

end Settings

end BotHost
