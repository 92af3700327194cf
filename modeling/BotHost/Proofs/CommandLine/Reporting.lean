/-
The report of a check has every bot of accepted settings, and each with what is its own.

The settings give no identifier to two bots, so the store takes one after another and none of them finds
its identifier in use. The report is an object: its entries are in the order of their keys and an entry
replaces one of the same key. Since the keys are the identifiers, none is replaced, and what is reported
are the entries of the bots in some order.
-/

import BotHost.Proofs.CommandLine.Capacity
import BotHost.Proofs.Json.Codec
import Mathlib

namespace BotHost

/-! ### Objects of different keys -/

namespace Json

variable {fields : List (String × Json)}

/-- A field whose key is not there yet replaces none. -/
theorem insertField_perm {key : String} (new : key ∉ fields.map Prod.fst) (value : Json) :
    (insertField key value fields).Perm ((key, value) :: fields) := by
  induction fields with
  | nil => exact .refl _
  | cons first rest inductionHypothesis =>
    obtain ⟨different, absent⟩ := not_or.mp fun there => new (List.mem_cons.mpr there)
    rw [insertField, if_neg different]
    split
    · exact .refl _
    · exact ((inductionHypothesis absent).cons first).trans (.swap _ _ _)

/-- An object made of fields with different keys has all of them. -/
theorem ofFields_perm (distinct : (fields.map Prod.fst).Nodup) :
    ∃ sorted, ofFields fields = .object sorted ∧ sorted.Perm fields := by
  refine ⟨_, rfl, ?_⟩
  induction fields using List.reverseRecOn with
  | nil => exact .refl _
  | append_singleton fields field inductionHypothesis =>
    rw [List.map_append, List.nodup_append] at distinct
    obtain ⟨before, _, new⟩ := distinct
    have same := inductionHypothesis before
    rw [List.foldl_append]
    refine (insertField_perm (fun there => ?_) field.2).trans ?_
    · exact new field.1 ((same.map Prod.fst).mem_iff.mp there) field.1 List.mem_cons_self rfl
    · exact (same.cons field).trans (List.perm_append_singleton field fields).symm

end Json

/-! ### The entry of a bot -/

/-- What a report says of a handler: what it does, the block that it was made from, where it stands, its
kind, and what it reacts to. -/
def Handler.reported (handler : Handler) (index : Nat) : Json :=
  .object [
    ("action", .text handler.action.describe),
    ("block_id", match handler.block with
      | some block => .text block
      | none => .null),
    ("index", .number (.integer index)),
    ("kind", .text (match handler.kind with
      | .command => "command"
      | .trigger => "trigger"
      | .fallback => "fallback"
      | .callbackData => "callback_data")),
    ("matcher", .text handler.matcher.describe)]

/-- What a report says of a skipped block: which it is, and why it was skipped. -/
def Warning.reported (warning : Warning) : Json :=
  .object [("block_id", .text warning.block), ("reason", .text warning.refusal.message)]

/-- The entry of a bot in a report: a line for each handler that its blocks compile to and for each
warning, in their order. -/
def Bot.reported [PatternEngine] (bot : Bot) : String × Json :=
  (bot.id, .object [
    ("handlers", .list ((compile bot.blocks).handlers.mapIdx fun index handler =>
      handler.reported index)),
    ("warnings", .list ((compile bot.blocks).warnings.map Warning.reported))])

theorem Handler.summary_eq_reported (index : Nat) (handler : Handler) :
    summary index handler = handler.reported index := by
  have block : "block_id" < "index" := by decide
  have kind : ¬"kind" < "block_id" ∧ ¬"kind" < "index" := by decide
  have matcher : ¬"matcher" < "block_id" ∧ ¬"matcher" < "index" ∧ ¬"matcher" < "kind" := by decide
  have action : "action" < "block_id" := by decide
  simp only [summary, Json.ofFields, List.foldl_cons, List.foldl_nil, Json.insertField,
    String.reduceEq, if_false, block, kind, matcher, action, if_true]
  unfold reported Json.ofText? Json.ofNat
  cases handler.kind <;> rfl

theorem Bot.reported_eq [PatternEngine] (bot : Bot) : (bot.id, Json.ofFields [
    ("handlers", .list (Handler.summaries (compile bot.blocks).handlers)),
    ("warnings", .list ((compile bot.blocks).warnings.map Warning.toJson))]) = bot.reported := by
  have after : ¬ "warnings" < "handlers" := by decide
  have lines : Handler.summary = fun index handler => handler.reported index :=
    funext fun index => funext fun handler => handler.summary_eq_reported index
  have warnings : Warning.toJson = Warning.reported := rfl
  rw [Handler.summaries, lines, warnings]
  simp [Json.ofFields, Json.insertField, after, reported]

theorem Bot.reported_stopped [PatternEngine] (bot : Bot) : bot.stopped.reported = bot.reported := rfl

namespace Host

variable {host : Host}

theorem preview_of_found {bot : Bot} (reads : host.fails .get = false)
    (found : host.store.find? bot.id = some bot) :
    host.preview bot.id = .ok (host.compilation bot.blocks) := by
  rw [preview, stored, storeFind, reads, if_neg Bool.false_ne_true, found]
  rfl

/-- A host whose store can be read reports the entries of the bots in it. -/
theorem report_eq [patterns : PatternEngine] (engine : host.patterns = patterns)
    (reads : host.fails .get = false) (lists : host.fails .list = false)
    (found : ∀ bot ∈ host.store.bots, host.store.find? bot.id = some bot) :
    host.report = .ok (.ofFields (host.store.bots.map Bot.reported)) := by
  have listed : host.list = .ok host.store.bots := by
    rw [list, storeList, lists, if_neg Bool.false_ne_true]
    rfl
  have entries {act : Bot → Except ManagerFault (String × Json)}
      (each : ∀ bot ∈ host.store.bots, act bot = .ok bot.reported) :
      (host.store.bots.mapM act >>= fun entries => pure (Json.ofFields entries)) =
        .ok (.ofFields (host.store.bots.map Bot.reported)) := by
    rw [mapM_eq_pure each]
    rfl
  rw [report, listed]
  refine entries fun bot member => ?_
  rw [preview_of_found reads (found bot member), compilation, engine, ← bot.reported_eq]
  rfl

end Host

/-! ### Accepted settings -/

/-- In a store of bots with different identifiers each is found under its own. -/
theorem BotStore.find?_of_distinct {bots : List Bot} (distinct : (bots.map Bot.id).Nodup) {bot : Bot}
    (member : bot ∈ bots) : (BotStore.mk bots).find? bot.id = some bot := by
  cases found : (BotStore.mk bots).find? bot.id with
  | none => simpa using List.find?_eq_none.mp found bot member
  | some other =>
    have same : other.id = bot.id := by simpa using List.find?_some found
    rw [List.inj_on_of_nodup_map distinct (List.mem_of_find?_eq_some found) member same]

/-- All bots of accepted settings are registered, in their order and as stopped, and a check reports one
entry for each of them, with its own handlers and warnings. -/
theorem Settings.reported_of_accepted [PatternEngine] {settings : Settings}
    (accepted : settings.validate = .ok ()) :
    ∃ host entries, Host.ofBots settings.manager settings.bots = .ok host ∧
      host.list = .ok (settings.bots.map Bot.stopped) ∧
      host.report = .ok (.object entries) ∧
      entries.Perm (settings.bots.map Bot.reported) ∧ (entries.map Prod.fst).Nodup ∧
      ∀ invocation : Invocation, invocation.command = .check → ∀ service,
        invocation.execute service settings = .ok (.report (.object entries)) := by
  have distinct := (validate_eq_ok_iff.mp accepted).distinct
  have registered : Host.ofBots settings.manager settings.bots = _ := Host.ofBots_eq_ok distinct
  have identifiers : ((settings.bots.map Bot.stopped).map Bot.id).Nodup := by
    rwa [List.map_map]
  let host : Host := { settings := settings.manager, store := ⟨settings.bots.map Bot.stopped⟩ }
  have reported : host.report = _ :=
    Host.report_eq rfl rfl rfl fun bot member => BotStore.find?_of_distinct identifiers member
  have keys : ((settings.bots.map Bot.reported).map Prod.fst).Nodup := by
    rwa [List.map_map]
  have unchanged : host.store.bots.map Bot.reported = settings.bots.map Bot.reported := by
    show (settings.bots.map Bot.stopped).map Bot.reported = _
    rw [List.map_map]
    exact List.map_congr_left fun bot _ => bot.reported_stopped
  obtain ⟨entries, object, all⟩ := Json.ofFields_perm keys
  rw [unchanged, object] at reported
  refine ⟨host, entries, registered, rfl, reported, all, (all.map Prod.fst).nodup_iff.mpr keys, ?_⟩
  intro invocation check service
  rw [Invocation.execute, registered, check]
  show (_ : Except ExecutionFault Json).map Execution.report = _
  rw [reported]
  rfl

attribute [local instance] PatternEngine.unlimited

/-- Answers a command, and has a block of a kind that does not exist. -/
def Bot.greeting : Bot :=
  { Bot.plain "second" "t2" with
    status := .running
    blocks := [⟨"b1", .command, [("command", .text "hi"), ("response", .text "Hello")]⟩,
      ⟨"b2", .unknown "poll", []⟩] }

/-- Settings with two bots, the first of them said to be running. -/
def Settings.withBots : Settings where
  bots := [Bot.greeting, Bot.plain "first" "t1"]

theorem Settings.reported_of_accepted_withBots :
    withBots.validate = .ok () ∧ ∃ host entries,
      Host.ofBots withBots.manager withBots.bots = .ok host ∧
      host.list = .ok [Bot.greeting.stopped, Bot.plain "first" "t1"] ∧
      host.report = .ok (.object entries) ∧
      entries.Perm [Bot.greeting.reported, (Bot.plain "first" "t1").reported] ∧
      ("second", .object [
        ("handlers", .list [.object [("action", .text "send \"Hello\""), ("block_id", .text "b1"),
          ("index", .number (.integer 0)), ("kind", .text "command"),
          ("matcher", .text "command /hi")]]),
        ("warnings", .list [.object [("block_id", .text "b2"),
          ("reason", .text "unknown block type \"poll\"")]])]) ∈ entries := by
  have accepted : withBots.validate = .ok () := rfl
  obtain ⟨host, entries, registered, listed, reported, all, _⟩ := reported_of_accepted accepted
  refine ⟨accepted, host, entries, registered, listed, reported, all, all.mem_iff.mpr ?_⟩
  refine List.mem_cons.mpr (.inl ?_)
  decide +kernel

end BotHost
