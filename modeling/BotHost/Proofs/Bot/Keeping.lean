/-
Blocks, events, bots and updates are kept.

Every encoding is an object with its fields in order, so decoding finds each field under its name, and
the fields that may be left out are always written. What a record has to satisfy is what its parts can
hold: numbers of 64 bits, dates of the calendar, data in order. Only an unknown kind of block could be
mistaken, for one of the vocabulary with the same name.
-/

import BotHost.Bot.Basic
import BotHost.Event
import BotHost.Proofs.Json.Codec
import BotHost.Proofs.Json.Depth
import BotHost.Proofs.Time.Reading

namespace BotHost

/-! ### Blocks -/

namespace BlockKind

/-- A kind outside the vocabulary does not have a name of the vocabulary. -/
def Proper (kind : BlockKind) : Prop :=
  ∀ name, kind = .unknown name → ∀ other ∈ known, other.name ≠ name

theorem Proper.ofName_name {kind : BlockKind} (proper : kind.Proper) : ofName kind.name = kind := by
  cases kind with
  | unknown name =>
    have absent : known.find? (fun other => other.name == name) = none :=
      List.find?_eq_none.mpr fun other member => by simpa using proper name rfl other member
    rw [ofName, BlockKind.name, absent]
  | _ => rfl

end BlockKind

namespace Block

structure Proper (block : Block) : Prop where
  kind : block.kind.Proper
  data : Json.Proper (.object block.data)

def codec : Codec Block := ⟨toJson, ofJson?⟩

variable {block : Block}

theorem Proper.ofJson?_toJson (proper : block.Proper) : ofJson? block.toJson = some block := by
  have kind := proper.kind.ofName_name
  simp [ofJson?, toJson, Json.asRecord?, Json.lookup, Json.required?, Json.orDefault?,
    Json.asText?, Json.asObject?, kind]

theorem Proper.toJson (proper : block.Proper) : block.toJson.Proper := by
  refine Json.proper_record ["data", "id", "type"] (by decide) rfl ?_
  simp only [List.forall_mem_cons]
  exact ⟨proper.data, .text _, .text _, nofun⟩

theorem Proper.keeps (proper : block.Proper) : codec.Keeps block :=
  Codec.keeps_of_proper proper.toJson proper.ofJson?_toJson

/-- The data of a block are less deep than the value it is taken from. -/
theorem levels_of_ofJson? {value : Json} (decoded : ofJson? value = some block) :
    block.data = [] ∨ (Json.object block.data).levels < value.levels := by
  obtain ⟨parts, taken, decoded⟩ := Option.bind_eq_some_iff.mp decoded
  split at decoded
  next id kind data =>
    obtain ⟨_, _, decoded⟩ := Option.bind_eq_some_iff.mp decoded
    obtain ⟨_, _, decoded⟩ := Option.bind_eq_some_iff.mp decoded
    obtain ⟨fields, present, same⟩ := Option.bind_eq_some_iff.mp decoded
    cases same
    cases data with
    | none =>
      cases present
      exact .inl rfl
    | some data =>
      refine .inr ?_
      obtain rfl : data = .object fields := by
        cases data <;> cases present
        rfl
      exact Json.levels_of_asRecord? taken (by simp)
  next => cases decoded

/-- No text holds a block whose data are deeper than what the reader can enter within the block. -/
theorem levels_of_read? {text : String} (read : (Json.read? text).bind ofJson? = some block) :
    (Json.object block.data).levels < Json.greatestDepth := by
  obtain ⟨value, found, decoded⟩ := Option.bind_eq_some_iff.mp read
  have shallow := Json.levels_of_read? found
  rcases levels_of_ofJson? decoded with empty | less
  · rw [empty]
    decide
  · exact Nat.lt_of_lt_of_le less shallow

end Block

/-! ### Events -/

namespace Event

/-- The chat of an event, and the number of a message. -/
def numbers : Event → List Int
  | .message message => message.chat :: message.messageId.toList
  | .callback callback => [callback.chat]

/-- The numbers of an event are of 64 bits. -/
def Proper (event : Event) : Prop :=
  ∀ number ∈ event.numbers, -2 ^ 63 ≤ number ∧ number < 2 ^ 63

def codec : Codec Event := ⟨toJson, ofJson?⟩

variable {event : Event}

theorem Proper.ofJson?_toJson (proper : event.Proper) : ofJson? event.toJson = some event := by
  cases event with
  | message message =>
    obtain ⟨chat, messageId, text⟩ := message
    obtain ⟨least, greatest⟩ := proper chat List.mem_cons_self
    have chatRead := Json.asSigned?_ofInt least greatest
    have textRead := Json.asNullable?_ofText? text
    cases messageId with
    | none =>
      simp [ofJson?, Event.toJson, ofKind?, messageOfJson?, Json.asRecord?, Json.lookup,
        Json.required?, Json.orDefault?, Json.asText?, Json.asNullable?_null, chatRead, textRead]
    | some id =>
      obtain ⟨least, greatest⟩ := proper id (.tail _ List.mem_cons_self)
      have idRead := Json.asSigned?_ofInt least greatest
      simp [ofJson?, Event.toJson, ofKind?, messageOfJson?, Json.asRecord?, Json.lookup,
        Json.required?, Json.orDefault?, Json.asText?, Json.asNullable?_ofInt, chatRead, idRead,
        textRead]
  | callback callback =>
    obtain ⟨least, greatest⟩ := proper callback.chat List.mem_cons_self
    have chatRead := Json.asSigned?_ofInt least greatest
    have dataRead := Json.asNullable?_ofText? callback.data
    simp [ofJson?, Event.toJson, ofKind?, callbackOfJson?, Json.asRecord?, Json.lookup,
      Json.required?, Json.orDefault?, Json.asText?, chatRead, dataRead]

theorem Proper.toJson (proper : event.Proper) : event.toJson.Proper := by
  cases event with
  | message message =>
    obtain ⟨chat, messageId, _⟩ := message
    obtain ⟨least, greatest⟩ := proper chat List.mem_cons_self
    have chat := Json.proper_ofInt least greatest
    refine Json.proper_record ["chat_id", "kind", "message_id", "text"] (by decide) rfl ?_
    simp only [List.forall_mem_cons]
    refine ⟨chat, .text _, ?_, Json.proper_ofText? _, nofun⟩
    cases messageId with
    | none => exact .null
    | some id =>
      obtain ⟨least, greatest⟩ := proper id (.tail _ List.mem_cons_self)
      exact Json.proper_ofInt least greatest
  | callback callback =>
    obtain ⟨least, greatest⟩ := proper callback.chat List.mem_cons_self
    have chat := Json.proper_ofInt least greatest
    refine Json.proper_record ["chat_id", "data", "id", "kind"] (by decide) rfl ?_
    simp only [List.forall_mem_cons]
    exact ⟨chat, Json.proper_ofText? _, .text _, .text _, nofun⟩

theorem Proper.keeps (proper : event.Proper) : codec.Keeps event :=
  Codec.keeps_of_proper proper.toJson proper.ofJson?_toJson

end Event

/-! ### Bots -/

theorem BotStatus.ofJson?_toJson (status : BotStatus) : ofJson? status.toJson = some status := by
  cases status <;> rfl

namespace Bot

structure Proper (bot : Bot) : Prop where
  blocks : ∀ block ∈ bot.blocks, block.Proper
  createdAt : bot.createdAt.Proper

def codec (now : Moment) : Codec Bot := ⟨toJson, ofJson? now⟩

variable {bot : Bot}

theorem Proper.ofJson?_toJson (proper : bot.Proper) (now : Moment) :
    ofJson? now bot.toJson = some bot := by
  have blocks := Json.asListOf?_map fun block member => (proper.blocks block member).ofJson?_toJson
  have status := BotStatus.ofJson?_toJson bot.status
  have createdAt := proper.createdAt.parse?_write
  simp [ofJson?, toJson, Json.asRecord?, Json.lookup, Json.required?, Json.orDefault?,
    Json.asText?, blocks, status, createdAt]

theorem Proper.toJson (proper : bot.Proper) : bot.toJson.Proper := by
  refine Json.proper_record ["blocks", "created_at", "id", "name", "status", "token"] (by decide)
    rfl ?_
  simp only [List.forall_mem_cons]
  exact ⟨Json.proper_map fun block member => (proper.blocks block member).toJson, .text _, .text _,
    .text _, .text _, .text _, nofun⟩

theorem Proper.keeps (proper : bot.Proper) (now : Moment) : (codec now).Keeps bot :=
  Codec.keeps_of_proper proper.toJson (proper.ofJson?_toJson now)

end Bot

namespace BotPatch

/-- The blocks of an update, if it has any, can be kept. -/
def Proper (patch : BotPatch) : Prop :=
  ∀ blocks ∈ patch.blocks, ∀ block ∈ blocks, block.Proper

def codec : Codec BotPatch := ⟨toJson, ofJson?⟩

variable {patch : BotPatch}

theorem Proper.ofJson?_toJson (proper : patch.Proper) : ofJson? patch.toJson = some patch := by
  obtain ⟨name, token, blocks⟩ := patch
  have nameRead := Json.asNullable?_ofText? name
  have tokenRead := Json.asNullable?_ofText? token
  cases blocks with
  | none =>
    simp [ofJson?, BotPatch.toJson, Json.asRecord?, Json.lookup, Json.orDefault?,
      Json.asNullable?_null, nameRead, tokenRead]
  | some blocks =>
    have blocksRead :=
      Json.asListOf?_map fun block member => (proper blocks rfl block member).ofJson?_toJson
    simp [ofJson?, BotPatch.toJson, Json.asRecord?, Json.lookup, Json.orDefault?,
      Json.asNullable?_list, nameRead, tokenRead, blocksRead]

theorem Proper.toJson (proper : patch.Proper) : patch.toJson.Proper := by
  obtain ⟨name, token, blocks⟩ := patch
  refine Json.proper_record ["blocks", "name", "token"] (by decide) rfl ?_
  simp only [List.forall_mem_cons]
  refine ⟨?_, Json.proper_ofText? _, Json.proper_ofText? _, nofun⟩
  cases blocks with
  | none => exact .null
  | some blocks => exact Json.proper_map fun block member => (proper blocks rfl block member).toJson

theorem Proper.keeps (proper : patch.Proper) : codec.Keeps patch :=
  Codec.keeps_of_proper proper.toJson proper.ofJson?_toJson

end BotPatch

end BotHost
