/-
What the service tells a bot.

The service numbers whatever happens in the chats of a bot, and serves it as an object: the number, and
a message or a pressed button, each of them an object with fields of its own. How such an object looks is
said without reading it: which fields it has, each of them once, and which it does not have. Anything else
may stand beside these, and the fields may come in any order. A reply that carries news is read as that
news, number by number and event by event.
-/

import BotHost.Proofs.Telegram.Verdicts
import Mathlib.Data.List.Forall2
import Mathlib.Data.List.Nodup

namespace BotHost

/-! ### Fields of objects -/

namespace Json

/-- The values that stand under a name in an object, in their order. -/
def valuesOf (name : String) : Json → List Json
  | .object fields => (fields.filter (·.1 == name)).map Prod.snd
  | _ => []

/-- The object has the field, once and with such a value. -/
def Has (value : Json) (name : String) (such : Json → Prop) : Prop :=
  ∃ part, value.valuesOf name = [part] ∧ such part

/-- The object does not have the field, or has it once and with nothing in it. -/
def Lacks (value : Json) (name : String) : Prop :=
  value.valuesOf name = [] ∨ value.valuesOf name = [.null]

/-- The object has the field if there is something to be told in it. -/
def MayHave {Told : Type} (value : Json) (name : String) (such : Told → Json → Prop) :
    Option Told → Prop
  | some told => value.Has name (such told)
  | none => value.Lacks name

/-- A whole number of 64 bits with a sign. -/
def IsNumber (number : Int) (value : Json) : Prop :=
  value = .number (.integer number) ∧ -0x8000000000000000 ≤ number ∧ number ≤ 0x7fffffffffffffff

def IsText (text : String) (value : Json) : Prop := value = .text text

variable {value : Json} {name : String} {such : Json → Prop}

theorem Has.length_le (has : value.Has name such) : (value.valuesOf name).length ≤ 1 := by
  obtain ⟨part, sole, -⟩ := has
  exact Nat.le_of_eq (congrArg List.length sole)

theorem Lacks.length_le (lacks : value.Lacks name) : (value.valuesOf name).length ≤ 1 := by
  rcases lacks with none | null
  · exact Nat.le_succ_of_le (Nat.le_of_eq (congrArg List.length none))
  · exact Nat.le_of_eq (congrArg List.length null)

theorem MayHave.length_le {Told : Type} {such : Told → Json → Prop} {told : Option Told}
    (may : value.MayHave name such told) : (value.valuesOf name).length ≤ 1 := by
  cases told with
  | none => exact Lacks.length_le may
  | some told => exact Has.length_le may

/-- Only an object has fields. -/
theorem Has.isObject (has : value.Has name such) : ∃ fields, value = .object fields := by
  obtain ⟨part, sole, -⟩ := has
  cases value with
  | object fields => exact ⟨fields, rfl⟩
  | _ => cases sole

/-- The first of the values of a field is the one that is looked up. -/
theorem head?_valuesOf (name : String) (fields : List (String × Json)) :
    (valuesOf name (.object fields)).head? = lookup name fields := by
  induction fields with
  | nil => rfl
  | cons field rest inductionHypothesis =>
    obtain ⟨other, part⟩ := field
    unfold lookup
    split
    next same => simp [valuesOf, same]
    next different =>
      rw [← inductionHypothesis, valuesOf, valuesOf, List.filter_cons_of_neg]
      simpa using Ne.symm different

/-- An object has a name as often as it has values of it. -/
theorem count_keys (name : String) (fields : List (String × Json)) :
    (fields.map Prod.fst).count name = (valuesOf name (.object fields)).length := by
  rw [valuesOf, List.length_map, ← List.countP_eq_length_filter, List.count, List.countP_map]
  rfl

theorem eraseDups_of_nodup {names : List String} (distinct : names.Nodup) :
    names.eraseDups = names := by
  induction names with
  | nil => rfl
  | cons name rest inductionHypothesis =>
    obtain ⟨new, distinct⟩ := List.nodup_cons.mp distinct
    have kept : rest.filter (fun other => !other == name) = rest := by
      refine List.filter_eq_self.mpr fun other among => ?_
      have different : other ≠ name := fun same => new (same ▸ among)
      simpa using different
    rw [List.eraseDups_cons, kept, inductionHypothesis distinct]

/-- An object that has none of the fields twice is taken apart into them. -/
theorem uniqueRecord?_eq_some (names : List String) (has : value.Has name such)
    (single : ∀ name ∈ names, (value.valuesOf name).length ≤ 1) :
    Telegram.uniqueRecord? names value =
      some (names.map fun name => (value.valuesOf name).head?) := by
  obtain ⟨fields, rfl⟩ := has.isObject
  have distinct : ((fields.map Prod.fst).filter names.contains).Nodup := by
    refine List.nodup_iff_count_le_one.mpr fun name => ?_
    by_cases among : name ∈ names
    · rw [List.count_filter (by simpa using among), count_keys]
      exact single name among
    · rw [List.count_eq_zero_of_not_mem]
      · exact Nat.zero_le 1
      · simp [among]
  unfold Telegram.uniqueRecord?
  dsimp only
  rw [eraseDups_of_nodup distinct, if_pos rfl, asRecord?]
  simp only [head?_valuesOf]

/-! ### Reading fields -/

variable {Told Read : Type} {decode : Json → Option Read}

/-- A required field that is there is read. -/
theorem required?_of_has {read : Read} (has : value.Has name such)
    (reads : ∀ part, such part → decode part = some read) :
    required? decode (value.valuesOf name).head? = some read := by
  obtain ⟨part, sole, holds⟩ := has
  rw [sole]
  exact reads part holds

theorem optional?_of_has {read : Read} (has : value.Has name such) (nothing : decode .null = none)
    (reads : ∀ part, such part → decode part = some read) :
    Telegram.optional? decode (value.valuesOf name).head? = some (some read) := by
  obtain ⟨part, sole, holds⟩ := has
  have read := reads part holds
  rw [sole]
  cases part with
  | null => cases nothing.symm.trans read
  | _ => exact congrArg (Option.map some) read

/-- An optional field that is missing is read as nothing. -/
theorem optional?_of_lacks (lacks : value.Lacks name) :
    Telegram.optional? decode (value.valuesOf name).head? = some none := by
  rcases lacks with none | null
  · rw [none]
    rfl
  · rw [null]
    rfl

/-- What may be told in a field is read, each content as `meant` says. -/
theorem optional?_of_mayHave {such : Told → Json → Prop} {told : Option Told} (meant : Told → Read)
    (may : value.MayHave name such told) (nothing : decode .null = none)
    (reads : ∀ told part, such told part → decode part = some (meant told)) :
    Telegram.optional? decode (value.valuesOf name).head? = some (told.map meant) := by
  cases told with
  | none => exact optional?_of_lacks may
  | some told => exact optional?_of_has may nothing (reads told)

theorem asSigned?_of_isNumber {number : Int} (told : IsNumber number value) :
    asSigned? value = some number := by
  obtain ⟨rfl, least, greatest⟩ := told
  exact if_pos ⟨least, greatest⟩

theorem asText?_of_isText {text : String} (told : IsText text value) : asText? value = some text := by
  rw [IsText] at told
  rw [told]
  rfl

/-- A text that may be told is read as told, or as nothing. -/
theorem optional?_of_mayHave_text {text : Option String} (may : value.MayHave name IsText text) :
    Telegram.optional? asText? (value.valuesOf name).head? = some text := by
  have read := optional?_of_mayHave id may rfl fun text part => asText?_of_isText
  rwa [Option.map_id] at read

end Json

namespace Telegram

open Json (IsNumber IsText)

/-! ### News -/

/-- A message in a chat; it may be one without a text. -/
structure Post where
  chat : Int
  id : Int
  text : Option String
deriving DecidableEq, Repr

/-- What has happened: a message, or a button pressed by somebody, below a message if that is still known.
Much else may happen that no bot reacts to. -/
inductive Happening where
  | posted (post : Post)
  | pressed (id : String) (presser : Int) (post : Option Post) (data : Option String)
  | other
deriving DecidableEq, Repr

/-- What has happened, as the service keeps it for a bot. -/
structure News where
  number : Int
  happening : Happening
deriving DecidableEq, Repr

/-- What the bot is to react to. A button of which the message is not known belongs to the private chat of
who pressed it. -/
def News.event? (news : News) : Option Event :=
  match news.happening with
  | .posted post => some (.message ⟨post.chat, some post.id, post.text⟩)
  | .pressed id _ (some post) data => some (.callback ⟨id, post.chat, data⟩)
  | .pressed id presser none data => some (.callback ⟨id, presser, data⟩)
  | .other => none

/-! ### How news is served -/

/-- The object tells of a message. -/
structure Post.ToldBy (post : Post) (value : Json) : Prop where
  id : value.Has "message_id" (IsNumber post.id)
  chat : value.Has "chat" fun chat => chat.Has "id" (IsNumber post.chat)
  text : value.MayHave "text" IsText post.text

/-- The object tells of a pressed button. Who pressed it may have a name. -/
structure PressToldBy (id : String) (presser : Int) (post : Option Post) (data : Option String)
    (value : Json) : Prop where
  id : value.Has "id" (IsText id)
  presser : value.Has "from" fun user =>
    user.Has "id" (IsNumber presser) ∧ ∃ name, user.MayHave "username" IsText name
  post : value.MayHave "message" Post.ToldBy post
  data : value.MayHave "data" IsText data

/-- The object has what there is to be told of a happening, and not what there is to be told of another. -/
def Happening.ToldBy (value : Json) : Happening → Prop
  | .posted post => value.Has "message" post.ToldBy ∧ value.Lacks "callback_query"
  | .pressed id presser post data =>
    value.Lacks "message" ∧ value.Has "callback_query" (PressToldBy id presser post data)
  | .other => value.Lacks "message" ∧ value.Lacks "callback_query"

structure News.ToldBy (news : News) (value : Json) : Prop where
  number : value.Has "update_id" (IsNumber news.number)
  happening : news.happening.ToldBy value

/-- The body of the reply says that the call has succeeded, and lists objects that tell of this news one
after another. -/
inductive Reply.Carries (news : List News) : Reply → Prop
  | served {status : Nat} {body : String} (value : Json) (accepted : status ≠ 401)
      (written : Json.readAsWritten? body = some value) (succeeded : value.Has "ok" (· = .boolean true))
      (listed : value.Has "result" fun result =>
        ∃ items, result = .list items ∧ List.Forall₂ News.ToldBy news items)
      (described : ∃ description, value.MayHave "description" IsText description)
      (faultless : value.Lacks "error_code") : Carries news (.received status body)

/-! ### How news is read -/

/-- The update that news is read as. -/
def News.update (news : News) : Update := ⟨news.number, news.event?⟩

theorem chatOfJson?_of_has {chat : Int} {value : Json} (told : value.Has "id" (IsNumber chat)) :
    chatOfJson? value = some chat := by
  have fields := Json.uniqueRecord?_eq_some ["id"] told (by simpa using told.length_le)
  have read := Json.required?_of_has told fun part => Json.asSigned?_of_isNumber
  unfold chatOfJson?
  rw [fields]
  simpa using read

def Post.message (post : Post) : Message := ⟨post.chat, some post.id, post.text⟩

/-- A post that is told is read as its message. -/
theorem messageOfJson?_of_toldBy {post : Post} {value : Json} (told : post.ToldBy value) :
    messageOfJson? value = some post.message := by
  have fields := Json.uniqueRecord?_eq_some ["message_id", "chat", "text"] told.id
    (by simpa using ⟨told.id.length_le, told.chat.length_le, told.text.length_le⟩)
  have id := Json.required?_of_has told.id fun part => Json.asSigned?_of_isNumber
  have chat := Json.required?_of_has told.chat fun part => chatOfJson?_of_has
  have text := Json.optional?_of_mayHave_text told.text
  unfold messageOfJson?
  rw [fields]
  simp [id, chat, text, Post.message]

/-- Somebody who is told by number and name is read as they are. -/
theorem userOfJson?_of_has {id : Int} {name : Option String} {value : Json}
    (told : value.Has "id" (IsNumber id)) (named : value.MayHave "username" IsText name) :
    User.ofJson? value = some ⟨id, name⟩ := by
  have fields := Json.uniqueRecord?_eq_some ["id", "username"] told
    (by simpa using ⟨told.length_le, named.length_le⟩)
  have id := Json.required?_of_has told fun part => Json.asSigned?_of_isNumber
  have name := Json.optional?_of_mayHave_text named
  unfold User.ofJson?
  rw [fields]
  simp [id, name]

/-- A press that is told is read as a callback, in the chat of its post or of who pressed. -/
theorem callbackOfJson?_of_toldBy {id : String} {presser : Int} {post : Option Post}
    {data : Option String} {value : Json} (told : PressToldBy id presser post data value) :
    callbackOfJson? value = some ⟨id, (post.map Post.chat).getD presser, data⟩ := by
  have fields := Json.uniqueRecord?_eq_some ["id", "from", "message", "data"] told.id
    (by simpa using ⟨told.id.length_le, told.presser.length_le, told.post.length_le,
      told.data.length_le⟩)
  have id := Json.required?_of_has told.id fun part => Json.asText?_of_isText
  obtain ⟨user, sole, identified, name, named⟩ := told.presser
  have presser : Json.required? User.ofJson? (value.valuesOf "from").head? = some ⟨presser, name⟩ := by
    rw [sole]
    exact userOfJson?_of_has identified named
  have post := Json.optional?_of_mayHave Post.message told.post rfl fun post part => messageOfJson?_of_toldBy
  have data := Json.optional?_of_mayHave_text told.data
  unfold callbackOfJson?
  rw [fields]
  simp [id, presser, post, data, Post.message, Function.comp_def]

/-- An object that tells of news is read as that news. -/
theorem ofJson?_of_toldBy {news : News} {value : Json} (told : news.ToldBy value) :
    Update.ofJson? value = some news.update := by
  obtain ⟨number, happening⟩ := news
  obtain ⟨numbered, happened⟩ := told
  have id := Json.required?_of_has numbered fun part => Json.asSigned?_of_isNumber
  have read {message : Option Message} {callback : Option Callback}
      (single : (value.valuesOf "message").length ≤ 1 ∧
        (value.valuesOf "callback_query").length ≤ 1)
      (posted : optional? messageOfJson? (value.valuesOf "message").head? = some message)
      (pressed : optional? callbackOfJson? (value.valuesOf "callback_query").head? = some callback) :
      Update.ofJson? value =
        some ⟨number, (message.map Event.message).or (callback.map Event.callback)⟩ := by
    have fields := Json.uniqueRecord?_eq_some ["update_id", "message", "callback_query"] numbered
      (by simpa using ⟨numbered.length_le, single⟩)
    unfold Update.ofJson?
    rw [fields]
    simp [id, posted, pressed]
  cases happening with
  | posted post =>
    obtain ⟨posted, unpressed⟩ := happened
    exact read ⟨posted.length_le, unpressed.length_le⟩
      (Json.optional?_of_has posted rfl fun part => messageOfJson?_of_toldBy)
      (Json.optional?_of_lacks unpressed)
  | pressed id presser post data =>
    obtain ⟨unposted, pressed⟩ := happened
    rw [read ⟨unposted.length_le, pressed.length_le⟩ (Json.optional?_of_lacks unposted)
      (Json.optional?_of_has pressed rfl fun part => callbackOfJson?_of_toldBy)]
    cases post <;> rfl
  | other =>
    obtain ⟨unposted, unpressed⟩ := happened
    exact read ⟨unposted.length_le, unpressed.length_le⟩ (Json.optional?_of_lacks unposted)
      (Json.optional?_of_lacks unpressed)

/-- News that is told one after the other is read as its updates, in that order. -/
theorem updatesOfJson?_of_toldBy {news : List News} {items : List Json}
    (told : List.Forall₂ News.ToldBy news items) :
    updatesOfJson? (.list items) = some (news.map News.update) := by
  show items.mapM Update.ofJson? = _
  induction told with
  | nil => rfl
  | cons first _ inductionHypothesis =>
    rw [List.mapM_cons, ofJson?_of_toldBy first, inductionHypothesis]
    rfl

/-- A reply that carries news grants the updates of that news. -/
theorem granted?_of_carries {reply : Reply} {news : List News} (carries : reply.Carries news) :
    reply.granted? updatesOfJson? = some (news.map News.update) := by
  obtain @⟨status, body, value, accepted, written, succeeded, listed, ⟨text, described⟩, faultless⟩ :=
    carries
  obtain ⟨fields, object⟩ := succeeded.isObject
  have record := Json.uniqueRecord?_eq_some ["ok", "result", "description", "error_code"]
    succeeded (by simpa using
      ⟨succeeded.length_le, listed.length_le, described.length_le, faultless.length_le⟩)
  have ok : Json.required? Json.asBoolean? (value.valuesOf "ok").head? = some true :=
    Json.required?_of_has succeeded fun part same => same ▸ rfl
  have result : optional? updatesOfJson? (value.valuesOf "result").head? =
      some (some (news.map News.update)) := by
    refine Json.optional?_of_has listed rfl ?_
    rintro part ⟨items, rfl, told⟩
    exact updatesOfJson?_of_toldBy told
  have description := Json.optional?_of_mayHave_text described
  have code : optional? Json.asSigned? (value.valuesOf "error_code").head? = some none :=
    Json.optional?_of_lacks faultless
  have there : (Reply.received status body).envelope? updatesOfJson? =
      some ⟨true, some (news.map News.update), text, none⟩ := by
    show (Json.readAsWritten? body).bind (Envelope.ofJson? updatesOfJson?) = _
    rw [written, Option.bind_some, Envelope.ofJson?, record]
    subst object
    simp [ok, result, description, code, Envelope.holdsResult]
  simp [Reply.granted?, Reply.rejects, Reply.status?, there, accepted]

end Telegram

end BotHost
