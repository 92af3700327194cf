/-
The store of bots as a map that remembers the order of insertion.

A catalogue is such a map as one would draw it: the identifiers in their order, and what stands under
each of them. Nothing is searched for in it and nothing can stand in it twice, so what a call does to it
can be read off. A store that begins with the same bots answers every sequence of calls in the same way
and always holds the bots of the catalogue in the order of the catalogue. The reason is that a store
never has two bots with one identifier: its operations look for the first or for every bot with an
identifier, and these are the same bot.
-/

import BotHost.Proofs.Manager.Lookup
import Mathlib.Data.List.Induction

namespace BotHost

/-! ### Catalogues -/

theorem eraseDups_concat (ids : List String) (id : String) :
    (ids ++ [id]).eraseDups = if id ∈ ids then ids.eraseDups else ids.eraseDups ++ [id] := by
  have alone : [id].eraseDups = [id] := by
    rw [List.eraseDups_cons, List.filter_nil, List.eraseDups_nil]
  rw [List.eraseDups_append, List.removeAll]
  split
  next before =>
    rw [List.filter_cons_of_neg (by simpa using before), List.filter_nil, List.eraseDups_nil,
      List.append_nil]
  next new =>
    rw [List.filter_cons_of_pos (by simpa using new), List.filter_nil, alone]

theorem nodup_eraseDups (ids : List String) : ids.eraseDups.Nodup := by
  induction ids using List.reverseRecOn with
  | nil => exact List.nodup_nil
  | append_singleton ids id inductionHypothesis =>
    rw [eraseDups_concat]
    split
    · exact inductionHypothesis
    next new =>
      refine List.nodup_append.mpr ⟨inductionHypothesis, List.nodup_singleton _, ?_⟩
      rintro other member _ last rfl
      exact new (List.mem_singleton.mp last ▸ List.mem_eraseDups.mp member)

/-- A map from identifiers to bots, and the order in which they have come. -/
structure Catalogue where
  order : List String
  bot? : String → Option Bot
  distinct : order.Nodup
  mem_order : ∀ {id : String}, id ∈ order ↔ ∃ bot, bot? id = some bot
  named : ∀ {id : String} {bot : Bot}, bot? id = some bot → bot.id = id

namespace Catalogue

/-- The bots in their order. -/
def bots (catalogue : Catalogue) : List Bot := catalogue.order.filterMap catalogue.bot?

/-- The first of the bots with one identifier stands for it, where the first of them has come. -/
def ofList (bots : List Bot) : Catalogue where
  order := (bots.map Bot.id).eraseDups
  bot? id := bots.find? fun bot => bot.id == id
  distinct := nodup_eraseDups _
  mem_order := by
    intro id
    rw [List.mem_eraseDups, List.mem_map, ← Option.isSome_iff_exists, List.find?_isSome]
    simp
  named := by
    intro id bot found
    simpa using List.find?_some found

/-- A bot at the end of a list is found unless one of its name comes before it. -/
theorem bot?_ofList_concat (bots : List Bot) (bot : Bot) (id : String) :
    (ofList (bots ++ [bot])).bot? id =
      ((ofList bots).bot? id).or (if bot.id = id then some bot else none) := by
  show (bots ++ [bot]).find? _ = (bots.find? _).or _
  rw [List.find?_append, List.find?_singleton]
  simp

theorem order_ofList_concat (bots : List Bot) (bot : Bot) :
    (ofList (bots ++ [bot])).order =
      if (ofList bots).bot? bot.id = none then (ofList bots).order ++ [bot.id]
      else (ofList bots).order := by
  have concat : (ofList (bots ++ [bot])).order = (bots.map Bot.id ++ [bot.id]).eraseDups := by
    rw [← List.map_singleton, ← List.map_append]
    rfl
  have listed : bot.id ∈ bots.map Bot.id ↔ (ofList bots).bot? bot.id ≠ none := by
    rw [← List.mem_eraseDups, Option.ne_none_iff_exists']
    exact (ofList bots).mem_order
  rw [concat, eraseDups_concat]
  simp only [listed, ne_eq, ite_not]
  rfl

/-- A bot that comes last. -/
def add (catalogue : Catalogue) (bot : Bot) (absent : catalogue.bot? bot.id = none) : Catalogue where
  order := catalogue.order ++ [bot.id]
  bot? := Function.update catalogue.bot? bot.id (some bot)
  distinct := by
    refine List.nodup_append.mpr ⟨catalogue.distinct, List.nodup_singleton _, ?_⟩
    rintro id member other last rfl
    obtain rfl := List.mem_singleton.mp last
    obtain ⟨present, found⟩ := catalogue.mem_order.mp member
    exact absurd (absent.symm.trans found) nofun
  mem_order := by
    intro id
    rw [List.mem_append, List.mem_singleton, catalogue.mem_order]
    by_cases same : id = bot.id <;> simp [same]
  named := by
    intro id found there
    by_cases same : id = bot.id
    · subst same
      simp only [Function.update_self, Option.some.injEq] at there
      rw [there]
    · rw [Function.update_of_ne same] at there
      exact catalogue.named there

/-- Something else stands under an identifier, at its old place. -/
def replace (catalogue : Catalogue) (id : String) (change : Bot → Bot)
    (same : ∀ bot, (change bot).id = bot.id) : Catalogue where
  order := catalogue.order
  bot? := Function.update catalogue.bot? id ((catalogue.bot? id).map change)
  distinct := catalogue.distinct
  mem_order := by
    intro other
    rw [catalogue.mem_order]
    by_cases here : other = id <;> simp [here]
  named := by
    intro other found there
    by_cases here : other = id
    · subst here
      simp only [Function.update_self, Option.map_eq_some_iff] at there
      obtain ⟨bot, there, rfl⟩ := there
      exact (same bot).trans (catalogue.named there)
    · rw [Function.update_of_ne here] at there
      exact catalogue.named there

/-- Nothing stands under an identifier any more; the others keep their order. -/
def drop (catalogue : Catalogue) (id : String) : Catalogue where
  order := catalogue.order.filter (· ≠ id)
  bot? := Function.update catalogue.bot? id none
  distinct := catalogue.distinct.filter _
  mem_order := by
    intro other
    rw [List.mem_filter, catalogue.mem_order]
    by_cases here : other = id <;> simp [here]
  named := by
    intro other found there
    by_cases here : other = id
    · subst here
      simp at there
    · rw [Function.update_of_ne here] at there
      exact catalogue.named there

end Catalogue

/-! ### Calls -/

inductive StoreCall where
  | get (id : String)
  | list
  | insert (bot : Bot)
  | update (id : String) (patch : BotPatch)
  | setStatus (id : String) (status : BotStatus)
  | remove (id : String)
deriving DecidableEq, Repr

inductive StoreAnswer where
  | found (bot : Option Bot)
  | listed (bots : List Bot)
  | inserted (result : Except StoreFault Unit)
  | updated (result : Except StoreFault Bot)
  | statusSet (result : Except StoreFault Unit)
  | removed (present : Bool)
deriving DecidableEq, Repr

/-- Makes one call after another; gives the answers and what has become of the state. -/
def answers {State : Type} (answer : State → StoreCall → StoreAnswer × State) (state : State) :
    List StoreCall → List StoreAnswer × State
  | [] => ([], state)
  | call :: rest =>
    let (first, next) := answer state call
    let (others, last) := answers answer next rest
    (first :: others, last)

/-- The answer of a store. A call that fails leaves the store as it was. -/
def BotStore.answer (store : BotStore) : StoreCall → StoreAnswer × BotStore
  | .get id => (.found (store.find? id), store)
  | .list => (.listed store.bots, store)
  | .insert bot =>
    match store.insert bot with
    | .ok next => (.inserted (.ok ()), next)
    | .error fault => (.inserted (.error fault), store)
  | .update id patch =>
    match store.update id patch with
    | .ok (bot, next) => (.updated (.ok bot), next)
    | .error fault => (.updated (.error fault), store)
  | .setStatus id status =>
    match store.setStatus id status with
    | .ok next => (.statusSet (.ok ()), next)
    | .error fault => (.statusSet (.error fault), store)
  | .remove id =>
    let (present, next) := store.remove id
    (.removed present, next)

/-- What a patch makes of a bot. It gives a name, a token and blocks, or leaves them as they are. -/
def BotPatch.patched (patch : BotPatch) (bot : Bot) : Bot :=
  ⟨bot.id, patch.name.getD bot.name, patch.token.getD bot.token, patch.blocks.getD bot.blocks,
    bot.status, bot.createdAt⟩

/-- The answer of a catalogue. -/
def Catalogue.answer (catalogue : Catalogue) : StoreCall → StoreAnswer × Catalogue
  | .get id => (.found (catalogue.bot? id), catalogue)
  | .list => (.listed catalogue.bots, catalogue)
  | .insert bot =>
    if absent : catalogue.bot? bot.id = none then (.inserted (.ok ()), catalogue.add bot absent)
    else (.inserted (.error (.alreadyExists bot.id)), catalogue)
  | .update id patch =>
    match catalogue.bot? id with
    | some bot =>
      (.updated (.ok (patch.patched bot)), catalogue.replace id patch.patched fun _ => rfl)
    | none => (.updated (.error (.notFound id)), catalogue)
  | .setStatus id status =>
    match catalogue.bot? id with
    | some _ =>
      (.statusSet (.ok ()),
        catalogue.replace id (fun bot => { bot with status }) fun _ => rfl)
    | none => (.statusSet (.error (.notFound id)), catalogue)
  | .remove id => (.removed (catalogue.bot? id).isSome, catalogue.drop id)

/-! ### Stores -/

namespace BotStore

variable {store next : BotStore}

/-- A store with distinct identifiers is what is found under them in their order. -/
theorem bots_eq_filterMap (distinct : store.ids.Nodup) :
    store.bots = store.ids.filterMap store.find? := by
  have each (bots : List Bot) (distinct : (bots.map Bot.id).Nodup) (find? : String → Option Bot)
      (own : ∀ bot ∈ bots, find? bot.id = some bot) :
      bots = (bots.map Bot.id).filterMap find? := by
    induction bots with
    | nil => rfl
    | cons bot rest inductionHypothesis =>
      rw [List.map_cons, List.filterMap_cons_some (own bot List.mem_cons_self),
        ← inductionHypothesis (List.nodup_cons.mp distinct).2
          fun other member => own other (List.mem_cons_of_mem _ member)]
  refine each store.bots distinct store.find? fun bot member => ?_
  unfold find?
  cases found : store.bots.find? fun other => other.id == bot.id with
  | none => simpa using List.find?_eq_none.mp found bot member
  | some other =>
    have same : other.id = bot.id := by simpa using List.find?_some found
    rw [List.inj_on_of_nodup_map distinct (List.mem_of_find?_eq_some found) member same]

/-- A change that keeps the name keeps the order of names. -/
theorem ids_changeFirst (id : String) (change : Bot → Bot) (same : ∀ bot, (change bot).id = bot.id)
    (bots : List Bot) : (changeFirst id change bots).map Bot.id = bots.map Bot.id := by
  induction bots with
  | nil => rfl
  | cons bot rest inductionHypothesis =>
    unfold changeFirst
    split
    · rw [List.map_cons, same, List.map_cons]
    · rw [List.map_cons, inductionHypothesis, List.map_cons]

/-- Removing a bot takes its name out of the order. -/
theorem ids_remove (store : BotStore) (id : String) :
    (store.remove id).2.ids = store.ids.filter (· ≠ id) := by
  simp only [remove, ids, List.filter_map]
  congr 2
  funext bot
  by_cases same : bot.id = id <;> simp [same]

/-! ### Stores and catalogues -/

/-- A store holds what stands in a catalogue. -/
structure Holds (store : BotStore) (catalogue : Catalogue) : Prop where
  ids : store.ids = catalogue.order
  find? : ∀ id, store.find? id = catalogue.bot? id

variable {catalogue : Catalogue}

namespace Holds

theorem bots (holds : store.Holds catalogue) : store.bots = catalogue.bots := by
  have distinct : store.ids.Nodup := by
    rw [holds.ids]
    exact catalogue.distinct
  rw [bots_eq_filterMap distinct, holds.ids, funext holds.find?, Catalogue.bots]

theorem contains (holds : store.Holds catalogue) (id : String) :
    store.contains id = (catalogue.bot? id).isSome := by
  rw [BotStore.contains, holds.find?]

/-- A bot of a new name is added to store and catalogue alike. -/
theorem insert (holds : store.Holds catalogue) {bot : Bot} (absent : catalogue.bot? bot.id = none) :
    store.insert bot = .ok ⟨store.bots ++ [bot]⟩ ∧
      Holds ⟨store.bots ++ [bot]⟩ (catalogue.add bot absent) := by
  have inserted : store.insert bot = .ok ⟨store.bots ++ [bot]⟩ := by
    rw [BotStore.insert, holds.contains, absent, Option.isSome_none]
    rfl
  refine ⟨inserted, ?_, fun id => ?_⟩
  · show (store.bots ++ [bot]).map Bot.id = catalogue.order ++ [bot.id]
    rw [List.map_append, ← holds.ids]
    rfl
  · rw [find?_insert store inserted, holds.find?]
    exact (Function.update_apply ..).symm

/-- A bot of a name that is there is refused. -/
theorem insert_of_present (holds : store.Holds catalogue) {bot : Bot}
    (present : catalogue.bot? bot.id ≠ none) :
    store.insert bot = .error (.alreadyExists bot.id) := by
  rw [BotStore.insert, holds.contains, Option.isSome_iff_ne_none.mpr present, if_pos rfl]

/-- A record is replaced in store and catalogue alike. -/
theorem replace (holds : store.Holds catalogue) (id : String) (change : Bot → Bot)
    (same : ∀ bot, (change bot).id = bot.id) :
    Holds ⟨changeFirst id change store.bots⟩ (catalogue.replace id change same) where
  ids := (ids_changeFirst id change same store.bots).trans holds.ids
  find? other := by
    refine (find?_changeFirst store.bots id change same other).trans ?_
    show (if other = id then (store.find? other).map change else store.find? other) =
      Function.update catalogue.bot? id ((catalogue.bot? id).map change) other
    rw [Function.update_apply, holds.find?]
    split
    next here => rw [here]
    next => rfl

/-- A bot is dropped from store and catalogue alike. -/
theorem remove (holds : store.Holds catalogue) (id : String) :
    (store.remove id).2.Holds (catalogue.drop id) where
  ids := by
    rw [ids_remove, holds.ids]
    rfl
  find? other := by
    rw [find?_remove, holds.find?]
    show _ = Function.update catalogue.bot? id none other
    rw [Function.update_apply]

/-- Store and catalogue answer a call alike, and agree behind it. -/
theorem answer (holds : store.Holds catalogue) (call : StoreCall) :
    (store.answer call).1 = (catalogue.answer call).1 ∧
      (store.answer call).2.Holds (catalogue.answer call).2 := by
  cases call with
  | get id => exact ⟨congrArg _ (holds.find? id), holds⟩
  | list => exact ⟨congrArg _ holds.bots, holds⟩
  | insert bot =>
    simp only [BotStore.answer, Catalogue.answer]
    by_cases absent : catalogue.bot? bot.id = none
    · obtain ⟨inserted, later⟩ := holds.insert absent
      rw [inserted, dif_pos absent]
      exact ⟨rfl, later⟩
    · rw [holds.insert_of_present absent, dif_neg absent]
      exact ⟨rfl, holds⟩
  | update id patch =>
    simp only [BotStore.answer, Catalogue.answer, BotStore.update]
    rw [holds.find?]
    cases catalogue.bot? id with
    | none => exact ⟨rfl, holds⟩
    | some bot => exact ⟨rfl, holds.replace id patch.patched fun _ => rfl⟩
  | setStatus id status =>
    simp only [BotStore.answer, Catalogue.answer, BotStore.setStatus]
    rw [holds.contains]
    cases catalogue.bot? id with
    | none => exact ⟨rfl, holds⟩
    | some bot => exact ⟨rfl, holds.replace id (fun bot => { bot with status }) fun _ => rfl⟩
  | remove id => exact ⟨congrArg _ (holds.contains id), holds.remove id⟩

/-- Store and catalogue answer all calls alike, and agree behind them. -/
theorem after (holds : store.Holds catalogue) (calls : List StoreCall) :
    (answers BotStore.answer store calls).1 = (answers Catalogue.answer catalogue calls).1 ∧
      (answers BotStore.answer store calls).2.Holds
        (answers Catalogue.answer catalogue calls).2 := by
  induction calls generalizing store catalogue with
  | nil => exact ⟨rfl, holds⟩
  | cons call rest inductionHypothesis =>
    obtain ⟨same, later⟩ := holds.answer call
    obtain ⟨others, last⟩ := inductionHypothesis later
    exact ⟨congrArg₂ _ same others, last⟩

end Holds

theorem ofList_concat (bots : List Bot) (bot : Bot) :
    ofList (bots ++ [bot]) =
      match (ofList bots).insert bot with
      | .ok store => store
      | .error _ => ofList bots := by
  rw [ofList, List.foldl_append]
  rfl

/-- A store that is made from a list holds what a catalogue of the list holds. -/
theorem holds_ofList (bots : List Bot) : (ofList bots).Holds (Catalogue.ofList bots) := by
  induction bots using List.reverseRecOn with
  | nil => exact ⟨rfl, fun _ => rfl⟩
  | append_singleton bots bot holds =>
    have order := Catalogue.order_ofList_concat bots bot
    have found := Catalogue.bot?_ofList_concat bots bot
    rw [ofList_concat]
    by_cases absent : (Catalogue.ofList bots).bot? bot.id = none
    · obtain ⟨inserted, ids, added⟩ := holds.insert absent
      rw [inserted]
      refine ⟨?_, fun id => ?_⟩
      · rw [ids, order, if_pos absent]
        rfl
      · rw [added, found]
        show Function.update _ _ _ id = _
        rw [Function.update_apply]
        by_cases same : id = bot.id
        · rw [if_pos same, if_pos same.symm, same, absent, Option.none_or]
        · rw [if_neg same, if_neg (Ne.symm same), Option.or_none]
    · rw [holds.insert_of_present absent]
      refine ⟨?_, fun id => ?_⟩
      · rw [order, if_neg absent, ← holds.ids]
      · rw [found, ← holds.find?]
        by_cases same : bot.id = id
        · subst same
          obtain ⟨present, there⟩ := Option.ne_none_iff_exists'.mp absent
          rw [holds.find?, there, Option.some_or]
        · rw [if_neg same, Option.or_none]

/-- Whatever is asked of a store, and whatever it began with, it answers as a catalogue does that began
with the same bots, and holds the same bots in the same order. -/
theorem answers_as_catalogue (seeds : List Bot) (calls : List StoreCall) :
    (answers BotStore.answer (ofList seeds) calls).1 =
        (answers Catalogue.answer (.ofList seeds) calls).1 ∧
      (answers BotStore.answer (ofList seeds) calls).2.bots =
        (answers Catalogue.answer (.ofList seeds) calls).2.bots ∧
      (answers BotStore.answer (ofList seeds) calls).2.ids.Nodup := by
  obtain ⟨same, holds⟩ := (holds_ofList seeds).after calls
  refine ⟨same, holds.bots, ?_⟩
  rw [holds.ids]
  exact Catalogue.distinct _

end BotStore

end BotHost
