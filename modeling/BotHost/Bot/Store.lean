/-
The store of bots: a map from identifiers to records that remembers the order of insertion.
-/

import BotHost.Bot.Basic

namespace BotHost

/-- A failure of a store. -/
inductive StoreFault where
  | notFound (id : String)
  | alreadyExists (id : String)
  | backend (reason : String)
deriving DecidableEq, Repr

/-- The name of the kind of a fault. -/
def StoreFault.kind : StoreFault → String
  | .notFound _ => "NotFound"
  | .alreadyExists _ => "AlreadyExists"
  | .backend _ => "Backend"

def StoreFault.message : StoreFault → String
  | .notFound id => "no bot with id " ++ Text.quoted id
  | .alreadyExists id => "a bot with id " ++ Text.quoted id ++ " is already stored"
  | .backend reason => "repository backend error: " ++ reason

/-- The stored bots in the order of their insertion. -/
structure BotStore where
  bots : List Bot
deriving DecidableEq, Repr

namespace BotStore

def empty : BotStore := ⟨[]⟩

/-- The identifiers of the stored bots. -/
def ids (store : BotStore) : List String := store.bots.map Bot.id

def find? (store : BotStore) (id : String) : Option Bot :=
  store.bots.find? fun bot => bot.id == id

def contains (store : BotStore) (id : String) : Bool := (store.find? id).isSome

/-- Stores a bot behind the others. -/
def insert (store : BotStore) (bot : Bot) : Except StoreFault BotStore :=
  if store.contains bot.id then .error (.alreadyExists bot.id)
  else .ok ⟨store.bots ++ [bot]⟩

/-- A store with these bots; of those with one identifier, the first. -/
def ofList (bots : List Bot) : BotStore :=
  bots.foldl (fun store bot =>
    match store.insert bot with
    | .ok store => store
    | .error _ => store) empty

/-- Changes the first bot with an identifier. -/
def changeFirst (id : String) (change : Bot → Bot) : List Bot → List Bot
  | [] => []
  | bot :: rest =>
    if bot.id = id then change bot :: rest else bot :: changeFirst id change rest

/-- Applies a partial update; also gives the bot it results in. -/
def update (store : BotStore) (id : String) (patch : BotPatch) :
    Except StoreFault (Bot × BotStore) :=
  match store.find? id with
  | none => .error (.notFound id)
  | some bot => .ok (bot.apply patch, ⟨changeFirst id (·.apply patch) store.bots⟩)

def setStatus (store : BotStore) (id : String) (status : BotStatus) :
    Except StoreFault BotStore :=
  if store.contains id then
    .ok ⟨changeFirst id (fun bot => { bot with status := status }) store.bots⟩
  else .error (.notFound id)

/-- Removes a bot; also says whether it was there. -/
def remove (store : BotStore) (id : String) : Bool × BotStore :=
  (store.contains id, ⟨store.bots.filter fun bot => bot.id != id⟩)

end BotStore

end BotHost
