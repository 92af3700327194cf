/-
Control locks: one lock for each bot, made when it is first asked for. Whoever waits for a lock gets
it in the order of asking, and a lock that is given back goes straight to the first who waits.

Locks are numbered and never reused. The table of names says which lock a bot has now; a deleted bot
loses its entry, and whoever still refers to the lock it had keeps referring to that one.
-/

namespace BotHost

/-- Tasks are numbered in the order of their making. -/
abbrev TaskNumber := Nat

structure Lock where
  holder : Option TaskNumber
  waiting : List TaskNumber
deriving Repr, DecidableEq

structure LockTable where
  locks : List Lock := []
  names : List (String × Nat) := []
deriving Repr, DecidableEq

namespace LockTable

/-- The number of a bot's lock. -/
def number? (table : LockTable) (bot : String) : Option Nat :=
  (table.names.find? fun entry => entry.1 == bot).map Prod.snd

/-- The number of a bot's lock, which is made if there is none. -/
def obtain (table : LockTable) (bot : String) : Nat × LockTable :=
  match table.number? bot with
  | some number => (number, table)
  | none =>
    (table.locks.length,
      { locks := table.locks ++ [⟨none, []⟩]
        names := (bot, table.locks.length) :: table.names })

/-- Asks for a lock: takes it if it is free, and waits for it otherwise. -/
def request (table : LockTable) (number : Nat) (task : TaskNumber) : LockTable :=
  { table with locks := table.locks.modify number fun lock =>
      match lock.holder with
      | none => { lock with holder := some task }
      | some _ => { lock with waiting := lock.waiting ++ [task] } }

/-- Whether a task has the lock. -/
def holds (table : LockTable) (number : Nat) (task : TaskNumber) : Bool :=
  match table.locks[number]? with
  | some lock => lock.holder == some task
  | none => false

/-- Gives a lock back; the first who waits has it next. -/
def release (table : LockTable) (number : Nat) : LockTable :=
  { table with locks := table.locks.modify number fun lock =>
      match lock.waiting with
      | [] => { lock with holder := none }
      | next :: rest => ⟨some next, rest⟩ }

/-- Takes a bot's lock out of the table of names. -/
def forget (table : LockTable) (bot : String) : LockTable :=
  { table with names := table.names.filter fun entry => entry.1 != bot }

end LockTable

end BotHost
