/-
What is read is not deep.

The reader counts the levels of lists and objects that it may still enter, so what it reads has no more
than that, whatever the text is. Sorting the fields of an object adds no level, and a record is taken
from the fields of a value, so its parts have at least one level less.
-/

import BotHost.Json.Decoder
import BotHost.Json.Reader
import BotHost.Proofs.Json.Reading
import Mathlib

namespace BotHost.Json

variable {value item : Json} {items done : List Json} {fields finished : List (String × Json)}
  {text rest : List Char} {fuel depth : Nat}

theorem levelsOfItems_le (shallow : ∀ item ∈ items, item.levels ≤ depth) :
    levelsOfItems items ≤ depth := by
  induction items with
  | nil => exact Nat.zero_le depth
  | cons first rest inductionHypothesis =>
    exact Nat.max_le.mpr ⟨shallow first List.mem_cons_self,
      inductionHypothesis fun item member => shallow item (.tail _ member)⟩

theorem levelsOfFields_le (shallow : ∀ field ∈ fields, field.2.levels ≤ depth) :
    levelsOfFields fields ≤ depth := by
  induction fields with
  | nil => exact Nat.zero_le depth
  | cons first rest inductionHypothesis =>
    exact Nat.max_le.mpr ⟨shallow first List.mem_cons_self,
      inductionHypothesis fun field member => shallow field (.tail _ member)⟩

/-! ### Reading -/

/-- Whatever is read with so much to go on for has no more levels than are allowed. -/
structure Bounded (fuel : Nat) : Prop where
  value {depth : Nat} {text rest : List Char} {value : Json}
    (read : readValue? fuel depth text = some (value, rest)) : value.levels ≤ depth
  items {depth : Nat} {text rest : List Char} {done items : List Json}
    (read : readItems? fuel depth done text = some (items, rest))
    (shallow : ∀ item ∈ done, item.levels ≤ depth) : ∀ item ∈ items, item.levels ≤ depth
  fields {depth : Nat} {text rest : List Char} {done fields : List (String × Json)}
    (read : readFields? fuel depth done text = some (fields, rest))
    (shallow : ∀ field ∈ done, field.2.levels ≤ depth) : ∀ field ∈ fields, field.2.levels ≤ depth

/-- What is made of something else than items or fields has no level at all. -/
theorem levels_le_of_map {Found : Type} {found : Option Found} {make : Found → Json × List Char}
    (read : found.map make = some (value, rest)) (flat : ∀ found, (make found).1.levels = 0) :
    value.levels ≤ depth := by
  obtain ⟨part, _, same⟩ := Option.map_eq_some_iff.mp read
  have levels := flat part
  rw [same] at levels
  exact Nat.le_trans (Nat.le_of_eq levels) (Nat.zero_le depth)

/-- A value is no deeper than the depth it is read with. -/
theorem Bounded.nextValue (bounded : Bounded fuel)
    (read : readValue? (fuel + 1) depth text = some (value, rest)) : value.levels ≤ depth := by
  unfold readValue? at read
  split at read
  · exact levels_le_of_map read fun _ => rfl
  · exact levels_le_of_map read fun _ => rfl
  · exact levels_le_of_map read fun _ => rfl
  · exact levels_le_of_map read fun _ => rfl
  · cases depth with
    | zero => cases read
    | succ depth =>
      dsimp only at read
      split at read
      · cases read
        exact Nat.le_add_left 1 depth
      · obtain ⟨_, found, same⟩ := Option.map_eq_some_iff.mp read
        cases same
        exact Nat.succ_le_succ (levelsOfItems_le (bounded.items found (List.forall_mem_nil _)))
  · cases depth with
    | zero => cases read
    | succ depth =>
      dsimp only at read
      split at read
      · cases read
        exact Nat.le_add_left 1 depth
      · obtain ⟨_, found, same⟩ := Option.map_eq_some_iff.mp read
        cases same
        exact Nat.succ_le_succ (levelsOfFields_le (bounded.fields found (List.forall_mem_nil _)))
  · exact levels_le_of_map read fun _ => rfl

theorem Bounded.nextItems (bounded : Bounded fuel)
    (read : readItems? (fuel + 1) depth done text = some (items, rest))
    (shallow : ∀ item ∈ done, item.levels ≤ depth) : ∀ item ∈ items, item.levels ≤ depth := by
  rw [readItems?] at read
  obtain ⟨⟨item, following⟩, found, continued⟩ := Option.bind_eq_some_iff.mp read
  have longer : ∀ other ∈ item :: done, other.levels ≤ depth :=
    List.forall_mem_cons.mpr ⟨bounded.value found, shallow⟩
  dsimp only at continued
  split at continued
  · exact bounded.items continued longer
  · cases continued
    simpa only [List.mem_reverse] using longer
  · cases continued

theorem Bounded.nextFields (bounded : Bounded fuel)
    (read : readFields? (fuel + 1) depth finished text = some (fields, rest))
    (shallow : ∀ field ∈ finished, field.2.levels ≤ depth) :
    ∀ field ∈ fields, field.2.levels ≤ depth := by
  rw [readFields?] at read
  split at read
  · obtain ⟨⟨key, behind⟩, _, read⟩ := Option.bind_eq_some_iff.mp read
    dsimp only at read
    split at read
    · obtain ⟨⟨value, following⟩, found, continued⟩ := Option.bind_eq_some_iff.mp read
      have longer : ∀ other ∈ (key, value) :: finished, other.2.levels ≤ depth :=
        List.forall_mem_cons.mpr ⟨bounded.value found, shallow⟩
      dsimp only at continued
      split at continued
      · exact bounded.fields continued longer
      · cases continued
        simpa only [List.mem_reverse] using longer
      · cases continued
    · cases read
  · cases read

/-- However much fuel there is, what is read is no deeper than allowed. -/
theorem bounded (fuel : Nat) : Bounded fuel := by
  induction fuel with
  | zero => exact ⟨nofun, nofun, nofun⟩
  | succ fuel inductionHypothesis =>
    exact ⟨inductionHypothesis.nextValue, inductionHypothesis.nextItems,
      inductionHypothesis.nextFields⟩

/-! ### Sorting -/

theorem levelsOfFields_insertField (key : String) (value : Json) (fields : List (String × Json)) :
    levelsOfFields (insertField key value fields) ≤ max value.levels (levelsOfFields fields) := by
  induction fields with
  | nil => exact Nat.le_refl _
  | cons first rest inductionHypothesis =>
    obtain ⟨other, present⟩ := first
    unfold insertField
    split
    · exact Nat.le_refl _
    split
    · simp only [levelsOfFields]
      omega
    · simp only [levelsOfFields] at inductionHypothesis ⊢
      omega

mutual

/-- Sorting fields adds no level. -/
theorem levels_sorted : ∀ value : Json, (sorted value).levels ≤ value.levels
  | .null => Nat.le_refl _
  | .boolean _ => Nat.le_refl _
  | .number _ => Nat.le_refl _
  | .text _ => Nat.le_refl _
  | .list items => by
    rw [sorted, levels, levels]
    exact Nat.succ_le_succ (levels_sortedItems items)
  | .object fields => by
    have shallow := levels_sortedFields fields []
    rw [sorted, levels, levels]
    simp only [levelsOfFields, Nat.max_zero] at shallow
    exact Nat.succ_le_succ shallow

theorem levels_sortedItems : ∀ items : List Json,
    levelsOfItems (sortedItems items) ≤ levelsOfItems items
  | [] => Nat.le_refl _
  | item :: rest => by
    have first := levels_sorted item
    have others := levels_sortedItems rest
    simp only [sortedItems, levelsOfItems]
    omega

theorem levels_sortedFields : ∀ fields done : List (String × Json),
    levelsOfFields (sortedFields fields done) ≤ max (levelsOfFields fields) (levelsOfFields done)
  | [], done => by
    simp only [sortedFields, levelsOfFields]
    omega
  | (key, value) :: rest, done => by
    have first := levels_sorted value
    have inserted := levelsOfFields_insertField key (sorted value) done
    have others := levels_sortedFields rest (insertField key (sorted value) done)
    simp only [sortedFields, levelsOfFields]
    omega

end

/-- A text, whatever it is, is not read as a value deeper than the reader goes. -/
theorem levels_of_read? {text : String} (read : read? text = some value) :
    value.levels ≤ greatestDepth := by
  obtain ⟨written, found, rfl⟩ := Option.map_eq_some_iff.mp read
  obtain ⟨⟨_, rest⟩, found, kept⟩ := Option.bind_eq_some_iff.mp found
  dsimp only at kept
  split at kept
  · cases kept
    exact Nat.le_trans (levels_sorted _) ((bounded _).value found)
  · cases kept

/-! ### Taking apart -/

theorem levels_of_lookup {key : String} (found : lookup key fields = some value) :
    value.levels ≤ levelsOfFields fields := by
  induction fields with
  | nil => cases found
  | cons first rest inductionHypothesis =>
    obtain ⟨other, present⟩ := first
    rw [lookup] at found
    rw [levelsOfFields]
    split at found
    · cases found
      exact Nat.le_max_left _ _
    · exact Nat.le_trans (inductionHypothesis found) (Nat.le_max_right _ _)

/-- The fields of a record have fewer levels than the record. -/
theorem levels_of_asRecord? {names : List String} {parts : List (Option Json)}
    (taken : value.asRecord? names = some parts) (member : some item ∈ parts) :
    item.levels < value.levels := by
  unfold asRecord? at taken
  split at taken
  · cases taken
    obtain ⟨name, _, found⟩ := List.mem_map.mp member
    exact Nat.lt_succ_of_le (levels_of_lookup found)
  · split at taken
    · cases taken
      rcases List.mem_append.mp member with present | missing
      · obtain ⟨_, among, same⟩ := List.mem_map.mp present
        cases same
        exact Nat.lt_succ_of_le (levels_le_levelsOfItems among)
      · cases List.eq_of_mem_replicate missing
    · cases taken
  · cases taken

end BotHost.Json
