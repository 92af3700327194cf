/-
What layers add up to.

A setting has a path of keys. A layer sets it when it has something there, and also when a value that is
no table stands where a table on the way to it would be: that value hides what lower layers have below it.
With this reading, laying one value over another is a choice between the two at every path, and of several
layers the highest that sets a path decides what is there.
-/

import BotHost.Settings.Layer
import Mathlib

namespace BotHost

/-- What there is at a path: nothing, a table of further settings, or a value. -/
inductive Setting where
  | absent
  | table
  | value (value : Json)
deriving DecidableEq, Repr

namespace Json

/-- What there is at a path of keys. -/
def setting : Json → (path : List String) → Setting
  | .object _, [] => .table
  | value, [] => .value value
  | .object fields, key :: path =>
    match lookup key fields with
    | some value => value.setting path
    | none => .absent
  | _, _ :: _ => .absent

/-- A layer decides what there is at a path: it has something there, or on the way to it a value that is
no table. -/
def Sets (layer : Json) (path : List String) : Prop :=
  layer.setting path ≠ .absent ∨ ∃ front, front <+: path ∧ ∃ value, layer.setting front = .value value

variable {fields : List (String × Json)} {key : String} {path : List String} {layer : Json}

/-- A value without fields. -/
def IsLeaf (value : Json) : Prop := ∀ fields, value ≠ .object fields

theorem setting_object_cons : (Json.object fields).setting (key :: path) =
    (lookup key fields).elim .absent fun value => value.setting path := by
  rw [setting]
  cases lookup key fields <;> rfl

theorem isLeaf_or_object (layer : Json) : layer.IsLeaf ∨ ∃ fields, layer = .object fields := by
  cases layer with
  | object fields => exact .inr ⟨fields, rfl⟩
  | _ => exact .inl nofun

theorem IsLeaf.setting_nil (leaf : layer.IsLeaf) : layer.setting [] = .value layer := by
  cases layer with
  | object fields => exact absurd rfl (leaf fields)
  | _ => rfl

theorem IsLeaf.setting_cons (leaf : layer.IsLeaf) (key : String) (path : List String) :
    layer.setting (key :: path) = .absent := by
  cases layer with
  | object fields => exact absurd rfl (leaf fields)
  | _ => rfl

theorem sets_nil (layer : Json) : layer.Sets [] := by
  left
  cases layer <;> nofun

/-- A value hides everything that is below it. -/
theorem IsLeaf.sets (leaf : layer.IsLeaf) (path : List String) : layer.Sets path :=
  .inr ⟨[], List.nil_prefix, layer, leaf.setting_nil⟩

theorem sets_object_cons : (Json.object fields).Sets (key :: path) ↔
    ∃ value, lookup key fields = some value ∧ value.Sets path := by
  constructor
  · rintro (present | ⟨front, before, value, there⟩)
    · rw [setting_object_cons] at present
      cases found : lookup key fields with
      | none => exact absurd (by rw [found]; rfl) present
      | some value =>
        rw [found] at present
        exact ⟨value, rfl, .inl present⟩
    · cases front with
      | nil => cases there
      | cons first front =>
        obtain ⟨rfl, within⟩ := List.cons_prefix_cons.mp before
        rw [setting_object_cons] at there
        cases found : lookup first fields with
        | none =>
          rw [found] at there
          cases there
        | some inner =>
          rw [found] at there
          exact ⟨inner, rfl, .inr ⟨front, within, value, there⟩⟩
  · rintro ⟨value, found, present | ⟨front, before, inner, there⟩⟩
    · left
      rwa [setting_object_cons, found]
    · refine .inr ⟨key :: front, List.cons_prefix_cons.mpr ⟨rfl, before⟩, inner, ?_⟩
      rwa [setting_object_cons, found]

/-! ### One layer over another -/

theorem overlay_of_leaf {lower upper : Json} (leaf : lower.IsLeaf ∨ upper.IsLeaf) :
    lower.overlay upper = upper := by
  rcases leaf with leaf | leaf
  · cases lower with
    | object fields => exact absurd rfl (leaf fields)
    | _ => rw [overlay]; nofun
  · cases upper with
    | object fields => exact absurd rfl (leaf fields)
    | _ => rw [overlay]; nofun

/-- The fields of an object laid over those of another. -/
theorem lookup_overlayFields (key : String) (lower upper : List (String × Json)) :
    lookup key (overlay.overlayFields lower upper) =
      match lookup key upper with
      | none => lookup key lower
      | some value => some ((lookup key lower).elim value fun present => present.overlay value) := by
  induction upper with
  | nil => rw [overlay.overlayFields, lookup]
  | cons first rest inductionHypothesis =>
    obtain ⟨other, value⟩ := first
    by_cases same : key = other
    · subst same
      rw [overlay.overlayFields, lookup, if_pos rfl]
      cases found : lookup key lower <;> simp [lookup_insertField_self]
    · rw [lookup, if_neg same, ← inductionHypothesis, overlay.overlayFields]
      split <;> exact lookup_insertField_other _ _ _ _ same

/-- Two objects laid over each other at a key: what both have there is laid over each other. -/
theorem setting_overlay_object_cons {lower upper : List (String × Json)} :
    ((Json.object lower).overlay (.object upper)).setting (key :: path) =
      match lookup key upper with
      | none => (Json.object lower).setting (key :: path)
      | some value =>
        ((lookup key lower).elim value fun present => present.overlay value).setting path := by
  rw [overlay, setting_object_cons, lookup_overlayFields]
  cases lookup key upper with
  | none => rw [setting_object_cons]
  | some value => rfl

/-- The upper layer decides what it sets. -/
theorem setting_overlay_of_sets {lower upper : Json} (sets : upper.Sets path) :
    (lower.overlay upper).setting path = upper.setting path := by
  induction path generalizing lower upper with
  | nil =>
    obtain leaf | ⟨fields, rfl⟩ := upper.isLeaf_or_object
    · rw [overlay_of_leaf (.inr leaf)]
    obtain leaf | ⟨lowerFields, rfl⟩ := lower.isLeaf_or_object
    · rw [overlay_of_leaf (.inl leaf)]
    · rw [overlay]
      rfl
  | cons key path inductionHypothesis =>
    obtain leaf | ⟨fields, rfl⟩ := upper.isLeaf_or_object
    · rw [overlay_of_leaf (.inr leaf)]
    obtain leaf | ⟨lowerFields, rfl⟩ := lower.isLeaf_or_object
    · rw [overlay_of_leaf (.inl leaf)]
    obtain ⟨value, found, sets⟩ := sets_object_cons.mp sets
    have own : (Json.object fields).setting (key :: path) = value.setting path := by
      rw [setting_object_cons, found]
      rfl
    rw [setting_overlay_object_cons, own, found]
    cases lookup key lowerFields with
    | none => rfl
    | some present => exact inductionHypothesis sets

/-- The lower layer decides what the upper one does not set. -/
theorem setting_overlay_of_not_sets {lower upper : Json} (silent : ¬ upper.Sets path) :
    (lower.overlay upper).setting path = lower.setting path := by
  induction path generalizing lower upper with
  | nil => exact absurd upper.sets_nil silent
  | cons key path inductionHypothesis =>
    obtain leaf | ⟨fields, rfl⟩ := upper.isLeaf_or_object
    · exact absurd (leaf.sets _) silent
    obtain leaf | ⟨lowerFields, rfl⟩ := lower.isLeaf_or_object
    · rw [overlay_of_leaf (.inl leaf), leaf.setting_cons]
      exact Classical.not_not.mp fun present => silent (.inl present)
    rw [setting_overlay_object_cons]
    cases found : lookup key fields with
    | none => rfl
    | some value =>
      have silent : ¬ value.Sets path := fun sets => silent (sets_object_cons.mpr ⟨value, found, sets⟩)
      rw [setting_object_cons]
      cases lookup key lowerFields with
      | none => exact Classical.not_not.mp fun present => silent (.inl present)
      | some present => exact inductionHypothesis silent

/-! ### A stack of layers -/

section Stack

variable {Source : Type} {rank : Source → Nat} {layers : List (Source × Json)}

/-- Of layers in the order of their ranks the one of the highest rank that sets a path decides. -/
theorem setting_overlayAll (ascending : (layers.map fun entry => rank entry.1).Pairwise (· < ·))
    {source : Source} (member : (source, layer) ∈ layers) (sets : layer.Sets path)
    (highest : ∀ other ∈ layers, rank source < rank other.1 → ¬ other.2.Sets path) :
    (overlayAll (layers.map Prod.snd)).setting path = layer.setting path := by
  induction layers using List.reverseRecOn with
  | nil => cases member
  | append_singleton layers last inductionHypothesis =>
    rw [List.map_append, List.pairwise_append] at ascending
    obtain ⟨ascending, _, below⟩ := ascending
    rw [overlayAll, List.map_append, List.foldl_append]
    show ((overlayAll (layers.map Prod.snd)).overlay last.2).setting path = _
    rcases List.mem_append.mp member with earlier | own
    · have less := below _ (List.mem_map_of_mem earlier) _ List.mem_cons_self
      rw [setting_overlay_of_not_sets (highest last (by simp) less)]
      exact inductionHypothesis ascending earlier fun other there =>
        highest other (List.mem_append_left _ there)
    · obtain rfl := List.mem_singleton.mp own
      exact setting_overlay_of_sets sets

/-- What no layer sets is not there. -/
theorem setting_overlayAll_of_not_sets {layers : List Json}
    (silent : ∀ layer ∈ layers, ¬ layer.Sets (key :: path)) :
    (overlayAll layers).setting (key :: path) = .absent := by
  induction layers using List.reverseRecOn with
  | nil => rfl
  | append_singleton layers last inductionHypothesis =>
    rw [overlayAll, List.foldl_append]
    show ((overlayAll layers).overlay last).setting _ = _
    rw [setting_overlay_of_not_sets (silent last (by simp))]
    exact inductionHypothesis fun layer member => silent layer (List.mem_append_left _ member)

end Stack

end Json

end BotHost
