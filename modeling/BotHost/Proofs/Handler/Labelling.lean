/-
What keyboards look like.

A field is read into rows of labels or refused. What is read has a row, each row a label, and no label
is empty. A list is read item by item, so that nothing is lost and nothing moves, and the first item
that is no row is what the refusal names. The keyboards that a bot sends are those of its handlers, and
a handler has its rows from a field.
-/

import BotHost.Proofs.Handler.Making
import BotHost.Proofs.Json.Numbers

namespace BotHost

namespace Buttons

/-- There is a row, each row has a label, and no label is empty. -/
structure WellFormed (grid : ButtonRows) : Prop where
  rows : grid ≠ []
  labels : ∀ row ∈ grid, row ≠ []
  filled : ∀ row ∈ grid, ∀ label ∈ row, label ≠ ""

/-- The item stands for the label: it is that text, or the number written so. -/
inductive Labels : Json → String → Prop
  | text {value : String} (filled : value ≠ "") : Labels (.text value) value
  | number (value : Number) : Labels (.number value) value.write

/-- The item is a list with an item for each label of the row. -/
inductive Rows : Json → List String → Prop
  | list {items : List Json} {row : List String} (present : items ≠ [])
      (each : List.Forall₂ Labels items row) : Rows (.list items) row

/-- Why an item is no row: it is no list, or empty, or has an item that stands for no label, the first
of which is named. -/
inductive Refuses (row : Nat) : Json → Fault → Prop
  | notList {item : Json} (other : ∀ items, item ≠ .list items) : Refuses row item (.rowNotList row)
  | empty : Refuses row (.list []) (.rowEmpty row)
  | label {before after : List Json} {item : Json}
      (earlier : ∀ other ∈ before, ∃ label, Labels other label) (bad : ∀ label, ¬Labels item label) :
      Refuses row (.list (before ++ item :: after)) (.badLabel row item)

/-! ### Going through a list -/

section Through

variable {Item Value Cause : Type} {act : Item → Except Cause Value}

/-- All results are there if each item has its own. -/
theorem mapM_eq_ok_iff {items : List Item} {values : List Value} :
    items.mapM act = .ok values ↔
      List.Forall₂ (fun item value => act item = .ok value) items values := by
  induction items generalizing values with
  | nil => cases values <;> simp [pure, Except.pure]
  | cons item rest inductionHypothesis =>
    rw [List.mapM_cons, Condition.bind_eq_ok]
    constructor
    · rintro ⟨value, first, through⟩
      obtain ⟨others, later, made⟩ := Condition.bind_eq_ok.mp through
      cases made
      exact .cons first (inductionHypothesis.mp later)
    · rintro (_ | ⟨first, later⟩)
      refine ⟨_, first, ?_⟩
      rw [inductionHypothesis.mpr later]
      rfl

/-- Going through a list fails with the cause of the first item that fails. -/
theorem mapM_eq_error_iff {items : List Item} {cause : Cause} :
    items.mapM act = .error cause ↔ ∃ before item after, items = before ++ item :: after ∧
      (∀ other ∈ before, ∃ value, act other = .ok value) ∧ act item = .error cause := by
  induction items with
  | nil => simp [pure, Except.pure]
  | cons item rest inductionHypothesis =>
    rw [List.mapM_cons, Condition.bind_eq_error]
    constructor
    · rintro (fails | ⟨value, first, through⟩)
      · exact ⟨[], item, rest, rfl, nofun, fails⟩
      · obtain later | ⟨values, -, never⟩ := Condition.bind_eq_error.mp through
        · obtain ⟨before, other, after, rfl, earlier, fails⟩ := inductionHypothesis.mp later
          exact ⟨item :: before, other, after, rfl,
            List.forall_mem_cons.mpr ⟨⟨value, first⟩, earlier⟩, fails⟩
        · cases never
    · rintro ⟨before, other, after, split, earlier, fails⟩
      cases before with
      | nil =>
        obtain ⟨rfl, rfl⟩ := List.cons.inj split
        exact .inl fails
      | cons first before =>
        obtain ⟨rfl, rfl⟩ := List.cons.inj split
        obtain ⟨⟨value, first⟩, earlier⟩ := List.forall_mem_cons.mp earlier
        refine .inr ⟨value, first, Condition.bind_eq_error.mpr (.inl ?_)⟩
        exact inductionHypothesis.mpr ⟨before, other, after, rfl, earlier, fails⟩

end Through

/-! ### Lists of rows -/

variable {row : Nat} {item : Json} {items : List Json} {grid : ButtonRows}

/-- A label is read from what labels a button. -/
theorem label_eq_ok_iff {label : String} : Buttons.label row item = .ok label ↔ Labels item label := by
  constructor
  · intro read
    unfold Buttons.label at read
    split at read
    · split at read <;> cases read
      next filled => exact .text (by rwa [String.isEmpty_iff] at filled)
    · cases read
      exact .number _
    · cases read
  · rintro (filled | number)
    · simp [Buttons.label, String.isEmpty_iff, filled]
    · rfl

theorem fault_of_label {fault : Fault} (refused : Buttons.label row item = .error fault) :
    fault = .badLabel row item := by
  unfold Buttons.label at refused
  split at refused
  · split at refused <;> cases refused
    rfl
  · cases refused
  · cases refused
    rfl

/-- A label is refused, by its place, exactly when nothing is there to label the button. -/
theorem label_eq_error_iff {fault : Fault} :
    Buttons.label row item = .error fault ↔
      (∀ label, ¬Labels item label) ∧ fault = .badLabel row item := by
  constructor
  · refine fun refused => ⟨fun label good => ?_, fault_of_label refused⟩
    rw [label_eq_ok_iff.mpr good] at refused
    cases refused
  · rintro ⟨bad, rfl⟩
    cases read : Buttons.label row item with
    | ok label => exact absurd (label_eq_ok_iff.mp read) (bad label)
    | error fault => rw [fault_of_label read]

theorem labels_of_present (present : items ≠ []) :
    Buttons.labels row (.list items) = items.mapM (Buttons.label row) := by
  cases items with
  | nil => exact absurd rfl present
  | cons item rest => rfl

/-- The labels of a row are read from what is a row. -/
theorem labels_eq_ok_iff {labels : List String} :
    Buttons.labels row item = .ok labels ↔ Rows item labels := by
  constructor
  · intro read
    unfold Buttons.labels at read
    split at read
    · cases read
    next items present =>
      exact .list present ((mapM_eq_ok_iff.mp read).imp fun item label => label_eq_ok_iff.mp)
    · cases read
  · rintro ⟨present, each⟩
    rw [labels_of_present present]
    exact mapM_eq_ok_iff.mpr (each.imp fun item label => label_eq_ok_iff.mpr)

/-- A row is refused for its first bad label, or for being none. -/
theorem labels_eq_error_iff {fault : Fault} :
    Buttons.labels row item = .error fault ↔ Refuses row item fault := by
  have good (other : Json) : (∃ label, Buttons.label row other = .ok label) ↔
      ∃ label, Labels other label := exists_congr fun label => label_eq_ok_iff
  constructor
  · intro refused
    unfold Buttons.labels at refused
    split at refused
    · cases refused
      exact .empty
    · obtain ⟨before, item, after, rfl, earlier, fails⟩ := mapM_eq_error_iff.mp refused
      obtain ⟨bad, rfl⟩ := label_eq_error_iff.mp fails
      exact .label (fun other among => (good other).mp (earlier other among)) bad
    next other =>
      cases refused
      exact .notList fun items => other items
  · rintro (other | _ | ⟨earlier, bad⟩)
    · unfold Buttons.labels
      split
      · exact absurd rfl (other [])
      · exact absurd rfl (other _)
      · rfl
    · rfl
    · rw [labels_of_present (by simp)]
      exact mapM_eq_error_iff.mpr ⟨_, _, _, rfl, fun other among => (good other).mpr (earlier other among),
        label_eq_error_iff.mpr ⟨bad, rfl⟩⟩

/-- The rows of a list are those of its items, each item numbered by where it stands. -/
theorem rowsFrom_eq_mapM (row : Nat) (items : List Json) :
    rowsFrom row items =
      (items.zipIdx row).mapM fun numbered => Buttons.labels numbered.2 numbered.1 := by
  induction items generalizing row with
  | nil => rfl
  | cons item rest inductionHypothesis =>
    rw [rowsFrom, inductionHypothesis, List.zipIdx_cons, List.mapM_cons]
    rfl

/-- A grid is read row by row. -/
theorem rowsFrom_eq_ok_iff : rowsFrom row items = .ok grid ↔ List.Forall₂ Rows items grid := by
  conv_rhs => rw [← List.zipIdx_map_fst row items, List.forall₂_map_left_iff]
  rw [rowsFrom_eq_mapM, mapM_eq_ok_iff]
  simp only [labels_eq_ok_iff]

/-- The fault is that of the first item that is no row, and the number in it is where the item stands. -/
theorem rowsFrom_eq_error_iff {fault : Fault} :
    rowsFrom row items = .error fault ↔ ∃ before item after, items = before ++ item :: after ∧
      (∀ other ∈ before, ∃ labels, Rows other labels) ∧ Refuses (row + before.length) item fault := by
  have unnumbered (before : List Json) :
      (∀ numbered ∈ before.zipIdx row, ∃ labels, Rows numbered.1 labels) ↔
        ∀ other ∈ before, ∃ labels, Rows other labels := by
    conv_rhs => rw [← List.zipIdx_map_fst row before, List.forall_mem_map]
  rw [rowsFrom_eq_mapM, mapM_eq_error_iff]
  simp only [labels_eq_ok_iff, labels_eq_error_iff]
  constructor
  · rintro ⟨front, ⟨item, index⟩, back, split, earlier, refuses⟩
    obtain ⟨before, rest, rfl, rfl, behind⟩ := List.zipIdx_eq_append_iff.mp split
    obtain ⟨_, after, rfl, here, -⟩ := List.zipIdx_eq_cons_iff.mp behind.symm
    cases here
    exact ⟨before, item, after, rfl, (unnumbered before).mp earlier, refuses⟩
  · rintro ⟨before, item, after, rfl, earlier, refuses⟩
    refine ⟨before.zipIdx row, (item, row + before.length), after.zipIdx (row + before.length + 1), ?_,
      (unnumbered before).mpr earlier, refuses⟩
    rw [List.zipIdx_append, List.zipIdx_cons]

/-! ### Fields -/

theorem rows_of_present (present : items ≠ []) : rows (some (.list items)) = rowsFrom 0 items := by
  cases items with
  | nil => exact absurd rfl present
  | cons item rest => rfl

/-- No label is empty. -/
theorem Labels.filled {label : String} (labels : Labels item label) : label ≠ "" := by
  cases labels with
  | text filled => exact filled
  | number value => exact value.write_ne_empty

theorem forall_of_forall₂ {Item Value : Type} {holds : Item → Value → Prop} {good : Value → Prop}
    {items : List Item} {values : List Value} (each : List.Forall₂ holds items values)
    (implies : ∀ item value, holds item value → good value) : ∀ value ∈ values, good value := by
  induction each with
  | nil => exact nofun
  | cons first _ inductionHypothesis =>
    exact List.forall_mem_cons.mpr ⟨implies _ _ first, inductionHypothesis⟩

/-- Rows that are read make a well-formed grid. -/
theorem wellFormed_of_rows (present : items ≠ []) (each : List.Forall₂ Rows items grid) :
    WellFormed grid where
  rows := by
    rintro rfl
    exact present (List.forall₂_nil_right_iff.mp each)
  labels := forall_of_forall₂ each fun item row => by
    rintro ⟨present, each⟩ rfl
    exact present (List.forall₂_nil_right_iff.mp each)
  filled := forall_of_forall₂ each fun item row => by
    rintro ⟨-, each⟩
    exact forall_of_forall₂ each fun item label => Labels.filled

theorem wellFormed_textRows {text : String} (present : textRows text ≠ []) :
    WellFormed (textRows text) where
  rows := present
  labels row among := by simpa using (List.mem_filter.mp among).2
  filled row among label inside := by
    obtain ⟨line, -, rfl⟩ := List.mem_map.mp (List.mem_filter.mp among).1
    obtain ⟨cell, kept, rfl⟩ := List.mem_map.mp inside
    have filled := (List.mem_filter.mp kept).2
    simpa using filled

/-- Whatever is read from a field is a well-formed grid. -/
theorem wellFormed_of_read {field : Option Json} (read : rows field = .ok grid) : WellFormed grid := by
  have filled : WellFormed defaultRows := ⟨by decide, by decide, by decide⟩
  unfold rows at read
  split at read
  · cases read
    exact filled
  · cases read
    exact filled
  · cases read
    exact filled
  next items present =>
    exact wellFormed_of_rows present (rowsFrom_eq_ok_iff.mp read)
  · split at read
    · cases read
      exact filled
    next present =>
      cases read
      exact wellFormed_textRows present
  · cases read

end Buttons

/-! ### Keyboards of bots -/

open Buttons (WellFormed)

variable {grid : ButtonRows} {text : String}

theorem Compilation.Makes.wellFormed [PatternEngine] {scope : Condition.Scope} {block : Block} {handler : Handler}
    (made : Makes scope block handler) (sends : handler.action = .sendKeyboard text grid) :
    WellFormed grid := by
  cases made with
  | keyboard kind read ruled =>
    cases sends
    exact Buttons.wellFormed_of_read read
  | start | command | message | button | photo | condition => cases sends

/-- A keyboard that is sent is that of a handler. -/
theorem action_of_mem_calls {handlers : List Handler} {event : Event} {chat : Int}
    (sent : .keyboard chat text grid ∈ Dispatch.calls handlers event) :
    ∃ handler ∈ handlers, handler.action = .sendKeyboard text grid := by
  obtain ⟨handler, accepting, among⟩ := List.mem_flatMap.mp sent
  refine ⟨handler, (List.mem_filter.mp accepting).1, ?_⟩
  cases action : handler.action with
  | sendKeyboard =>
    rw [action] at among
    cases List.mem_singleton.mp among
    rfl
  | sendText | sendPhoto | branch =>
    rw [action] at among
    cases List.mem_singleton.mp among
  | answerCallback =>
    rw [action] at among
    cases event <;> simp [Action.calls] at among

/-- A keyboard that compiled handlers send is well-formed. -/
theorem wellFormed_of_mem_calls [PatternEngine] {blocks : List Block} {event : Event} {chat : Int}
    (sent : .keyboard chat text grid ∈ Dispatch.calls (compile blocks).handlers event) :
    WellFormed grid := by
  obtain ⟨handler, among, sends⟩ := action_of_mem_calls sent
  obtain rfl | ⟨block, -, scope, made⟩ := makes_of_mem_handlers among
  · cases sends
  · exact made.wellFormed sends

/-- What keyboards look like. Whatever a field holds, it is refused or read as a well-formed grid. A list
with items is read as the grid with their labels, in rows and order as they stand, and refused exactly
if some item is no row, the first of which is named; the list without items stands for the default. And
no bot, whatever event it reacts to and whatever its session answers, sends a keyboard that is not well
formed. -/
theorem keyboards_well_formed [PatternEngine] :
    (∀ field, (∃ fault, Buttons.rows field = .error fault) ∨
        ∃ grid, Buttons.rows field = .ok grid ∧ WellFormed grid) ∧
      (∀ items, items ≠ [] →
        (∀ grid, Buttons.rows (some (.list items)) = .ok grid ↔
          List.Forall₂ Buttons.Rows items grid) ∧
        ∀ fault, Buttons.rows (some (.list items)) = .error fault ↔
          ∃ before item after, items = before ++ item :: after ∧
            (∀ other ∈ before, ∃ row, Buttons.Rows other row) ∧
              Buttons.Refuses before.length item fault) ∧
      Buttons.rows (some (.list [])) = .ok Buttons.defaultRows ∧
      ∀ (State : Type) (send : Send State) (blocks : List Block) (event : Event) (state : State),
        ∀ chat text grid, .keyboard chat text grid ∈
            (Dispatch.run (Dispatch.recorded send) (compile blocks).handlers event (state, [])).2.2 →
          WellFormed grid := by
  refine ⟨fun field => ?_, fun items present => ⟨fun grid => ?_, fun fault => ?_⟩, rfl,
    fun State send blocks event state chat text grid sent => ?_⟩
  · cases read : Buttons.rows field with
    | error fault => exact .inl ⟨fault, rfl⟩
    | ok grid => exact .inr ⟨grid, rfl, Buttons.wellFormed_of_read read⟩
  · rw [Buttons.rows_of_present present, Buttons.rowsFrom_eq_ok_iff]
  · rw [Buttons.rows_of_present present, Buttons.rowsFrom_eq_error_iff]
    simp only [Nat.zero_add]
  · rw [Dispatch.run_recorded, List.nil_append] at sent
    exact wellFormed_of_mem_calls sent

end BotHost
