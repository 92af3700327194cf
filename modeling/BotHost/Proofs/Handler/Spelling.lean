/-
Keyboards written as text.

A text spells the rows of a grid on its lines and their labels between commas. There may be blanks
around a label, cells without a label between commas, and lines without labels; a carriage return at
the end of a line is a blank like any other. Reading undoes exactly that: a text is read as the one grid
that it spells. The plain text of a grid is one of the texts that spell it.
-/

import BotHost.Proofs.Handler.Labelling
import BotHost.Proofs.Text.Cutting

namespace BotHost.Buttons

open Text (Blank Trimmed isBlank splitOn trimBlank)

/-! ### Parts with and without a value -/

/-- The values stand in the parts one after another, with vacant parts anywhere between. -/
inductive Holds {Part Value : Type} (holds : Part → Value → Prop) (vacant : Part → Prop) :
    List Part → List Value → Prop
  | nil : Holds holds vacant [] []
  | vacant {part : Part} {parts : List Part} {values : List Value} (nothing : vacant part)
      (rest : Holds holds vacant parts values) : Holds holds vacant (part :: parts) values
  | value {part : Part} {parts : List Part} {value : Value} {values : List Value}
      (held : holds part value) (rest : Holds holds vacant parts values) :
      Holds holds vacant (part :: parts) (value :: values)

section Holds

variable {Part Value : Type} {holds : Part → Value → Prop} {vacant : Part → Prop}
  {read? : Part → Option Value} {parts : List Part} {values : List Value}

/-- What every part is if it holds a value or is vacant. -/
theorem Holds.forall_parts {fits : Part → Prop} (held : Holds holds vacant parts values)
    (filled : ∀ part value, holds part value → fits part) (empty : ∀ part, vacant part → fits part) :
    ∀ part ∈ parts, fits part := by
  induction held with
  | nil => exact nofun
  | vacant nothing _ inductionHypothesis =>
    exact List.forall_mem_cons.mpr ⟨empty _ nothing, inductionHypothesis⟩
  | value held _ inductionHypothesis =>
    exact List.forall_mem_cons.mpr ⟨filled _ _ held, inductionHypothesis⟩

/-- If the parts can be read one by one, the values are what is read. -/
theorem holds_iff (filled : ∀ part ∈ parts, ∀ value, read? part = some value ↔ holds part value)
    (empty : ∀ part ∈ parts, read? part = none ↔ vacant part) :
    Holds holds vacant parts values ↔ parts.filterMap read? = values := by
  constructor
  · intro held
    induction held with
    | nil => rfl
    | vacant nothing _ inductionHypothesis =>
      obtain ⟨first, filled⟩ := List.forall_mem_cons.mp filled
      obtain ⟨first', empty⟩ := List.forall_mem_cons.mp empty
      rw [List.filterMap_cons_none (first'.mpr nothing)]
      exact inductionHypothesis filled empty
    | value held _ inductionHypothesis =>
      obtain ⟨first, filled⟩ := List.forall_mem_cons.mp filled
      obtain ⟨first', empty⟩ := List.forall_mem_cons.mp empty
      rw [List.filterMap_cons_some ((first _).mpr held), inductionHypothesis filled empty]
  · rintro rfl
    induction parts with
    | nil => exact .nil
    | cons part parts inductionHypothesis =>
      obtain ⟨first, filled⟩ := List.forall_mem_cons.mp filled
      obtain ⟨first', empty⟩ := List.forall_mem_cons.mp empty
      cases read : read? part with
      | none =>
        rw [List.filterMap_cons_none read]
        exact .vacant (first'.mp read) (inductionHypothesis filled empty)
      | some value =>
        rw [List.filterMap_cons_some read]
        exact .value ((first value).mp read) (inductionHypothesis filled empty)

/-- To cut every part and to keep what is not empty is to read the parts one by one. -/
theorem filter_map_eq_filterMap {Part Item Value : Type} (cut : Part → List Item)
    (value : List Item → Value) (parts : List Part) :
    ((parts.map cut).filter fun kept => !kept.isEmpty).map value =
      parts.filterMap fun part => if cut part = [] then none else some (value (cut part)) := by
  induction parts with
  | nil => rfl
  | cons part parts inductionHypothesis =>
    rw [List.map_cons, List.filter_cons, List.filterMap_cons, ← inductionHypothesis]
    by_cases empty : cut part = [] <;> simp [empty]

/-- The text is a row of parts between separators, and these hold the values. -/
def Separated {Value : Type} (separator : Char) (holds : List Char → Value → Prop)
    (vacant : List Char → Prop) (text : List Char) (values : List Value) : Prop :=
  ∃ parts, parts ≠ [] ∧ text = [separator].intercalate parts ∧ Holds holds vacant parts values

/-- If a text is cut into parts that can be read one by one, the values are what is read. -/
theorem separated_iff {separator : Char} {holds : List Char → Value → Prop}
    {vacant : List Char → Prop} {read? : List Char → Option Value} {text : List Char}
    (whole : ∀ part value, holds part value → separator ∉ part)
    (whole' : ∀ part, vacant part → separator ∉ part)
    (filled : ∀ part ∈ splitOn separator text, ∀ value, read? part = some value ↔ holds part value)
    (empty : ∀ part ∈ splitOn separator text, read? part = none ↔ vacant part) :
    Separated separator holds vacant text values ↔
      (splitOn separator text).filterMap read? = values := by
  rw [Text.splitOn_eq] at filled empty ⊢
  constructor
  · rintro ⟨parts, present, rfl, held⟩
    rw [List.splitOn_intercalate separator (held.forall_parts whole whole') present] at filled empty ⊢
    exact (holds_iff filled empty).mp held
  · intro read
    exact ⟨text.splitOn separator, List.splitOn_ne_nil separator text,
      (List.intercalate_splitOn separator).symm, (holds_iff filled empty).mpr read⟩

end Holds

/-! ### Labels between commas -/

/-- There is neither a comma nor a line feed in the text. -/
def Unseparated (text : List Char) : Prop :=
  ∀ character ∈ text, character ≠ ',' ∧ character ≠ '\n'

/-- A label that can be written into a text: it is visible, nothing at its ends is blank, and it has no
comma or line feed in it. -/
structure Plain (label : String) : Prop where
  visible : label.toList ≠ []
  trimmed : Trimmed label.toList
  unseparated : Unseparated label.toList

instance : DecidablePred Unseparated :=
  List.decidableBAll fun character => character ≠ ',' ∧ character ≠ '\n'

instance : DecidablePred Plain := fun label =>
  decidable_of_iff (label.toList ≠ [] ∧ Trimmed label.toList ∧ Unseparated label.toList)
    ⟨fun ⟨visible, trimmed, unseparated⟩ => ⟨visible, trimmed, unseparated⟩,
      fun ⟨visible, trimmed, unseparated⟩ => ⟨visible, trimmed, unseparated⟩⟩

/-- Blanks other than line feeds. -/
def Padding (text : List Char) : Prop :=
  ∀ character ∈ text, isBlank character = true ∧ character ≠ '\n'

/-- There is the label in the cell, and padding around it. -/
def CellOf (cell : List Char) (label : String) : Prop :=
  Plain label ∧ ∃ before after, Padding before ∧ Padding after ∧
    cell = before ++ label.toList ++ after

/-- The cells of the line, between its commas, hold the labels of the row. -/
def LineOf (line : List Char) (row : List String) : Prop :=
  Separated ',' CellOf Padding line row

/-- The lines of the text hold the rows of the grid. -/
def Spells (text : String) (grid : ButtonRows) : Prop :=
  Separated '\n' (fun line row => row ≠ [] ∧ LineOf line row) (LineOf · []) text.toList grid

/-! ### Reading cells -/

theorem Padding.blank {text : List Char} (padding : Padding text) : Blank text :=
  fun character among => (padding character among).1

/-- The label in a cell. -/
def label? (cell : List Char) : Option String :=
  if trimBlank cell = [] then none else some (String.ofList (trimBlank cell))

theorem Unseparated.padding {text : List Char} (unseparated : Unseparated text) (blank : Blank text) :
    Padding text :=
  fun character among => ⟨blank character among, (unseparated character among).2⟩

/-- A cell without separators has the label that it is a cell of. -/
theorem label?_eq_some_iff {cell : List Char} (unseparated : Unseparated cell) (label : String) :
    label? cell = some label ↔ CellOf cell label := by
  unfold label?
  constructor
  · intro read
    split at read
    · cases read
    next visible =>
      obtain rfl := Option.some.inj read
      obtain ⟨before, after, split, front, back⟩ := Text.exists_padding cell
      have trimmed := Text.trimmed_trimBlank cell
      generalize trimBlank cell = label at *
      subst split
      obtain ⟨inside, behind⟩ := List.forall_mem_append.mp unseparated
      obtain ⟨ahead, inside⟩ := List.forall_mem_append.mp inside
      refine ⟨?_, before, after, Unseparated.padding ahead front, Unseparated.padding behind back, ?_⟩
      · constructor <;> rwa [String.toList_ofList]
      · rw [String.toList_ofList]
  · rintro ⟨plain, before, after, front, back, rfl⟩
    rw [Text.trimBlank_padded plain.visible plain.trimmed front.blank back.blank,
      if_neg plain.visible, String.ofList_toList]

/-- A cell without separators has no label when it is all padding. -/
theorem label?_eq_none_iff {cell : List Char} (unseparated : Unseparated cell) :
    label? cell = none ↔ Padding cell := by
  unfold label?
  constructor
  · intro nothing
    split at nothing
    next blank => exact unseparated.padding (Text.blank_of_trimBlank_eq_nil blank)
    next => cases nothing
  · exact fun padding => if_pos (Text.trimBlank_of_blank padding.blank)

theorem Padding.unseparated {text : List Char} (padding : Padding text) : Unseparated text := by
  refine fun character among => ⟨?_, (padding character among).2⟩
  rintro rfl
  cases (padding _ among).1

theorem CellOf.unseparated {cell : List Char} {label : String} (cellOf : CellOf cell label) :
    Unseparated cell := by
  obtain ⟨plain, before, after, front, back, rfl⟩ := cellOf
  exact List.forall_mem_append.mpr
    ⟨List.forall_mem_append.mpr ⟨front.unseparated, plain.unseparated⟩, back.unseparated⟩

/-! ### Reading lines -/

theorem lineLabels_eq (line : List Char) : lineLabels line = (splitOn ',' line).filterMap label? :=
  filter_map_eq_filterMap trimBlank String.ofList _

/-- A line holds the labels that are read off it. -/
theorem lineOf_iff {line : List Char} {row : List String} (joined : '\n' ∉ line) :
    LineOf line row ↔ lineLabels line = row := by
  have unseparated : ∀ cell ∈ splitOn ',' line, Unseparated cell := fun cell member character inside =>
    (Text.mem_of_mem_splitOn member character inside).imp_right fun among same => joined (same ▸ among)
  rw [lineLabels_eq]
  exact separated_iff (fun cell label held inside => (held.unseparated ',' inside).1 rfl)
    (fun cell padding inside => (padding.unseparated ',' inside).1 rfl)
    (fun cell member => label?_eq_some_iff (unseparated cell member))
    fun cell member => label?_eq_none_iff (unseparated cell member)

theorem LineOf.joined {line : List Char} {row : List String} (lineOf : LineOf line row) :
    '\n' ∉ line := by
  obtain ⟨cells, -, rfl, held⟩ := lineOf
  have unseparated : ∀ cell ∈ cells, Unseparated cell :=
    held.forall_parts (fun cell label => CellOf.unseparated) fun cell => Padding.unseparated
  intro among
  obtain same | ⟨cell, member, inside⟩ := Text.mem_intercalate among
  · cases same
  · exact (unseparated cell member '\n' inside).2 rfl

/-! ### Reading texts -/

/-- The row on a line. -/
def row? (line : List Char) : Option (List String) :=
  if lineLabels line = [] then none else some (lineLabels line)

theorem textRows_eq (text : String) : textRows text = (splitOn '\n' text.toList).filterMap row? :=
  (List.map_id _).symm.trans (filter_map_eq_filterMap lineLabels id _)

/-- Every text spells one grid, and that is what is read. -/
theorem spells_iff {text : String} {grid : ButtonRows} : Spells text grid ↔ textRows text = grid := by
  have joined : ∀ line ∈ splitOn '\n' text.toList, '\n' ∉ line :=
    fun line member inside => (Text.mem_of_mem_splitOn member '\n' inside).1 rfl
  rw [textRows_eq]
  refine separated_iff (fun line row held => held.2.joined) (fun line vacant => vacant.joined)
    (fun line member row => ?_) fun line member => ?_
  · rw [lineOf_iff (joined line member), row?]
    by_cases vacant : lineLabels line = []
    · rw [if_pos vacant, vacant]
      exact iff_of_false nofun fun held => held.1 held.2.symm
    · rw [if_neg vacant, Option.some_inj]
      exact ⟨fun same => ⟨same ▸ vacant, same⟩, And.right⟩
  · rw [lineOf_iff (joined line member), row?]
    simp

instance (text : String) (grid : ButtonRows) : Decidable (Spells text grid) :=
  decidable_of_iff _ spells_iff.symm

/-- A text is read as the grid that it spells, and as the default if it spells nothing. -/
theorem rows_text_eq_ok_iff {text : String} {grid : ButtonRows} :
    rows (some (.text text)) = .ok grid ↔
      Spells text grid ∧ grid ≠ [] ∨ Spells text [] ∧ grid = defaultRows := by
  simp only [spells_iff, rows]
  split
  next vacant =>
    rw [vacant, Except.ok.injEq]
    constructor
    · exact fun same => .inr ⟨rfl, same.symm⟩
    · rintro (⟨rfl, present⟩ | ⟨-, rfl⟩)
      · exact absurd rfl present
      · rfl
  next filled =>
    rw [Except.ok.injEq]
    constructor
    · exact fun same => .inl ⟨same, same ▸ filled⟩
    · rintro (⟨same, -⟩ | ⟨vacant, -⟩)
      · exact same
      · exact absurd vacant filled

/-! ### Writing texts -/

/-- The text of a grid: its labels between commas and its rows on lines, and nothing else. -/
def plainText (grid : ButtonRows) : String :=
  "\n".intercalate (grid.map (",".intercalate ·))

theorem Holds.map {Part Value : Type} {holds : Part → Value → Prop} {vacant : Part → Prop}
    {part : Value → Part} {values : List Value} (each : ∀ value ∈ values, holds (part value) value) :
    Holds holds vacant (values.map part) values := by
  induction values with
  | nil => exact .nil
  | cons value values inductionHypothesis =>
    obtain ⟨first, later⟩ := List.forall_mem_cons.mp each
    exact .value first (inductionHypothesis later)

theorem Plain.cellOf {label : String} (plain : Plain label) : CellOf label.toList label :=
  ⟨plain, [], [], nofun, nofun, (List.append_nil _).symm⟩

/-- Plain labels with commas between them are a line of their row. -/
theorem lineOf_plain {row : List String} (present : row ≠ []) (plain : ∀ label ∈ row, Plain label) :
    LineOf (",".intercalate row).toList row := by
  refine ⟨row.map String.toList, mt List.map_eq_nil_iff.mp present, String.toList_intercalate, ?_⟩
  exact .map fun label among => (plain label among).cellOf

/-- A grid of plain labels is spelled by its plain text. -/
theorem spells_plainText {grid : ButtonRows} (present : grid ≠ []) (labelled : ∀ row ∈ grid, row ≠ [])
    (plain : ∀ row ∈ grid, ∀ label ∈ row, Plain label) : Spells (plainText grid) grid := by
  refine ⟨grid.map fun row => (",".intercalate row).toList, mt List.map_eq_nil_iff.mp present, ?_, ?_⟩
  · rw [plainText, String.toList_intercalate, List.map_map]
    rfl
  · exact .map fun row among =>
      ⟨labelled row among, lineOf_plain (labelled row among) (plain row among)⟩

/-! ### Writing lists -/

/-- A grid in the form of lists is read back. -/
theorem rows_rowsJson {grid : ButtonRows} (present : grid ≠ []) (labelled : ∀ row ∈ grid, row ≠ [])
    (filled : ∀ row ∈ grid, ∀ label ∈ row, label ≠ "") : rows (some (Call.rowsJson grid)) = .ok grid := by
  rw [Call.rowsJson, rows_of_present (mt List.map_eq_nil_iff.mp present), rowsFrom_eq_ok_iff,
    List.forall₂_map_left_iff, List.forall₂_same]
  intro row among
  refine .list (mt List.map_eq_nil_iff.mp (labelled row among)) ?_
  rw [List.forall₂_map_left_iff, List.forall₂_same]
  exact fun label inside => .text (filled row among label inside)

/-- The two forms of a grid. It is read off the list of its rows and off its plain text, and off any text
that spells it: with padding around the labels, carriage returns at the ends of lines among it, with
cells that have no label, and with lines that have none. -/
theorem reads_both_forms {grid : ButtonRows} (present : grid ≠ []) (labelled : ∀ row ∈ grid, row ≠ [])
    (plain : ∀ row ∈ grid, ∀ label ∈ row, Plain label) :
    rows (some (Call.rowsJson grid)) = .ok grid ∧
      rows (some (.text (plainText grid))) = .ok grid ∧
      Spells (plainText grid) grid ∧
      ∀ text, Spells text grid → rows (some (.text text)) = .ok grid := by
  have reads (text : String) (spells : Spells text grid) : rows (some (.text text)) = .ok grid :=
    rows_text_eq_ok_iff.mpr (.inl ⟨spells, present⟩)
  have spelled : Spells (plainText grid) grid := spells_plainText present labelled plain
  have filled (row : List String) (among : row ∈ grid) (label : String) (inside : label ∈ row) :
      label ≠ "" := by
    rintro rfl
    exact (plain row among "" inside).visible rfl
  exact ⟨rows_rowsJson present labelled filled, reads _ spelled, spelled, reads⟩

/-- Carriage returns, a blank line, blanks around labels and missing labels do no harm; the blank inside
of a label stays. -/
theorem reads_both_forms_padded :
    Spells "Yes , No\r\n \r\n,Not sure,,\t" [["Yes", "No"], ["Not sure"]] ∧
      rows (some (.text "Yes , No\r\n \r\n,Not sure,,\t")) = .ok [["Yes", "No"], ["Not sure"]] := by
  have spells : Spells "Yes , No\r\n \r\n,Not sure,,\t" [["Yes", "No"], ["Not sure"]] := by
    decide +kernel
  exact ⟨spells, (reads_both_forms (by decide) (by decide) (by decide +kernel)).2.2.2 _ spells⟩

end BotHost.Buttons
