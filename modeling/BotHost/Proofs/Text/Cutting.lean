/-
Texts cut at separators, and the blanks at the ends of a text.

A text is put together again from what lies between its separators, and no part holds one. Trimming a
text takes blanks off its ends as long as there are any, so a text is what is left of it with blanks
around, and whatever begins and ends visibly comes back from any blanks around it.
-/

import BotHost.Proofs.Text.Pieces
import BotHost.Text.Split

namespace BotHost.Text

variable {text : List Char}

/-! ### Separators -/

theorem splitOn_eq (separator : Char) (text : List Char) :
    splitOn separator text = text.splitOn separator := by
  induction text with
  | nil => rfl
  | cons character rest inductionHypothesis =>
    rw [splitOn, List.splitOn_cons_eq_if_modifyHead, inductionHypothesis]
    simp only [beq_iff_eq]
    split
    · rfl
    · cases parts : rest.splitOn separator with
      | nil => exact absurd parts (List.splitOn_ne_nil separator rest)
      | cons part parts => rfl

theorem mem_of_mem_splitOn {separator : Char} {part : List Char}
    (among : part ∈ splitOn separator text) :
    ∀ character ∈ part, character ≠ separator ∧ character ∈ text := by
  induction text generalizing part with
  | nil =>
    obtain rfl := List.mem_singleton.mp among
    exact nofun
  | cons first rest inductionHypothesis =>
    have later {other : List Char} (member : other ∈ splitOn separator rest) :
        ∀ character ∈ other, character ≠ separator ∧ character ∈ first :: rest :=
      fun character inside =>
        (inductionHypothesis member character inside).imp_right (List.mem_cons_of_mem first)
    rw [splitOn] at among
    split at among
    · obtain rfl | behind := List.mem_cons.mp among
      · exact nofun
      · exact later behind
    next different =>
      split at among
      next none => exact absurd none (splitOn_eq separator rest ▸ List.splitOn_ne_nil separator rest)
      next head parts cut =>
        rw [cut] at later
        obtain rfl | behind := List.mem_cons.mp among
        · exact List.forall_mem_cons.mpr
            ⟨⟨different, List.mem_cons_self⟩, later List.mem_cons_self⟩
        · exact later (List.mem_cons_of_mem head behind)

theorem mem_intercalate {separator character : Char} {parts : List (List Char)}
    (among : character ∈ [separator].intercalate parts) :
    character = separator ∨ ∃ part ∈ parts, character ∈ part := by
  induction parts with
  | nil => cases among
  | cons part rest inductionHypothesis =>
    cases rest with
    | nil => exact .inr ⟨part, List.mem_cons_self, by simpa using among⟩
    | cons next rest =>
      rw [List.intercalate_cons_cons] at among
      obtain (inside | between) | behind := (List.mem_append.mp among).imp_left List.mem_append.mp
      · exact .inr ⟨part, List.mem_cons_self, inside⟩
      · exact .inl (List.mem_singleton.mp between)
      · obtain same | ⟨other, member, inside⟩ := inductionHypothesis behind
        · exact .inl same
        · exact .inr ⟨other, List.mem_cons_of_mem part member, inside⟩

/-! ### Blanks at the ends -/

/-- There is nothing in the text but blanks. -/
def Blank (text : List Char) : Prop := ∀ character ∈ text, isBlank character = true

/-- The text neither begins nor ends with a blank. -/
def Trimmed (text : List Char) : Prop :=
  (∀ character ∈ text.head?, isBlank character = false) ∧
    ∀ character ∈ text.getLast?, isBlank character = false

-- Characters are finitely many, and an instance that goes through all of them could be found here.
instance : DecidablePred Trimmed := fun text =>
  decidable_of_iff (text.head?.all (!isBlank ·) ∧ text.getLast?.all (!isBlank ·))
    (by simp [Trimmed, Option.all_eq_true])

theorem Blank.reverse (blank : Blank text) : Blank text.reverse :=
  fun character member => blank character (List.mem_reverse.mp member)

theorem trimBlank_of_blank (blank : Blank text) : trimBlank text = [] := by
  have dropped : (text ++ []).dropWhile isBlank = [] := dropWhile_append_stop blank nofun
  rw [List.append_nil] at dropped
  rw [trimBlank, dropped]
  rfl

/-- Blanks around a visible text are taken off. -/
theorem trimBlank_padded {before after : List Char} (visible : text ≠ []) (trimmed : Trimmed text)
    (front : Blank before) (back : Blank after) : trimBlank (before ++ text ++ after) = text := by
  obtain ⟨first, more, rfl⟩ := List.exists_cons_of_ne_nil visible
  have begins : ∀ character ∈ (first :: more ++ after).head?, isBlank character = false := trimmed.1
  have ends : ∀ character ∈ (first :: more).reverse.head?, isBlank character = false := by
    rw [List.head?_reverse]
    exact trimmed.2
  rw [trimBlank, List.append_assoc, dropWhile_append_stop front begins, List.reverse_append,
    dropWhile_append_stop back.reverse ends, List.reverse_reverse]

theorem blank_takeWhile (text : List Char) : Blank (text.takeWhile isBlank) :=
  List.all_eq_true.mp List.all_takeWhile

/-- What is left of a text at the front is what is left of it at both ends, with blanks behind. -/
theorem exists_dropWhile_eq (text : List Char) :
    ∃ after, text.dropWhile isBlank = trimBlank text ++ after ∧ Blank after := by
  refine ⟨((text.dropWhile isBlank).reverse.takeWhile isBlank).reverse, ?_, (blank_takeWhile _).reverse⟩
  rw [trimBlank, ← List.reverse_append, List.takeWhile_append_dropWhile, List.reverse_reverse]

/-- A text is what is left of it once it is trimmed, with blanks around. -/
theorem exists_padding (text : List Char) :
    ∃ before after, text = before ++ trimBlank text ++ after ∧ Blank before ∧ Blank after := by
  obtain ⟨after, left, blank⟩ := exists_dropWhile_eq text
  refine ⟨text.takeWhile isBlank, after, ?_, blank_takeWhile text, blank⟩
  rw [List.append_assoc, ← left, List.takeWhile_append_dropWhile]

theorem trimmed_trimBlank (text : List Char) : Trimmed (trimBlank text) := by
  constructor
  · intro character head
    obtain ⟨after, left, -⟩ := exists_dropWhile_eq text
    refine head?_dropWhile text character ?_
    rw [left, List.head?_append, head]
    rfl
  · intro character last
    rw [trimBlank, List.getLast?_reverse] at last
    exact head?_dropWhile _ character last

theorem blank_of_trimBlank_eq_nil (nothing : trimBlank text = []) : Blank text := by
  obtain ⟨before, after, split, front, back⟩ := exists_padding text
  rw [nothing, List.append_nil] at split
  rw [split]
  exact List.forall_mem_append.mpr ⟨front, back⟩

end BotHost.Text
