/-
Pieces of texts: the longest beginning of one kind, the first word, and the places where a pattern
stands once case is ignored. Each search is put as a way of cutting the text.
-/

import BotHost.Text.Blank
import BotHost.Text.Folding

namespace BotHost.Text

variable {text rest : List Char}

/-! ### Blanks and digits -/

theorem toNat_of_isDigit {character : Char} (digit : character.isDigit = true) :
    0x30 ≤ character.toNat ∧ character.toNat ≤ 0x39 := by
  simp only [Char.isDigit, Bool.and_eq_true, decide_eq_true_eq, UInt32.le_iff_toNat_le] at digit
  exact digit

theorem isBlank_of_isDigit {character : Char} (digit : character.isDigit = true) :
    isBlank character = false := by
  obtain ⟨least, greatest⟩ := toNat_of_isDigit digit
  simp only [isBlank, Bool.or_eq_false_iff, Bool.and_eq_false_imp, decide_eq_true_eq,
    decide_eq_false_iff_not, beq_eq_false_iff_ne]
  omega

/-! ### The longest beginning -/

section Longest

variable {keep : Char → Bool} {kept : List Char}

theorem dropWhile_of_stop (stops : ∀ character ∈ rest.head?, keep character = false) :
    rest.dropWhile keep = rest := by
  cases rest with
  | nil => rfl
  | cons first more => simp [stops first rfl]

/-- What is taken of a text, and what is left of it, does not depend on what follows it, as long as that
does not go on with what is taken. -/
theorem takeWhile_append_of_stops (text : List Char)
    (stops : ∀ character ∈ rest.head?, keep character = false) :
    (text ++ rest).takeWhile keep = text.takeWhile keep ∧
      (text ++ rest).dropWhile keep = text.dropWhile keep ++ rest := by
  induction text with
  | nil =>
    cases rest with
    | nil => exact ⟨rfl, rfl⟩
    | cons first more => simp [stops first rfl]
  | cons first text inductionHypothesis =>
    obtain ⟨takes, drops⟩ := inductionHypothesis
    cases kept : keep first <;> simp [kept, takes, drops]

/-- Once something of a text is left, nothing that follows the text is taken. -/
theorem takeWhile_append_of_left (left : text.dropWhile keep ≠ []) :
    (text ++ rest).takeWhile keep = text.takeWhile keep ∧
      (text ++ rest).dropWhile keep = text.dropWhile keep ++ rest := by
  induction text with
  | nil => exact absurd rfl left
  | cons first text inductionHypothesis =>
    by_cases kept : keep first = true
    · rw [List.dropWhile_cons_of_pos kept] at left
      obtain ⟨takes, drops⟩ := inductionHypothesis left
      simp [kept, takes, drops]
    · simp [kept]

/-- If what is left of a text reaches to the end of a shorter one, the same is taken of both. -/
theorem takeWhile_eq_of_dropWhile_append {left : List Char}
    (drops : (text ++ rest).dropWhile keep = left ++ rest) :
    text.takeWhile keep = (text ++ rest).takeWhile keep ∧ text.dropWhile keep = left := by
  induction text with
  | nil =>
    have whole := congrArg List.length (@List.takeWhile_append_dropWhile _ keep rest)
    rw [List.nil_append] at drops
    rw [drops, List.length_append, List.length_append] at whole
    have taken : rest.takeWhile keep = [] := List.eq_nil_of_length_eq_zero (by omega)
    have nothing : left = [] := List.eq_nil_of_length_eq_zero (by omega)
    exact ⟨taken.symm, nothing.symm⟩
  | cons first text inductionHypothesis =>
    by_cases kept : keep first = true
    · rw [List.cons_append, List.dropWhile_cons_of_pos kept] at drops
      obtain ⟨takes, dropped⟩ := inductionHypothesis drops
      simp [kept, takes, dropped]
    · rw [List.cons_append, List.dropWhile_cons_of_neg kept, ← List.cons_append] at drops
      obtain rfl := List.append_cancel_right drops
      simp [kept]

theorem takeWhile_append_stop (all : ∀ character ∈ kept, keep character = true)
    (stops : ∀ character ∈ rest.head?, keep character = false) :
    (kept ++ rest).takeWhile keep = kept := by
  rw [List.takeWhile_append_of_pos all]
  cases rest with
  | nil => simp
  | cons first more => simp [stops first rfl]

theorem dropWhile_append_stop (all : ∀ character ∈ kept, keep character = true)
    (stops : ∀ character ∈ rest.head?, keep character = false) :
    (kept ++ rest).dropWhile keep = rest := by
  rw [List.dropWhile_append_of_pos all, dropWhile_of_stop stops]

/-- Two texts of one kind that begin the same text are the same, if neither could go on. -/
theorem append_inj_of_stop {kept' rest' : List Char} (all : ∀ character ∈ kept, keep character = true)
    (all' : ∀ character ∈ kept', keep character = true)
    (stops : ∀ character ∈ rest.head?, keep character = false)
    (stops' : ∀ character ∈ rest'.head?, keep character = false)
    (same : kept ++ rest = kept' ++ rest') : kept = kept' ∧ rest = rest' := by
  have taken := congrArg (List.takeWhile keep) same
  rw [takeWhile_append_stop all stops, takeWhile_append_stop all' stops'] at taken
  subst taken
  exact ⟨rfl, List.append_cancel_left same⟩

theorem head?_dropWhile (text : List Char) :
    ∀ character ∈ (text.dropWhile keep).head?, keep character = false := by
  intro character head
  have stops := List.head?_dropWhile_not keep text
  rw [head] at stops
  exact stops

theorem dropWhile_dropWhile (text : List Char) :
    (text.dropWhile keep).dropWhile keep = text.dropWhile keep :=
  dropWhile_of_stop (head?_dropWhile text)

end Longest

/-! ### The first word -/

/-- The text begins with the word, and the word ends there. -/
def BeginsWithWord (word text : List Char) : Prop :=
  ∃ rest, text = word ++ rest ∧ (∀ character ∈ word, isBlank character = false) ∧
    ∀ character ∈ rest.head?, isBlank character = true

/-- The first word of a text that does not begin with a blank. -/
theorem firstWord_eq_iff {word : List Char}
    (visible : ∀ character ∈ text.head?, isBlank character = false) :
    firstWord text = word ↔ BeginsWithWord word text := by
  rw [firstWord, dropWhile_of_stop visible]
  constructor
  · rintro rfl
    refine ⟨_, (List.takeWhile_append_dropWhile).symm, fun character among => ?_,
      fun character head => ?_⟩
    · simpa using List.all_eq_true.mp List.all_takeWhile character among
    · simpa using head?_dropWhile text character head
  · rintro ⟨rest, rfl, visible, stops⟩
    exact takeWhile_append_stop (fun character among => by simp [visible character among])
      fun character head => by simp [stops character head]

/-! ### Patterns once case is ignored -/

/-- The pattern stands somewhere in the text, once case is ignored. -/
def OccursFolded (pattern text : List Char) : Prop :=
  ∃ before middle after, text = before ++ middle ++ after ∧
    middle.map foldCase = pattern.map foldCase

theorem startsWithFolded_iff (pattern text : List Char) :
    startsWithFolded pattern text = true ↔
      ∃ middle after, text = middle ++ after ∧ middle.map foldCase = pattern.map foldCase := by
  fun_induction startsWithFolded pattern text with
  | case1 text => simp
  | case2 expected pattern => simp
  | case3 expected pattern found text inductionHypothesis =>
    rw [Bool.and_eq_true, inductionHypothesis, sameFolding, beq_iff_eq]
    constructor
    · rintro ⟨same, middle, after, rfl, folded⟩
      exact ⟨found :: middle, after, rfl, by rw [List.map_cons, List.map_cons, folded, same]⟩
    · rintro ⟨middle, after, split, folded⟩
      cases middle with
      | nil => simp at folded
      | cons first middle =>
        obtain ⟨rfl, rfl⟩ := List.cons.inj split
        obtain ⟨same, folded⟩ := List.cons.inj folded
        exact ⟨same.symm, middle, after, rfl, folded⟩

theorem containsFolded_iff (pattern text : List Char) :
    containsFolded pattern text = true ↔ OccursFolded pattern text := by
  induction text with
  | nil =>
    rw [containsFolded, startsWithFolded_iff]
    constructor
    · rintro ⟨middle, after, split, folded⟩
      exact ⟨[], middle, after, split, folded⟩
    · rintro ⟨before, middle, after, split, folded⟩
      obtain ⟨rfl, rfl, rfl⟩ : before = [] ∧ middle = [] ∧ after = [] := by
        simpa using split.symm
      exact ⟨[], [], rfl, folded⟩
  | cons found text inductionHypothesis =>
    rw [containsFolded, Bool.or_eq_true, startsWithFolded_iff, inductionHypothesis]
    constructor
    · rintro (⟨middle, after, split, folded⟩ | ⟨before, middle, after, rfl, folded⟩)
      · exact ⟨[], middle, after, split, folded⟩
      · exact ⟨found :: before, middle, after, rfl, folded⟩
    · rintro ⟨before, middle, after, split, folded⟩
      cases before with
      | nil => exact .inl ⟨middle, after, split, folded⟩
      | cons first before =>
        exact .inr ⟨before, middle, after, (List.cons.inj split).2, folded⟩

instance (pattern text : List Char) : Decidable (OccursFolded pattern text) :=
  decidable_of_iff _ (containsFolded_iff pattern text)

end BotHost.Text
