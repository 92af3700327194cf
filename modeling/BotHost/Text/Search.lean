/-
Finding one text in another, and the length of a text in the units that chat clients count.
-/

namespace BotHost.Text

/-- Whether the pattern stands somewhere in the text. -/
def occursIn (pattern : List Char) : (text : List Char) → Bool
  | [] => pattern.isEmpty
  | character :: rest => pattern.isPrefixOf (character :: rest) || occursIn pattern rest

theorem occursIn_iff (pattern text : List Char) :
    occursIn pattern text = true ↔ ∃ before after, text = before ++ pattern ++ after := by
  induction text with
  | nil =>
    simp only [occursIn, List.isEmpty_iff]
    constructor
    · rintro rfl
      exact ⟨[], [], rfl⟩
    · rintro ⟨before, after, split⟩
      have := congrArg List.length split
      simp at this
      exact List.eq_nil_of_length_eq_zero (by omega)
  | cons character rest inductionHypothesis =>
    simp only [occursIn, Bool.or_eq_true, inductionHypothesis, List.isPrefixOf_iff_prefix]
    constructor
    · rintro (⟨after, split⟩ | ⟨before, after, split⟩)
      · exact ⟨[], after, by simp [split]⟩
      · exact ⟨character :: before, after, by simp [split]⟩
    · rintro ⟨before, after, split⟩
      cases before with
      | nil => exact Or.inl ⟨after, by simpa using split.symm⟩
      | cons head before =>
        simp only [List.cons_append, List.cons.injEq] at split
        exact Or.inr ⟨before, after, split.2⟩

/-- How many 16-bit units a character takes. -/
def characterUnits16 (character : Char) : Nat :=
  if character.toNat ≤ 0xffff then 1 else 2

/-- The length of a text in 16-bit units. -/
def units16 (text : String) : Nat :=
  (text.toList.map characterUnits16).foldr (· + ·) 0

/-- The length of a text in bytes of its UTF-8 form. -/
def byteLength (text : List Char) : Nat :=
  (text.map Char.utf8Size).foldr (· + ·) 0

end BotHost.Text
