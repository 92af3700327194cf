/-
Quoted texts end where they seem to end.

What stands for a character inside quotes tells where it ends: an escape by its letter, an escape with a
code by its closing brace, and every other character stands for itself. So a reader takes one character
after the other, the closing quote is the first that is not written as an escape, and no two texts are
quoted alike, whatever follows them.
-/

import BotHost.Number.Decimal
import BotHost.Proofs.Text.Pieces
import BotHost.Text.Quoted

namespace BotHost.Text

variable {rest rest' : List Char}

/-! ### Digits of base sixteen -/

theorem hexValue?_digitChar : ∀ digit < 16, Json.hexValue? digit.digitChar = some digit := by
  decide

theorem digitsValue_hexDigits (code : Nat) : digitsValue 16 (hexDigits code) = code := by
  unfold hexDigits
  induction code using Nat.strongRecOn with
  | ind code inductionHypothesis =>
    by_cases single : code < 16
    · rw [Nat.toDigits_of_lt_base single, digitsValue, List.foldl_cons, List.foldl_nil,
        hexValue?_digitChar code single, Option.getD_some, Nat.zero_mul, Nat.zero_add]
    · have front := inductionHypothesis (code / 16) (by omega)
      rw [digitsValue] at front
      rw [Nat.toDigits_of_base_le (by decide) (by omega), digitsValue, List.foldl_append, front,
        List.foldl_cons, List.foldl_nil, hexValue?_digitChar _ (Nat.mod_lt code (by decide)),
        Option.getD_some]
      omega

theorem ne_brace_of_mem_hexDigits {code : Nat} {digit : Char} (among : digit ∈ hexDigits code) :
    digit ≠ '\x7d' := by
  unfold hexDigits at among
  induction code using Nat.strongRecOn with
  | ind code inductionHypothesis =>
    by_cases single : code < 16
    · rw [Nat.toDigits_of_lt_base single, List.mem_singleton] at among
      exact among ▸ Nat.digitChar_ne _ (by decide)
    · rw [Nat.toDigits_of_base_le (by decide) (by omega), List.mem_append,
        List.mem_singleton] at among
      rcases among with front | last
      · exact inductionHypothesis (code / 16) (by omega) front
      · exact last ▸ Nat.digitChar_ne _ (by decide)

/-! ### One character -/

/-- The character that a letter behind a backslash stands for. -/
def unquote (mark : Char) : Char :=
  if mark = 'n' then '\n' else if mark = 'r' then '\r' else if mark = 't' then '\t'
  else if mark = '0' then '\x00' else mark

/-- Reads what stands for one character inside quotes; nothing at a closing quote. -/
def readQuoted? : List Char → Option (Char × List Char)
  | '\\' :: 'u' :: '\x7b' :: text =>
    some (.ofNat (digitsValue 16 (text.takeWhile (· != '\x7d'))),
      (text.dropWhile (· != '\x7d')).drop 1)
  | '\\' :: mark :: text => some (unquote mark, text)
  | '"' :: _ => none
  | character :: text => some (character, text)
  | [] => none

theorem readQuoted?_quote : readQuoted? ('"' :: rest) = none := rfl

theorem readQuoted?_escapeCode (character : Char) :
    readQuoted? (escapeCode character ++ rest) = some (character, rest) := by
  have digits : ∀ digit ∈ hexDigits character.toNat, (digit != '\x7d') = true :=
    fun digit among => bne_iff_ne.mpr (ne_brace_of_mem_hexDigits among)
  have stops : ∀ brace ∈ ('\x7d' :: rest).head?, (brace != '\x7d') = false := by simp
  have text : escapeCode character ++ rest =
      '\\' :: 'u' :: '\x7b' :: (hexDigits character.toNat ++ '\x7d' :: rest) := by
    simp [escapeCode]
  rw [text, readQuoted?, takeWhile_append_stop digits stops, dropWhile_append_stop digits stops,
    digitsValue_hexDigits, Char.ofNat_toNat]
  rfl

/-- What stands for a character is read as that character. -/
theorem readQuoted?_quoteCharacter (character : Char) :
    readQuoted? (quoteCharacter character ++ rest) = some (character, rest) := by
  unfold quoteCharacter
  split
  next same => subst same; rfl
  split
  next same => subst same; rfl
  split
  next same => subst same; rfl
  split
  next same => subst same; rfl
  split
  next same => subst same; rfl
  split
  next code =>
    obtain rfl : character = '\x00' := Char.toNat_inj.mp code
    rfl
  split
  next => exact readQuoted?_escapeCode character
  next quote backslash _ _ _ _ _ =>
    rw [List.singleton_append]
    unfold readQuoted?
    split <;> simp_all

/-! ### Whole texts -/

/-- Texts written inside quotes are the same, and so is what follows the quotes, if together they make
the same text. -/
theorem flatMap_quoteCharacter_inj {value value' : List Char}
    (same : value.flatMap quoteCharacter ++ '"' :: rest =
      value'.flatMap quoteCharacter ++ '"' :: rest') : value = value' ∧ rest = rest' := by
  induction value generalizing value' with
  | nil =>
    cases value' with
    | nil => exact ⟨rfl, (List.cons.inj same).2⟩
    | cons character value' =>
      have read := congrArg readQuoted? same
      rw [List.flatMap_nil, List.nil_append, readQuoted?_quote, List.flatMap_cons, List.append_assoc,
        readQuoted?_quoteCharacter] at read
      cases read
  | cons character value inductionHypothesis =>
    have read := congrArg readQuoted? same
    rw [List.flatMap_cons, List.append_assoc, readQuoted?_quoteCharacter] at read
    cases value' with
    | nil =>
      rw [List.flatMap_nil, List.nil_append, readQuoted?_quote] at read
      cases read
    | cons other value' =>
      rw [List.flatMap_cons, List.append_assoc, readQuoted?_quoteCharacter] at read
      obtain ⟨rfl, behind⟩ := Prod.mk.inj (Option.some.inj read)
      obtain ⟨rfl, rfl⟩ := inductionHypothesis behind
      exact ⟨rfl, rfl⟩

theorem quoted_append_inj {text text' : String}
    (same : (quoted text).toList ++ rest = (quoted text').toList ++ rest') :
    text = text' ∧ rest = rest' := by
  simp only [quoted, String.toList_ofList, List.cons_append, List.append_assoc, List.nil_append,
    List.cons.injEq, true_and] at same
  obtain ⟨characters, rfl⟩ := flatMap_quoteCharacter_inj same
  exact ⟨String.toList_inj.mp characters, rfl⟩

end BotHost.Text
