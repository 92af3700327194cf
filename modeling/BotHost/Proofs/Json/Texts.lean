/-
Texts that are written are read again.

Each character of a text is escaped on its own, and the reader takes one character at a time, so reading
follows the text character by character: whatever stands for a character is read as that character.
-/

import BotHost.Json.Reader
import BotHost.Json.Writer
import Mathlib

namespace BotHost.Json

variable {text : List Char}

/-- A hexadecimal digit is read as its value. -/
theorem hexValue?_hexDigit : ∀ value < 16, hexValue? (hexDigit value) = some value := by
  decide

/-- A control character that has no letter of its own is read from its number. -/
theorem readUnit?_low {value : Nat} (low : value < 0x100) :
    readUnit? ('0' :: '0' :: hexDigit (value / 16) :: hexDigit (value % 16) :: text) =
      some (value, text) := by
  have zero : hexValue? '0' = some 0 := rfl
  have unit : ((0 * 16 + 0) * 16 + value / 16) * 16 + value % 16 = value := by omega
  have high : hexValue? (hexDigit (value / 16)) = some (value / 16) :=
    hexValue?_hexDigit _ (by omega)
  have last : hexValue? (hexDigit (value % 16)) = some (value % 16) :=
    hexValue?_hexDigit _ (by omega)
  simp only [readUnit?, zero, high, last, Option.bind_eq_bind, Option.bind_some, unit]

theorem readUnits?_control {character : Char} (control : character.toNat < 0x20) :
    readUnits? ('0' :: '0' :: hexDigit (character.toNat / 16) :: hexDigit (character.toNat % 16) ::
      text) = some (character, text) := by
  unfold readUnits?
  rw [readUnit?_low (by omega), Option.bind_eq_bind, Option.bind_some]
  dsimp only
  rw [if_neg (by omega), if_neg (by omega), Char.ofNat_toNat]

/-- What stands for a character is read as that character. -/
theorem readText?_escapeCharacter (fuel : Nat) (done : List Char) (character : Char) :
    readText? (fuel + 1) done (escapeCharacter character ++ text) =
      readText? fuel (character :: done) text := by
  unfold escapeCharacter
  split
  next same => subst same; rfl
  split
  next same => subst same; rfl
  split
  next same => subst same; rfl
  split
  next same => subst same; rfl
  split
  next same => subst same; rfl
  split
  next code =>
    obtain rfl : character = '\x08' := Char.toNat_inj.mp code
    rfl
  split
  next code =>
    obtain rfl : character = '\x0c' := Char.toNat_inj.mp code
    rfl
  split
  next control =>
    have units := @readUnits?_control text character control
    show (readUnits? ('0' :: '0' :: hexDigit (character.toNat / 16) ::
      hexDigit (character.toNat % 16) :: text)).bind _ = _
    rw [units]
    rfl
  next quote backslash _ _ _ _ _ plain =>
    conv =>
      lhs
      unfold readText?
    split
    next ended => cases ended
    next closed => exact absurd (List.cons.inj closed).1 quote
    next escaped => exact absurd (List.cons.inj escaped).1 backslash
    next escaped => exact absurd (List.cons.inj escaped).1 backslash
    next same =>
      cases same
      exact if_neg (not_or.mpr ⟨plain, backslash⟩)

/-- A text that has been written is read up to its closing quote. -/
theorem readText?_flatMap (value : List Char) (fuel : Nat) (done : List Char)
    (enough : value.length < fuel) :
    readText? fuel done (value.flatMap escapeCharacter ++ '"' :: text) =
      some (String.ofList (done.reverse ++ value), text) := by
  induction value generalizing fuel done with
  | nil =>
    obtain ⟨fuel, rfl⟩ := Nat.exists_eq_succ_of_ne_zero (Nat.ne_of_gt enough)
    rw [List.append_nil]
    rfl
  | cons character value inductionHypothesis =>
    obtain ⟨fuel, rfl⟩ := Nat.exists_eq_succ_of_ne_zero (Nat.ne_of_gt (Nat.zero_lt_of_lt enough))
    rw [List.flatMap_cons, List.append_assoc, readText?_escapeCharacter,
      inductionHypothesis fuel (character :: done) (by simpa using enough), List.reverse_cons,
      List.append_assoc, List.singleton_append]

end BotHost.Json
