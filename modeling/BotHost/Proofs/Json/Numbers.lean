/-
Numbers that are written are read again.

What is taken of a number does not depend on what follows it, as long as that does not look like a part
of the number. The digits of a whole number of 64 bits all fit into what the reader takes, so such a
number comes back as it was. A floating-point number is read by one multiplication or division, which
may miss it, so that it has to be asked of each whether its text is read as it.
-/

import BotHost.Json.Reader
import BotHost.Json.Writer
import BotHost.Proofs.Text.Pieces
import Mathlib

namespace BotHost.Json

/-! ### What follows a number -/

/-- What follows does not look like a part of a number. -/
def Ends (rest : List Char) : Prop :=
  ∀ character ∈ rest.head?,
    character.isDigit = false ∧ character ≠ '.' ∧ character ≠ 'e' ∧ character ≠ 'E'

theorem ends_nil : Ends [] := nofun

variable {rest more : List Char}

theorem Ends.stops (ends : Ends more) : ∀ character ∈ more.head?, character.isDigit = false :=
  fun character head => (ends character head).1

variable {negative : Bool} {significand : Significand} {number : Number} {text : List Char}

theorem readExponent?_append {exponent : Int} (ends : Ends more)
    (read : readExponent? text = some (exponent, rest)) :
    readExponent? (text ++ more) = some (exponent, rest ++ more) := by
  have digits (unsigned : List Char) := Text.takeWhile_append_of_stops unsigned ends.stops
  cases text with
  | nil => cases read
  | cons sign unsigned =>
    obtain ⟨takes, drops⟩ := digits unsigned
    obtain ⟨takes', drops'⟩ := digits (sign :: unsigned)
    rw [List.cons_append] at takes' drops' ⊢
    unfold readExponent? at read ⊢
    split at read
    next negative signless isSigned =>
      split at isSigned <;> cases isSigned <;> simp_all

/-- A number behind which no exponent is written. -/
theorem finishNumber?_plain {whole : Option Number}
    (plain : ∀ character ∈ text.head?, character ≠ 'e' ∧ character ≠ 'E') :
    finishNumber? negative significand text whole =
      (whole.or ((Binary64.ofDecimal? negative significand.value.toUInt64
        significand.exponent).map .real)).map (·, text) := by
  unfold finishNumber?
  split
  · exact absurd rfl (plain 'e' rfl).1
  · exact absurd rfl (plain 'E' rfl).2
  · cases whole with
    | some number => rfl
    | none =>
      dsimp only
      rw [Option.none_or, Option.map_map]
      rfl

/-- A number behind which an exponent is written. -/
theorem finishNumber?_mark {whole : Option Number} {mark : Char} (isMark : mark = 'e' ∨ mark = 'E') :
    finishNumber? negative significand (mark :: text) whole =
      (readExponent? text).bind fun found =>
        (Binary64.ofDecimal? negative significand.value.toUInt64
          (significand.exponent + found.1)).map (.real ·, found.2) := by
  rcases isMark with rfl | rfl <;> rfl

theorem finishNumber?_append {whole : Option Number} (ends : Ends more)
    (read : finishNumber? negative significand text whole = some (number, rest)) :
    finishNumber? negative significand (text ++ more) whole = some (number, rest ++ more) := by
  by_cases plain : ∀ character ∈ text.head?, character ≠ 'e' ∧ character ≠ 'E'
  · have plain' : ∀ character ∈ (text ++ more).head?, character ≠ 'e' ∧ character ≠ 'E' := by
      cases text with
      | nil => exact fun character head => (ends character head).2.2
      | cons first written => exact plain
    rw [finishNumber?_plain plain] at read
    rw [finishNumber?_plain plain']
    obtain ⟨found, there, same⟩ := Option.map_eq_some_iff.mp read
    cases same
    rw [there]
    rfl
  · obtain ⟨mark, head, isMark⟩ : ∃ mark ∈ text.head?, mark = 'e' ∨ mark = 'E' := by
      simpa only [not_forall, not_and_or, not_not, exists_prop] using plain
    cases text with
    | nil => cases head
    | cons first written =>
      obtain rfl : first = mark := Option.some.inj head
      rw [finishNumber?_mark isMark] at read
      rw [List.cons_append, finishNumber?_mark isMark]
      obtain ⟨⟨exponent, remaining⟩, found, scaled⟩ := Option.bind_eq_some_iff.mp read
      obtain ⟨real, there, same⟩ := Option.map_eq_some_iff.mp scaled
      cases same
      rw [readExponent?_append ends found, Option.bind_some, there]
      rfl

/-- A number is read the same with something behind it that ends it. -/
theorem readUnsigned?_append (ends : Ends more)
    (read : readUnsigned? negative text = some (number, rest)) :
    readUnsigned? negative (text ++ more) = some (number, rest ++ more) := by
  obtain ⟨takes, drops⟩ := Text.takeWhile_append_of_stops text ends.stops
  unfold readUnsigned? at read ⊢
  rw [takes, drops]
  dsimp only at read ⊢
  split at read
  next => cases read
  next => cases read
  next =>
    split at read
    next afterPoint point =>
      obtain ⟨takes', drops'⟩ := Text.takeWhile_append_of_stops afterPoint ends.stops
      rw [point, List.cons_append]
      simp only [takes', drops']
      split at read
      · cases read
      · rw [if_neg ‹_›]
        exact finishNumber?_append ends read
    next noPoint =>
      obtain ⟨whole, found, finished⟩ := Option.bind_eq_some_iff.mp read
      have pointless (afterPoint : List Char) :
          text.dropWhile Char.isDigit ++ more ≠ '.' :: afterPoint := by
        cases remaining : text.dropWhile Char.isDigit with
        | nil =>
          intro point
          exact (ends '.' (by rw [← List.nil_append more, point]; rfl)).2.1 rfl
        | cons first written =>
          intro point
          obtain rfl := (List.cons.inj point).1
          exact noPoint written remaining
      split
      · exact absurd ‹_› (pointless _)
      · rw [found]
        exact finishNumber?_append ends finished

/-- A number is read as it is on its own if what follows does not look like a part of it. -/
theorem readNumber?_append (ends : Ends more) (read : readNumber? text = some (number, rest)) :
    readNumber? (text ++ more) = some (number, rest ++ more) := by
  unfold readNumber? at read
  split at read
  next unsigned => exact readUnsigned?_append ends read
  next noSign =>
    have appended := readUnsigned?_append ends read
    unfold readNumber?
    split
    next unsigned signed =>
      cases text with
      | nil => cases read
      | cons first written =>
        obtain rfl := (List.cons.inj signed).1
        exact absurd rfl (noSign written)
    next => exact appended

/-! ### Whole numbers -/

theorem digitValue_digitChar {digit : Nat} (decimal : digit < 10) :
    digitValue digit.digitChar = digit := by
  interval_cases digit <;> rfl

/-- The digits of a number of 64 bits are all taken. -/
theorem foldl_takeWhole {value : Nat} (fits : value < 2 ^ 64) :
    (Nat.toDigits 10 value).foldl Significand.takeWhole .zero = ⟨value, 0, false⟩ := by
  induction value using Nat.strongRecOn with
  | ind value inductionHypothesis =>
    have room : ¬0x10000000000000000 ≤ value := Nat.not_le_of_lt fits
    by_cases short : value < 10
    · rw [Nat.toDigits_of_lt_base short, List.foldl_cons, List.foldl_nil]
      simp only [Significand.takeWhole, Significand.zero, digitValue_digitChar short, Nat.zero_mul,
        Nat.zero_add, Bool.false_or, decide_eq_true_eq, if_neg room]
    · have whole : value / 10 * 10 + value % 10 = value := by omega
      rw [Nat.toDigits_of_base_le (by decide) (by omega), List.foldl_append,
        inductionHypothesis (value / 10) (by omega) (by omega), List.foldl_cons, List.foldl_nil]
      simp only [Significand.takeWhole, digitValue_digitChar (Nat.mod_lt value (by decide)), whole,
        Bool.false_or, decide_eq_true_eq, if_neg room]

/-- No digits stand behind a leading zero. -/
theorem toDigits_ne_zero_cons (value : Nat) (digit : Char) (digits : List Char) :
    Nat.toDigits 10 value ≠ '0' :: digit :: digits := by
  induction value using Nat.strongRecOn generalizing digit digits with
  | ind value inductionHypothesis =>
    intro padded
    by_cases short : value < 10
    · have single := congrArg List.length padded
      rw [Nat.toDigits_of_lt_base short, List.length_singleton, List.length_cons,
        List.length_cons] at single
      omega
    · rw [Nat.toDigits_of_base_le (by decide) (by omega)] at padded
      cases leading : Nat.toDigits 10 (value / 10) with
      | nil => exact Nat.toDigits_ne_nil leading
      | cons first more =>
        rw [leading, List.cons_append] at padded
        obtain ⟨rfl, padded⟩ := List.cons.inj padded
        cases more with
        | nil =>
          have zero := congrArg (Nat.ofDigitChars 10 · 0) leading
          rw [Nat.ofDigitChars_ten_toDigits] at zero
          have : value / 10 = 0 := zero
          omega
        | cons second more => exact inductionHypothesis (value / 10) (by omega) second more leading

/-- The digits of a number that fits 64 bits are read as that number. -/
theorem readUnsigned?_toDigits {value : Nat} (fits : value < 2 ^ 64) :
    readUnsigned? negative (Nat.toDigits 10 value) =
      (wholeNumber? negative ⟨value, 0, false⟩).map (·, []) := by
  have digits : ∀ character ∈ Nat.toDigits 10 value, character.isDigit = true :=
    fun character member => Nat.isDigit_of_mem_toDigits (by decide) (by decide) member
  have stops : ∀ character ∈ ([] : List Char).head?, character.isDigit = false := nofun
  have takes := Text.takeWhile_append_stop digits stops
  have drops := Text.dropWhile_append_stop digits stops
  rw [List.append_nil] at takes drops
  unfold readUnsigned?
  rw [takes, drops]
  dsimp only
  split
  next none => exact absurd none Nat.toDigits_ne_nil
  next digit digits padded => exact absurd padded (toDigits_ne_zero_cons value digit digits)
  next =>
    rw [foldl_takeWhole fits]
    cases wholeNumber? negative ⟨value, 0, false⟩ with
    | none => rfl
    | some whole =>
      show finishNumber? negative ⟨value, 0, false⟩ [] (some whole) = some (whole, [])
      rw [finishNumber?_plain (by simp)]
      rfl

/-- A whole number of 64 bits is read as it was written. -/
theorem readNumber?_integer {value : Int} (least : -2 ^ 63 ≤ value) (greatest : value < 2 ^ 64) :
    readNumber? (Number.integer value).write.toList = some (.integer value, []) := by
  cases value with
  | ofNat value =>
    have fits : value < 2 ^ 64 := by
      simp only [Int.ofNat_eq_natCast] at greatest
      omega
    have digits : (Number.integer (Int.ofNat value)).write.toList = Nat.toDigits 10 value :=
      String.toList_ofList
    have whole : wholeNumber? false ⟨value, 0, false⟩ = some (.integer value) := rfl
    rw [digits]
    unfold readNumber?
    split
    next unsigned signed =>
      have digit := Nat.isDigit_of_mem_toDigits (b := 10) (n := value) (by decide) (by decide)
        (signed ▸ List.mem_cons_self)
      cases digit
    next =>
      rw [readUnsigned?_toDigits fits, whole]
      rfl
  | negSucc value =>
    have fits : value + 1 ≤ 0x8000000000000000 := by omega
    have digits : (Number.integer (Int.negSucc value)).write.toList =
        '-' :: Nat.toDigits 10 (value + 1) := by
      show ("-" ++ toString (value + 1)).toList = _
      rw [String.toList_append, Nat.toString_eq_ofList_toDigits]
      exact congrArg ('-' :: ·) String.toList_ofList
    have whole : wholeNumber? true ⟨value + 1, 0, false⟩ = some (.integer (Int.negSucc value)) := by
      simp only [wholeNumber?, fits, Int.negSucc_eq]
      simp
    rw [digits]
    show readUnsigned? true (Nat.toDigits 10 (value + 1)) = _
    rw [readUnsigned?_toDigits (by omega), whole]
    rfl

/-- The text of a floating-point number is read as that number. -/
def ReadsBack (real : Binary64) : Prop :=
  readNumber? real.text.toList = some (.real real, [])

instance (real : Binary64) : Decidable (ReadsBack real) :=
  inferInstanceAs (Decidable (_ = _))

end BotHost.Json

namespace BotHost

/-! ### No number is written as nothing -/

theorem Binary64.layout_ne_empty (decimal : Decimal) : layout decimal ≠ "" := by
  unfold layout
  dsimp only
  split_ifs <;> simp

theorem Binary64.text_ne_empty (number : Binary64) : number.text ≠ "" := by
  unfold text
  dsimp only
  split
  · simp
  · simp [layout_ne_empty]

theorem Number.write_ne_empty (number : Number) : number.write ≠ "" := by
  cases number with
  | integer value =>
    cases value with
    | ofNat value =>
      have digits : (Number.integer (Int.ofNat value)).write.toList = Nat.toDigits 10 value :=
        String.toList_ofList
      intro empty
      rw [empty] at digits
      exact Nat.toDigits_ne_nil digits.symm
    | negSucc value =>
      show "-" ++ toString (value + 1) ≠ ""
      simp
  | real value => exact value.text_ne_empty

end BotHost
