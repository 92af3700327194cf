/-
Points in time that are written are read again.

Every part is written with at least as many digits as its width, and a mark that is no digit stands
behind each, so reading takes exactly the digits of a part. Zeros in front do not change the value of
the digits, and a fraction is written with as many groups of three digits as it needs, which reading
makes up for by a power of ten.
-/

import BotHost.Proofs.Text.Pieces
import BotHost.Time.Moment
import Mathlib

namespace BotHost.Moment

/-- A date of the calendar, and a time of day on it. -/
structure Proper (moment : Moment) : Prop where
  year : yearInRange moment.year = true
  month : 1 ≤ moment.month ∧ moment.month ≤ 12
  day : 1 ≤ moment.day ∧ moment.day ≤ daysInMonth moment.year moment.month
  hour : moment.hour ≤ 23
  minute : moment.minute ≤ 59
  second : moment.second ≤ 60
  nanosecond : moment.nanosecond < 10 ^ 9

/-! ### Digits -/

variable {digits more : List Char} {width value : Nat}

theorem digitsValue_eq_ofDigitChars (digits : List Char) :
    digitsValue digits = Nat.ofDigitChars 10 digits 0 := by
  simp only [digitsValue, Nat.ofDigitChars, Nat.mul_comm]

theorem padded_toList (width value : Nat) : (padded width value).toList =
    List.replicate (width - (Nat.toDigits 10 value).length) '0' ++ Nat.toDigits 10 value :=
  String.toList_ofList

theorem isDigit_of_mem_padded : ∀ character ∈ (padded width value).toList,
    character.isDigit = true := by
  intro character member
  rw [padded_toList, List.mem_append] at member
  rcases member with zero | digit
  · rw [List.eq_of_mem_replicate zero]
    rfl
  · exact Nat.isDigit_of_mem_toDigits (by decide) (by decide) digit

theorem padded_ne_nil : (padded width value).toList ≠ [] := by
  rw [padded_toList]
  exact List.append_ne_nil_of_right_ne_nil _ Nat.toDigits_ne_nil

/-- A number that has room in the width takes exactly that many digits. -/
theorem length_padded (positive : 0 < width) (room : value < 10 ^ width) :
    (padded width value).toList.length = width := by
  have short := (Nat.length_toDigits_le_iff (by decide) positive).mpr room
  rw [padded_toList, List.length_append, List.length_replicate]
  omega

/-- Zeros in front do not change the value. -/
theorem digitsValue_padded (width value : Nat) :
    digitsValue (padded width value).toList = value := by
  have zeros (count : Nat) : Nat.ofDigitChars 10 (List.replicate count '0') 0 = 0 := by
    induction count with
    | zero => rfl
    | succ count inductionHypothesis =>
      rw [List.replicate_succ, Nat.ofDigitChars_cons]
      exact inductionHypothesis
  rw [digitsValue_eq_ofDigitChars, padded_toList, Nat.ofDigitChars_append, zeros,
    Nat.ofDigitChars_ten_toDigits]

/-- Digits that something else stands behind are all taken if there is room for them. -/
theorem takeWhile_take_append {most : Nat} (all : ∀ character ∈ digits, character.isDigit = true)
    (room : digits.length ≤ most) (stops : ∀ character ∈ more.head?, character.isDigit = false) :
    ((digits ++ more).take most).takeWhile Char.isDigit = digits := by
  rw [List.take_append, List.take_of_length_le room]
  refine Text.takeWhile_append_stop all fun character head => ?_
  rw [List.head?_take] at head
  split at head
  · cases head
  · exact stops character head

theorem readDigits?_append {most : Nat} (all : ∀ character ∈ digits, character.isDigit = true)
    (present : digits ≠ []) (room : digits.length ≤ most)
    (stops : ∀ character ∈ more.head?, character.isDigit = false) :
    readDigits? most (digits ++ more) = some (digitsValue digits, more) := by
  rw [readDigits?, takeWhile_take_append all room stops, List.drop_left]
  exact if_neg (by simpa using present)

theorem skipBlank_append (all : ∀ character ∈ digits, character.isDigit = true)
    (present : digits ≠ []) : skipBlank (digits ++ more) = digits ++ more := by
  cases digits with
  | nil => exact absurd rfl present
  | cons first rest =>
    have visible := Text.isBlank_of_isDigit (all first List.mem_cons_self)
    exact List.dropWhile_cons_of_neg (by simp [visible])

/-! ### The parts -/

/-- A part of two digits. -/
theorem readField?_padded {least greatest : Nat} (bounds : least ≤ value ∧ value ≤ greatest)
    (room : value < 100) (stops : ∀ character ∈ more.head?, character.isDigit = false) :
    readField? least greatest ((padded 2 value).toList ++ more) = some (value, more) := by
  rw [readField?, skipBlank_append isDigit_of_mem_padded padded_ne_nil,
    readDigits?_append isDigit_of_mem_padded padded_ne_nil
      (Nat.le_of_eq (length_padded (by decide) room)) stops, digitsValue_padded]
  exact if_pos bounds

theorem readMark?_cons {mark : Char} (visible : Text.isBlank mark = false) :
    readMark? mark (mark :: more) = some more := by
  rw [readMark?, skipBlank, List.dropWhile_cons_of_neg (by simp [visible])]
  exact if_pos rfl

/-- A year with a sign, read without a bound for its digits. -/
theorem readDigits?_year (stops : ∀ character ∈ more.head?, character.isDigit = false) :
    readDigits? ((padded 4 value).toList ++ more).length ((padded 4 value).toList ++ more) =
      some (value, more) := by
  rw [readDigits?_append isDigit_of_mem_padded padded_ne_nil (by simp) stops, digitsValue_padded]

theorem readYear?_minus : readYear? ('-' :: more) =
    (readDigits? more.length more).map fun (value, rest) => (-(value : Int), rest) := rfl

theorem readYear?_plus : readYear? ('+' :: more) =
    (readDigits? more.length more).map fun (value, rest) => ((value : Int), rest) := rfl

theorem readYear?_yearText (year : Int)
    (stops : ∀ character ∈ more.head?, character.isDigit = false) :
    readYear? ((yearText year).toList ++ more) = some (year, more) := by
  unfold yearText
  split
  next plain =>
    have room : year.toNat < 10 ^ 4 := by omega
    have unsigned {mark : Char} {rest : List Char} (noDigit : mark.isDigit = false)
        (same : (padded 4 year.toNat).toList ++ more = mark :: rest) : False := by
      cases written : (padded 4 year.toNat).toList with
      | nil => exact padded_ne_nil written
      | cons first others =>
        rw [written, List.cons_append] at same
        have digit := isDigit_of_mem_padded first (written ▸ List.mem_cons_self)
        rw [(List.cons.inj same).1, noDigit] at digit
        cases digit
    unfold readYear?
    rw [skipBlank_append isDigit_of_mem_padded padded_ne_nil]
    split
    next same => exact absurd same (unsigned rfl)
    next same => exact absurd same (unsigned rfl)
    next =>
      rw [readDigits?_append isDigit_of_mem_padded padded_ne_nil
        (Nat.le_of_eq (length_padded (by decide) room)) stops, digitsValue_padded, Option.map_some]
      dsimp only
      rw [Int.toNat_of_nonneg plain.1]
  next signed =>
    have read := @readDigits?_year more year.natAbs stops
    rw [String.toList_append, List.append_assoc]
    split
    next negative =>
      have magnitude : -(year.natAbs : Int) = year := by omega
      have sign : "-".toList = ['-'] := rfl
      rw [sign, List.singleton_append, readYear?_minus, read, Option.map_some]
      dsimp only
      rw [magnitude]
    next positive =>
      have magnitude : (year.natAbs : Int) = year := by omega
      have sign : "+".toList = ['+'] := rfl
      rw [sign, List.singleton_append, readYear?_plus, read, Option.map_some]
      dsimp only
      rw [magnitude]

/-- A fraction of so many digits counts in units of the ninth digit. -/
theorem readFraction?_padded (positive : 0 < width) (most : width ≤ 9) (room : value < 10 ^ width)
    (stops : ∀ character ∈ more.head?, character.isDigit = false) :
    readFraction? ('.' :: ((padded width value).toList ++ more)) =
      some (value * 10 ^ (9 - width), more) := by
  have length := length_padded positive room
  have fits : (padded width value).toList.length ≤ 9 := Nat.le_trans (Nat.le_of_eq length) most
  rw [readFraction?, readDigits?_append isDigit_of_mem_padded padded_ne_nil fits stops,
    takeWhile_take_append isDigit_of_mem_padded fits stops, digitsValue_padded, length]
  exact congrArg (fun rest => some (value * 10 ^ (9 - width), rest)) (Text.dropWhile_of_stop stops)

theorem readFraction?_fractionText {nanosecond : Nat} (bound : nanosecond < 10 ^ 9)
    (plain : ∀ character ∈ more.head?, character.isDigit = false ∧ character ≠ '.') :
    readFraction? ((fractionText nanosecond).toList ++ more) = some (nanosecond, more) := by
  have stops : ∀ character ∈ more.head?, character.isDigit = false :=
    fun character head => (plain character head).1
  have point (digits : List Char) : ".".toList ++ digits = '.' :: digits := rfl
  unfold fractionText
  split
  next none =>
    subst none
    cases more with
    | nil => rfl
    | cons first rest =>
      unfold readFraction?
      split
      next pointed => exact absurd (List.cons.inj pointed).1 (plain first rfl).2
      next => rfl
  split
  next thousandths =>
    have whole : nanosecond / 1000000 * 10 ^ (9 - 3) = nanosecond := by omega
    rw [String.toList_append, List.append_assoc, point,
      readFraction?_padded (by decide) (by decide) (by omega) stops, whole]
  split
  next millionths =>
    have whole : nanosecond / 1000 * 10 ^ (9 - 6) = nanosecond := by omega
    rw [String.toList_append, List.append_assoc, point,
      readFraction?_padded (by decide) (by decide) (by omega) stops, whole]
  next =>
    have whole : nanosecond * 10 ^ (9 - 9) = nanosecond := by omega
    rw [String.toList_append, List.append_assoc, point,
      readFraction?_padded (by decide) (by decide) bound stops, whole]

theorem daysInMonth_le (year : Int) (month : Nat) : daysInMonth year month ≤ 31 := by
  unfold daysInMonth
  repeat' split
  all_goals decide

/-- No digit follows the digits of a second. -/
theorem not_isDigit_fractionText (nanosecond : Nat) :
    ∀ character ∈ ((fractionText nanosecond).toList ++ ['Z']).head?, character.isDigit = false := by
  have point (digits : String) :
      ("." ++ digits).toList ++ ['Z'] = '.' :: (digits.toList ++ ['Z']) := by
    rw [String.toList_append, List.append_assoc]
    rfl
  intro character head
  have mark : character = '.' ∨ character = 'Z' := by
    unfold fractionText at head
    repeat' split at head
    · exact .inr (Option.some.inj head).symm
    all_goals
      rw [point] at head
      exact .inl (Option.some.inj head).symm
  rcases mark with rfl | rfl <;> rfl

/-- The text of a point in time is read as that point in time. -/
theorem Proper.parse?_write {moment : Moment} (proper : Proper moment) :
    parse? moment.write = some moment := by
  obtain ⟨year, month, day, hour, minute, second, nanosecond⟩ := moment
  obtain ⟨yearFits, monthFits, dayFits, hourFits, minuteFits, secondFits, fractionFits⟩ := proper
  dsimp only at *
  have days := Nat.le_trans dayFits.2 (daysInMonth_le year month)
  have written : (write ⟨year, month, day, hour, minute, second, nanosecond⟩).toList =
      (yearText year).toList ++ '-' :: ((padded 2 month).toList ++ '-' :: ((padded 2 day).toList ++
        'T' :: ((padded 2 hour).toList ++ ':' :: ((padded 2 minute).toList ++
          ':' :: ((padded 2 second).toList ++ ((fractionText nanosecond).toList ++ ['Z'])))))) := by
    simp [write]
  have stops {mark : Char} {rest : List Char} (noDigit : mark.isDigit = false) :
      ∀ character ∈ (mark :: rest).head?, character.isDigit = false := by
    intro character head
    rwa [← Option.some.inj head]
  have mark : ∀ character ∈ ['Z'].head?, character.isDigit = false ∧ character ≠ '.' := by
    intro character head
    obtain rfl := Option.some.inj head
    decide
  unfold parse?
  rw [written]
  refine Option.bind_eq_some_iff.mpr ⟨_, readYear?_yearText year (stops rfl), ?_⟩
  refine Option.bind_eq_some_iff.mpr ⟨_, readMark?_cons rfl, ?_⟩
  refine Option.bind_eq_some_iff.mpr ⟨_, readField?_padded monthFits (by omega) (stops rfl), ?_⟩
  refine Option.bind_eq_some_iff.mpr ⟨_, readMark?_cons rfl, ?_⟩
  refine Option.bind_eq_some_iff.mpr
    ⟨_, readField?_padded ⟨dayFits.1, days⟩ (by omega) (stops rfl), ?_⟩
  refine Option.bind_eq_some_iff.mpr ⟨_, rfl, ?_⟩
  refine Option.bind_eq_some_iff.mpr
    ⟨_, readField?_padded ⟨Nat.zero_le hour, hourFits⟩ (by omega) (stops rfl), ?_⟩
  refine Option.bind_eq_some_iff.mpr ⟨_, readMark?_cons rfl, ?_⟩
  refine Option.bind_eq_some_iff.mpr
    ⟨_, readField?_padded ⟨Nat.zero_le minute, minuteFits⟩ (by omega) (stops rfl), ?_⟩
  refine Option.bind_eq_some_iff.mpr ⟨_, readMark?_cons rfl, ?_⟩
  refine Option.bind_eq_some_iff.mpr
    ⟨_, readField?_padded ⟨Nat.zero_le second, secondFits⟩ (by omega)
      (not_isDigit_fractionText nanosecond), ?_⟩
  refine Option.bind_eq_some_iff.mpr ⟨_, readFraction?_fractionText fractionFits mark, ?_⟩
  exact if_pos ⟨rfl, dayFits.2, yearFits, yearFits⟩

end BotHost.Moment
