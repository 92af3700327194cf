/-
Values that are written are read again.

The reader takes a value off the front of a text, so the induction over the value has to speak of what
may follow: the text of a value comes back as that value in front of everything that does not look like
a part of a number. One level of lists and objects is used up where a list or an object is entered, and
what the reader is given to go on for always exceeds the text that is left.
-/

import BotHost.Proofs.Json.Numbers
import BotHost.Proofs.Json.Texts
import Mathlib

namespace BotHost.Json

/-! ### Which values are read again -/

/-- A value that is kept as it is: whole numbers fit 64 bits, and the fields of every object stand in
ascending order, each once. -/
inductive Proper : Json → Prop
  | protected null : Proper .null
  | protected boolean (value : Bool) : Proper (.boolean value)
  | integer {value : Int} (least : -2 ^ 63 ≤ value) (greatest : value < 2 ^ 64) :
      Proper (.number (.integer value))
  | real (value : Binary64) : Proper (.number (.real value))
  | protected text (value : String) : Proper (.text value)
  | protected list {items : List Json} (proper : ∀ item ∈ items, Proper item) :
      Proper (.list items)
  | protected object {fields : List (String × Json)}
      (ascending : (fields.map Prod.fst).Pairwise (· < ·))
      (proper : ∀ field ∈ fields, Proper field.2) : Proper (.object fields)

mutual

/-- The floating-point numbers in a value. -/
def reals : Json → List Binary64
  | .number (.real value) => [value]
  | .list items => realsOfItems items
  | .object fields => realsOfFields fields
  | _ => []

def realsOfItems : List Json → List Binary64
  | [] => []
  | item :: rest => reals item ++ realsOfItems rest

def realsOfFields : List (String × Json) → List Binary64
  | [] => []
  | (_, value) :: rest => reals value ++ realsOfFields rest

end

mutual

/-- How many levels of lists and objects a value has. -/
def levels : Json → Nat
  | .list items => levelsOfItems items + 1
  | .object fields => levelsOfFields fields + 1
  | _ => 0

def levelsOfItems : List Json → Nat
  | [] => 0
  | item :: rest => max (levels item) (levelsOfItems rest)

def levelsOfFields : List (String × Json) → Nat
  | [] => 0
  | (_, value) :: rest => max (levels value) (levelsOfFields rest)

end

variable {item value : Json} {items : List Json} {field : String × Json}
  {fields : List (String × Json)} {text more : List Char} {fuel depth : Nat}

theorem mem_realsOfItems (member : item ∈ items) {real : Binary64} (inside : real ∈ item.reals) :
    real ∈ realsOfItems items := by
  induction items with
  | nil => cases member
  | cons first rest inductionHypothesis =>
    rw [realsOfItems, List.mem_append]
    rcases List.mem_cons.mp member with rfl | member
    · exact .inl inside
    · exact .inr (inductionHypothesis member)

theorem mem_realsOfFields (member : field ∈ fields) {real : Binary64}
    (inside : real ∈ field.2.reals) : real ∈ realsOfFields fields := by
  induction fields with
  | nil => cases member
  | cons first rest inductionHypothesis =>
    rw [realsOfFields, List.mem_append]
    rcases List.mem_cons.mp member with rfl | member
    · exact .inl inside
    · exact .inr (inductionHypothesis member)

theorem levels_le_levelsOfItems (member : item ∈ items) : item.levels ≤ levelsOfItems items := by
  induction items with
  | nil => cases member
  | cons first rest inductionHypothesis =>
    rw [levelsOfItems]
    rcases List.mem_cons.mp member with rfl | member
    · exact Nat.le_max_left _ _
    · exact Nat.le_trans (inductionHypothesis member) (Nat.le_max_right _ _)

theorem levels_le_levelsOfFields (member : field ∈ fields) :
    field.2.levels ≤ levelsOfFields fields := by
  induction fields with
  | nil => cases member
  | cons first rest inductionHypothesis =>
    rw [levelsOfFields]
    rcases List.mem_cons.mp member with rfl | member
    · exact Nat.le_max_left _ _
    · exact Nat.le_trans (inductionHypothesis member) (Nat.le_max_right _ _)

/-! ### One value in front of more text -/

/-- A text that begins with a character that is neither a blank nor closes a list or an object. -/
def Opens (text : List Char) : Prop :=
  ∃ first rest, text = first :: rest ∧ isSpace first = false ∧ first ≠ ']' ∧ first ≠ '\x7d'

/-- With so many levels still allowed, the text of a value is read as that value. -/
structure Returns (depth : Nat) (value : Json) : Prop where
  opens : Opens value.write.toList
  reads : ∀ (fuel : Nat) (more : List Char), value.write.toList.length ≤ fuel → Ends more →
    readValue? fuel depth (value.write.toList ++ more) = some (value, more)

theorem Opens.append (opens : Opens text) (more : List Char) : Opens (text ++ more) := by
  obtain ⟨first, rest, rfl, conditions⟩ := opens
  exact ⟨first, rest ++ more, rfl, conditions⟩

theorem Opens.skipSpace (opens : Opens text) : skipSpace text = text := by
  obtain ⟨first, rest, rfl, solid, _⟩ := opens
  exact List.dropWhile_cons_of_neg (by simp [solid])

theorem returns_null (depth : Nat) : Returns depth .null where
  opens := ⟨'n', ['u', 'l', 'l'], rfl, rfl, by decide, by decide⟩
  reads fuel more enough _ := by
    obtain ⟨fuel, rfl⟩ := Nat.exists_eq_add_of_le' (Nat.le_trans (by decide) enough : 1 ≤ fuel)
    rfl

theorem returns_boolean (depth : Nat) (value : Bool) : Returns depth (.boolean value) := by
  cases value
  · have opens : Opens ['f', 'a', 'l', 's', 'e'] := ⟨'f', _, rfl, rfl, by decide, by decide⟩
    refine ⟨opens, fun fuel more enough _ => ?_⟩
    obtain ⟨fuel, rfl⟩ := Nat.exists_eq_add_of_le' (Nat.le_trans (by decide) enough : 1 ≤ fuel)
    rfl
  · have opens : Opens ['t', 'r', 'u', 'e'] := ⟨'t', _, rfl, rfl, by decide, by decide⟩
    refine ⟨opens, fun fuel more enough _ => ?_⟩
    obtain ⟨fuel, rfl⟩ := Nat.exists_eq_add_of_le' (Nat.le_trans (by decide) enough : 1 ≤ fuel)
    rfl

/-- A number begins with a digit or a sign. -/
theorem readNumber?_head {number : Number} (read : readNumber? text = some (number, more)) :
    ∃ first rest, text = first :: rest ∧ (first = '-' ∨ first.isDigit = true) := by
  cases text with
  | nil => cases read
  | cons first rest =>
    refine ⟨first, rest, rfl, ?_⟩
    by_contra neither
    obtain ⟨signless, other⟩ := not_or.mp neither
    unfold readNumber? at read
    split at read
    next signed => exact signless (List.cons.inj signed).1
    next =>
      unfold readUnsigned? at read
      rw [List.takeWhile_cons_of_neg other] at read
      cases read

/-- What else a text may begin with is neither a sign nor a digit. -/
theorem not_numeric : ∀ character ∈
    [' ', '\n', '\t', '\r', ']', '\x7d', 'n', 't', 'f', '"', '[', '\x7b'],
    ¬(character = '-' ∨ character.isDigit = true) := by
  simp only [List.forall_mem_cons, List.not_mem_nil, false_imp_iff, implies_true]
  decide

/-- A number that is read back by itself is read back as a value. -/
theorem returns_number {number : Number}
    (read : readNumber? number.write.toList = some (number, [])) (depth : Nat) :
    Returns depth (.number number) := by
  obtain ⟨first, rest, written, numeric⟩ := readNumber?_head read
  have differs (other : Char) (member : other ∈
      [' ', '\n', '\t', '\r', ']', '\x7d', 'n', 't', 'f', '"', '[', '\x7b']) : first ≠ other :=
    fun equal => not_numeric other member (equal ▸ numeric)
  have other {remaining : List Char} {character : Char} {following : List Char}
      (equal : first :: remaining = character :: following) : first = character :=
    (List.cons.inj equal).1
  have opens : Opens (first :: rest) :=
    ⟨first, rest, rfl, by simp [isSpace, differs], differs _ (by simp), differs _ (by simp)⟩
  have text : (write (.number number)).toList = first :: rest := written
  refine ⟨text ▸ opens, fun fuel more enough ends => ?_⟩
  rw [text] at enough ⊢
  obtain ⟨fuel, rfl⟩ := Nat.exists_eq_add_of_le' (Nat.le_trans (by simp) enough : 1 ≤ fuel)
  have appended := readNumber?_append ends read
  rw [written] at appended
  unfold readValue?
  rw [(opens.append more).skipSpace]
  split
  next equal => exact absurd (other equal) (differs _ (by simp))
  next equal => exact absurd (other equal) (differs _ (by simp))
  next equal => exact absurd (other equal) (differs _ (by simp))
  next equal => exact absurd (other equal) (differs _ (by simp))
  next equal => exact absurd (other equal) (differs _ (by simp))
  next equal => exact absurd (other equal) (differs _ (by simp))
  next => exact congrArg (Option.map _) appended

theorem length_le_flatMap_escapeCharacter (value : List Char) :
    value.length ≤ (value.flatMap escapeCharacter).length := by
  induction value with
  | nil => exact Nat.le_refl 0
  | cons character value inductionHypothesis =>
    have : 1 ≤ (escapeCharacter character).length := by
      unfold escapeCharacter
      repeat' split
      all_goals exact Nat.le_add_left 1 _
    rw [List.flatMap_cons, List.length_append, List.length_cons]
    omega

/-- What is written of a text, with something behind it. -/
theorem writeText_append (value : String) (more : List Char) :
    (writeText value).toList ++ more =
      '"' :: (value.toList.flatMap escapeCharacter ++ '"' :: more) := by
  simp [writeText]

/-- A text is read up to its closing quote. -/
theorem readText?_written (value : String) (more : List Char) :
    readText? ((value.toList.flatMap escapeCharacter ++ '"' :: more).length + 1) []
      (value.toList.flatMap escapeCharacter ++ '"' :: more) = some (value, more) := by
  have enough := length_le_flatMap_escapeCharacter value.toList
  rw [readText?_flatMap value.toList _ [] (by rw [List.length_append]; omega), List.reverse_nil,
    List.nil_append, String.ofList_toList]

/-- A text is read back. -/
theorem returns_text (depth : Nat) (value : String) : Returns depth (.text value) where
  opens := ⟨'"', _, String.toList_ofList, rfl, by decide, by decide⟩
  reads fuel more enough _ := by
    have positive : 1 ≤ (write (.text value)).toList.length := by simp [write, writeText]
    obtain ⟨fuel, rfl⟩ := Nat.exists_eq_add_of_le' (Nat.le_trans positive enough)
    rw [write, writeText_append]
    exact congrArg (Option.map _) (readText?_written value more)

/-! ### Lists and objects -/

theorem ends_cons {mark : Char} (isMark : mark = ',' ∨ mark = ']' ∨ mark = '\x7d') :
    Ends (mark :: more) := by
  intro character head
  obtain rfl := Option.some.inj head
  rcases isMark with rfl | rfl | rfl <;> decide

/-- An item that more items follow. -/
theorem readItems?_more (returns : Returns depth item)
    (enough : item.write.toList.length ≤ fuel) (done : List Json) :
    readItems? (fuel + 1) depth done (item.write.toList ++ ',' :: more) =
      readItems? fuel depth (item :: done) more := by
  rw [readItems?, returns.reads fuel _ enough (ends_cons (.inl rfl))]
  rfl

/-- The last item. -/
theorem readItems?_last (returns : Returns depth item)
    (enough : item.write.toList.length ≤ fuel) (done : List Json) :
    readItems? (fuel + 1) depth done (item.write.toList ++ ']' :: more) =
      some (done.reverse ++ [item], more) := by
  rw [readItems?, returns.reads fuel _ enough (ends_cons (.inr (.inl rfl))), ← List.reverse_cons]
  rfl

theorem writeItems_more (first second : Json) (rest : List Json) :
    (writeItems (first :: second :: rest)).toList =
      first.write.toList ++ ',' :: (writeItems (second :: rest)).toList := by
  rw [writeItems, String.toList_append, String.toList_append, List.append_assoc]
  · rfl
  · exact List.cons_ne_nil second rest

/-- Items that are read back each by itself are read back in a row. -/
theorem readItems?_writeItems (first : Json) (rest : List Json)
    (returns : ∀ item ∈ first :: rest, Returns depth item)
    (enough : (writeItems (first :: rest)).toList.length < fuel) (done : List Json) :
    readItems? fuel depth done ((writeItems (first :: rest)).toList ++ ']' :: more) =
      some (done.reverse ++ first :: rest, more) := by
  obtain ⟨fuel, rfl⟩ := Nat.exists_eq_add_of_le' (Nat.one_le_of_lt enough)
  induction rest generalizing first fuel done with
  | nil =>
    exact readItems?_last (returns first List.mem_cons_self) (Nat.le_of_lt_succ enough) done
  | cons second rest inductionHypothesis =>
    rw [writeItems_more, List.length_append, List.length_cons] at enough
    obtain ⟨fuel, rfl⟩ : ∃ less, fuel = less + 1 := Nat.exists_eq_add_of_le' (by omega)
    rw [writeItems_more, List.append_assoc, List.cons_append,
      readItems?_more (returns first List.mem_cons_self) (by omega),
      inductionHypothesis second (fun item member => returns item (.tail _ member)) (first :: done)
        fuel (by omega), List.reverse_cons, List.append_assoc, List.singleton_append]

theorem opens_writeItems (first : Json) (rest : List Json) (opens : Opens first.write.toList) :
    Opens (writeItems (first :: rest)).toList := by
  cases rest with
  | nil => exact opens
  | cons second rest =>
    rw [writeItems_more]
    exact opens.append _

/-- A list with items is entered. -/
theorem readValue?_list (opens : Opens text) :
    readValue? (fuel + 1) (depth + 1) ('[' :: text) =
      (readItems? fuel depth [] text).map fun found => (Json.list found.1, found.2) := by
  have entered : skipSpace ('[' :: text) = '[' :: text := rfl
  simp only [readValue?, entered, opens.skipSpace]
  obtain ⟨first, rest, rfl, _, notClosed, _⟩ := opens
  split
  next closed => exact absurd (List.cons.inj closed).1 notClosed
  next => rfl

/-- An object with fields is entered. -/
theorem readValue?_object (opens : Opens text) :
    readValue? (fuel + 1) (depth + 1) ('\x7b' :: text) =
      (readFields? fuel depth [] text).map fun found => (Json.object found.1, found.2) := by
  have entered : skipSpace ('\x7b' :: text) = '\x7b' :: text := rfl
  simp only [readValue?, entered, opens.skipSpace]
  obtain ⟨first, rest, rfl, _, _, notClosed⟩ := opens
  split
  next closed => exact absurd (List.cons.inj closed).1 notClosed
  next => rfl

/-- A list is read back a level deeper than its items. -/
theorem returns_list (returns : ∀ item ∈ items, Returns depth item) :
    Returns (depth + 1) (.list items) := by
  have written : (write (.list items)).toList = '[' :: ((writeItems items).toList ++ [']']) := by
    rw [write, String.toList_append, String.toList_append, List.append_assoc]
    rfl
  refine ⟨written ▸ ⟨'[', _, rfl, rfl, by decide, by decide⟩, fun fuel more enough _ => ?_⟩
  rw [written, List.length_cons, List.length_append, List.length_singleton] at enough
  obtain ⟨fuel, rfl⟩ : ∃ less, fuel = less + 1 := Nat.exists_eq_add_of_le' (by omega)
  rw [written, List.cons_append, List.append_assoc, List.singleton_append]
  cases items with
  | nil => rfl
  | cons first rest =>
    have opens := opens_writeItems first rest (returns first List.mem_cons_self).opens
    rw [readValue?_list (opens.append _), readItems?_writeItems first rest returns (by omega)]
    rfl

/-- A field is read: its key, and its value up to what stands behind it. -/
theorem readFields?_field (key : String) (returns : Returns depth value)
    (enough : value.write.toList.length ≤ fuel) (ends : Ends more) (done : List (String × Json)) :
    readFields? (fuel + 1) depth done
      ((writeText key).toList ++ ':' :: (value.write.toList ++ more)) =
        match skipSpace more with
        | ',' :: rest => readFields? fuel depth ((key, value) :: done) rest
        | '\x7d' :: rest => some (((key, value) :: done).reverse, rest)
        | _ => none := by
  have keyRead := readText?_written key (':' :: (value.write.toList ++ more))
  have valueRead := returns.reads fuel more enough ends
  rw [writeText_append, readFields?]
  show (readText? _ [] _).bind _ = _
  rw [keyRead]
  show (readValue? fuel depth _).bind _ = _
  rw [valueRead]
  rfl

theorem writeFields_last (key : String) (value : Json) :
    (writeFields [(key, value)]).toList = (writeText key).toList ++ ':' :: value.write.toList := by
  simp [writeFields]

theorem writeFields_more (key : String) (value : Json) (second : String × Json)
    (rest : List (String × Json)) :
    (writeFields ((key, value) :: second :: rest)).toList = (writeText key).toList ++
      ':' :: (value.write.toList ++ ',' :: (writeFields (second :: rest)).toList) := by
  simp [writeFields]

/-- Fields that are read back each by itself are read back in a row. -/
theorem readFields?_writeFields (first : String × Json) (rest : List (String × Json))
    (returns : ∀ field ∈ first :: rest, Returns depth field.2)
    (enough : (writeFields (first :: rest)).toList.length < fuel) (done : List (String × Json)) :
    readFields? fuel depth done ((writeFields (first :: rest)).toList ++ '\x7d' :: more) =
      some (done.reverse ++ first :: rest, more) := by
  obtain ⟨fuel, rfl⟩ := Nat.exists_eq_add_of_le' (Nat.one_le_of_lt enough)
  induction rest generalizing first fuel done with
  | nil =>
    obtain ⟨key, value⟩ := first
    have valueReturns : Returns depth value := returns (key, value) List.mem_cons_self
    rw [writeFields_last, List.length_append, List.length_cons] at enough
    rw [writeFields_last, List.append_assoc, List.cons_append,
      readFields?_field key valueReturns (by omega) (ends_cons (.inr (.inr rfl))),
      ← List.reverse_cons]
    rfl
  | cons second rest inductionHypothesis =>
    obtain ⟨key, value⟩ := first
    have valueReturns : Returns depth value := returns (key, value) List.mem_cons_self
    rw [writeFields_more, List.length_append, List.length_cons, List.length_append,
      List.length_cons] at enough
    obtain ⟨fuel, rfl⟩ : ∃ less, fuel = less + 1 := Nat.exists_eq_add_of_le' (by omega)
    have following := inductionHypothesis second
      (fun field member => returns field (.tail _ member)) ((key, value) :: done) fuel (by omega)
    rw [List.reverse_cons, List.append_assoc, List.singleton_append] at following
    rw [writeFields_more, List.append_assoc, List.cons_append, List.append_assoc, List.cons_append,
      readFields?_field key valueReturns (by omega) (ends_cons (.inl rfl)),
      ← following]
    rfl

theorem opens_writeFields (first : String × Json) (rest : List (String × Json)) :
    Opens (writeFields (first :: rest)).toList := by
  obtain ⟨key, value⟩ := first
  have opens : Opens (writeText key).toList :=
    ⟨'"', _, String.toList_ofList, rfl, by decide, by decide⟩
  cases rest with
  | nil =>
    rw [writeFields_last]
    exact opens.append _
  | cons second rest =>
    rw [writeFields_more]
    exact opens.append _

/-- An object is read back a level deeper than its fields. -/
theorem returns_object (returns : ∀ field ∈ fields, Returns depth field.2) :
    Returns (depth + 1) (.object fields) := by
  have written : (write (.object fields)).toList =
      '\x7b' :: ((writeFields fields).toList ++ ['\x7d']) := by
    rw [write, String.toList_append, String.toList_append, List.append_assoc]
    rfl
  refine ⟨written ▸ ⟨'\x7b', _, rfl, rfl, by decide, by decide⟩, fun fuel more enough _ => ?_⟩
  rw [written, List.length_cons, List.length_append, List.length_singleton] at enough
  obtain ⟨fuel, rfl⟩ : ∃ less, fuel = less + 1 := Nat.exists_eq_add_of_le' (by omega)
  rw [written, List.cons_append, List.append_assoc, List.singleton_append]
  cases fields with
  | nil => rfl
  | cons first rest =>
    rw [readValue?_object ((opens_writeFields first rest).append _),
      readFields?_writeFields first rest returns (by omega)]
    rfl

/-! ### A value and its text -/

/-- The text of a value is read as that value where as many levels are allowed as it has. -/
theorem Proper.returns (proper : Proper value) (numbers : ∀ real ∈ value.reals, ReadsBack real)
    (shallow : value.levels ≤ depth) : Returns depth value := by
  induction proper generalizing depth with
  | null => exact returns_null depth
  | boolean value => exact returns_boolean depth value
  | integer least greatest => exact returns_number (readNumber?_integer least greatest) depth
  | real value =>
    have inside : value ∈ reals (.number (.real value)) := by simp [reals]
    exact @returns_number (.real value) (numbers value inside) depth
  | text value => exact returns_text depth value
  | list proper inductionHypothesis =>
    rw [levels] at shallow
    obtain ⟨depth, rfl⟩ : ∃ less, depth = less + 1 := Nat.exists_eq_add_of_le' (by omega)
    refine returns_list fun item member => inductionHypothesis item member ?_ ?_
    · exact fun real inside => numbers real (mem_realsOfItems member inside)
    · exact Nat.le_trans (levels_le_levelsOfItems member) (Nat.le_of_succ_le_succ shallow)
  | object ascending proper inductionHypothesis =>
    rw [levels] at shallow
    obtain ⟨depth, rfl⟩ : ∃ less, depth = less + 1 := Nat.exists_eq_add_of_le' (by omega)
    refine returns_object fun field member => inductionHypothesis field member ?_ ?_
    · exact fun real inside => numbers real (mem_realsOfFields member inside)
    · exact Nat.le_trans (levels_le_levelsOfFields member) (Nat.le_of_succ_le_succ shallow)

/-- A field whose key is greater than all keys goes to the end. -/
theorem insertField_of_greatest {key : String} (greatest : ∀ field ∈ fields, field.1 < key)
    (value : Json) : insertField key value fields = fields ++ [(key, value)] := by
  induction fields with
  | nil => rfl
  | cons first rest inductionHypothesis =>
    have less := greatest first List.mem_cons_self
    have different : key ≠ first.1 := fun same => String.lt_irrefl key (same ▸ less)
    rw [insertField, if_neg (String.lt_asymm less), if_neg different,
      inductionHypothesis fun field member => greatest field (.tail _ member), List.cons_append]

theorem sortedItems_eq (fixed : ∀ item ∈ items, sorted item = item) :
    sortedItems items = items := by
  induction items with
  | nil => rfl
  | cons first rest inductionHypothesis =>
    rw [sortedItems, fixed first List.mem_cons_self,
      inductionHypothesis fun item member => fixed item (.tail _ member)]

/-- Fields in ascending order stay as they are when they are sorted. -/
theorem sortedFields_eq {done : List (String × Json)}
    (ascending : ((done ++ fields).map Prod.fst).Pairwise (· < ·))
    (fixed : ∀ field ∈ fields, sorted field.2 = field.2) :
    sortedFields fields done = done ++ fields := by
  induction fields generalizing done with
  | nil => rw [sortedFields, List.append_nil]
  | cons first rest inductionHypothesis =>
    obtain ⟨key, value⟩ := first
    have greatest : ∀ field ∈ done, field.1 < key := by
      intro field member
      rw [List.map_append, List.pairwise_append] at ascending
      exact ascending.2.2 field.1 (List.mem_map_of_mem member) key List.mem_cons_self
    have split : done ++ (key, value) :: rest = done ++ [(key, value)] ++ rest :=
      List.append_cons done (key, value) rest
    rw [sortedFields, fixed (key, value) List.mem_cons_self, insertField_of_greatest greatest, split]
    exact inductionHypothesis (split ▸ ascending) fun field member => fixed field (.tail _ member)

/-- Nothing is to be sorted in a value whose fields are in order. -/
theorem Proper.sorted_eq (proper : Proper value) : sorted value = value := by
  induction proper with
  | null => rfl
  | boolean value => rfl
  | integer least greatest => rfl
  | real value => rfl
  | text value => rfl
  | list proper inductionHypothesis => rw [sorted, sortedItems_eq inductionHypothesis]
  | @object fields ascending proper inductionHypothesis =>
    have inOrder : sortedFields fields [] = fields := sortedFields_eq ascending inductionHypothesis
    rw [sorted, inOrder]

/-- The text of a value is one that can be read as it was written: its floating-point numbers are read
as they are, and it is not too deep. -/
structure Legible (value : Json) : Prop where
  numbers : ∀ real ∈ value.reals, ReadsBack real
  shallow : value.levels ≤ greatestDepth

instance (value : Json) : Decidable (Legible value) :=
  decidable_of_iff ((∀ real ∈ value.reals, ReadsBack real) ∧ value.levels ≤ greatestDepth)
    ⟨fun ⟨numbers, shallow⟩ => ⟨numbers, shallow⟩,
      fun legible => ⟨legible.numbers, legible.shallow⟩⟩

/-- What is proper and legible is read back as it was written. -/
theorem Proper.read?_write (proper : Proper value) (legible : Legible value) :
    read? value.write = some value := by
  have read := (proper.returns legible.numbers legible.shallow).reads
    (2 * value.write.toList.length + 2) [] (by omega) ends_nil
  rw [List.append_nil] at read
  have written : readAsWritten? value.write = some value := by
    unfold readAsWritten?
    dsimp only
    rw [read]
    rfl
  rw [read?, written, Option.map_some, proper.sorted_eq]

end BotHost.Json
