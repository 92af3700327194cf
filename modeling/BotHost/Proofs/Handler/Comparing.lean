/-
Comparing the message with a variable.

A variable holds a number, a text or a truth value, and which of them depends on the field that it is
bound to. Whichever it is, the message equals the variable exactly on one text, the text form of the
field, which is described here without a view to how values are converted. Numerals are described by
what they look like; that there is one for each number is shown by the recursion that writes it.
A truth value has no text form, and comparing it with the message is refused.
-/

import BotHost.Proofs.Condition.Meaning
import BotHost.Proofs.Handler.Making
import BotHost.Proofs.Handler.Resolving

namespace BotHost

/-! ### Numerals -/

/-- The decimal digits of a number, with none in front that could be left out. -/
structure Digits (value : Nat) (digits : List Char) : Prop where
  all : ∀ character ∈ digits, character.isDigit = true
  present : digits ≠ []
  leads : digits.head? = some '0' → digits = ['0']
  value : Nat.ofDigitChars 10 digits 0 = value

theorem digitChar_of_isDigit {character : Char} (digit : character.isDigit = true) :
    character.toNat - '0'.toNat < 10 ∧ (character.toNat - '0'.toNat).digitChar = character := by
  obtain ⟨least, greatest⟩ := Text.toNat_of_isDigit digit
  have zero : '0'.toNat = 0x30 := rfl
  have bound : character.toNat - '0'.toNat < 10 := by omega
  have written : ∀ digit < 10, digit.digitChar = Char.ofNat (0x30 + digit) := by decide
  refine ⟨bound, ?_⟩
  rw [written _ bound, zero, Nat.add_sub_cancel' least, Char.ofNat_toNat]

/-- By recursion from the last digit: what stands before it is the numeral of the number without it. -/
theorem Digits.eq_toDigits {value : Nat} {digits : List Char} (numeral : Digits value digits) :
    digits = Nat.toDigits 10 value := by
  induction digits using List.reverseRecOn generalizing value with
  | nil => exact absurd rfl numeral.present
  | append_singleton front last inductionHypothesis =>
    obtain ⟨all, -, leads, rfl⟩ := numeral
    obtain ⟨bound, same⟩ := digitChar_of_isDigit (all last (by simp))
    rw [Nat.ofDigitChars_append, Nat.ofDigitChars_cons, Nat.ofDigitChars_nil]
    by_cases alone : front = []
    · subst alone
      rw [Nat.ofDigitChars_nil, Nat.mul_zero, Nat.zero_add, Nat.toDigits_of_lt_base bound, same]
      rfl
    · have head : front.head? ≠ some '0' := by
        intro zero
        have short := leads (by rw [List.head?_append, zero]; rfl)
        have length := congrArg List.length short
        have positive := List.length_pos_iff.mpr alone
        simp only [List.length_append, List.length_cons, List.length_nil] at length
        omega
      have written := inductionHypothesis ⟨fun character among => all character (by simp [among]),
        alone, fun zero => absurd zero head, rfl⟩
      have positive : 0 < Nat.ofDigitChars 10 front 0 := by
        refine Nat.pos_of_ne_zero fun nothing => head ?_
        rw [written, nothing]
        rfl
      rw [← Nat.toDigits_append_toDigits (by decide) positive bound, ← written,
        Nat.toDigits_of_lt_base bound, same]

theorem digits_toDigits (value : Nat) : Digits value (Nat.toDigits 10 value) where
  all _ among := Nat.isDigit_of_mem_toDigits (by decide) (by decide) among
  present := Nat.toDigits_ne_nil
  leads := by
    induction value using Nat.strongRecOn with
    | ind value inductionHypothesis =>
      intro zero
      by_cases short : value < 10
      · rw [Nat.toDigits_of_lt_base short] at zero ⊢
        exact congrArg (fun digit => [digit]) (Option.some.inj zero)
      · have long : 10 ≤ value := Nat.le_of_not_lt short
        rw [Nat.toDigits_of_base_le (by decide) long,
          List.head?_append_of_ne_nil _ Nat.toDigits_ne_nil] at zero
        have nothing := inductionHypothesis (value / 10) (by omega) zero
        have value' := congrArg (Nat.ofDigitChars 10 · 0) nothing
        rw [Nat.ofDigitChars_ten_toDigits] at value'
        have : value / 10 = 0 := value'
        omega
  value := Nat.ofDigitChars_ten_toDigits

/-- The numeral of a whole number: its digits, behind a minus sign if it is less than zero. -/
def IsNumeral (value : Int) (text : String) : Prop :=
  ∃ digits, Digits value.natAbs digits ∧
    text.toList = if value < 0 then '-' :: digits else digits

theorem toList_toString (value : Int) : (toString value).toList =
    if value < 0 then '-' :: Nat.toDigits 10 value.natAbs else Nat.toDigits 10 value.natAbs := by
  rw [Int.toString_eq_repr, Int.repr_eq_if]
  by_cases negative : value < 0
  · have size : (-value).toNat = value.natAbs := by omega
    rw [if_pos negative, if_neg (by omega), size, String.toList_append, Nat.repr_eq_ofList_toDigits]
    show '-' :: (String.ofList _).toList = _
    rw [String.toList_ofList]
  · have size : value.toNat = value.natAbs := by omega
    rw [if_neg negative, if_pos (by omega), size, Nat.repr_eq_ofList_toDigits, String.toList_ofList]

/-- The only numeral of a number is its own text. -/
theorem isNumeral_iff (value : Int) (text : String) : IsNumeral value text ↔ text = toString value := by
  rw [← String.toList_inj, toList_toString]
  constructor
  · rintro ⟨digits, numeral, written⟩
    rw [written, numeral.eq_toDigits]
  · exact fun written => ⟨_, digits_toDigits _, written⟩

namespace Condition

/-! ### The text form of a field -/

/-- The text that a field stands for in front of a text. Lists and objects stand for their compact text;
truth values stand for none. -/
inductive TextForm : Json → String → Prop
  | integer {value : Int} {text : String} (numeral : IsNumeral value text) :
    TextForm (.number (.integer value)) text
  | real (value : Binary64) : TextForm (.number (.real value)) (Number.real value).write
  | text (value : String) : TextForm (.text value) value
  | null : TextForm .null ""
  | list (items : List Json) :
    TextForm (.list items) ("[" ++ ",".intercalate (items.map Json.write) ++ "]")
  | object (fields : List (String × Json)) :
    TextForm (.object fields) ("\x7b" ++ ",".intercalate (fields.map fun field =>
      Json.writeText field.1 ++ ":" ++ field.2.write) ++ "\x7d")

/-- Items are written one after the other, with commas between. -/
theorem writeItems_eq (items : List Json) :
    Json.writeItems items = ",".intercalate (items.map Json.write) := by
  induction items with
  | nil => rfl
  | cons first rest inductionHypothesis =>
    cases rest with
    | nil => rw [Json.writeItems, List.map_cons, List.map_nil, String.intercalate_singleton]
    | cons second rest =>
      rw [Json.writeItems, inductionHypothesis]
      · simp only [List.map_cons, String.intercalate_cons_cons]
      · nofun

theorem writeFields_eq (fields : List (String × Json)) :
    Json.writeFields fields = ",".intercalate (fields.map fun field =>
      Json.writeText field.1 ++ ":" ++ field.2.write) := by
  induction fields with
  | nil => rfl
  | cons first rest inductionHypothesis =>
    cases rest with
    | nil => rw [Json.writeFields, List.map_cons, List.map_nil, String.intercalate_singleton]
    | cons second rest =>
      rw [Json.writeFields, inductionHypothesis]
      · simp only [List.map_cons, String.intercalate_cons_cons]
      · nofun

/-- A text is like another text only if it is the same. -/
theorem alike_string_iff {text other : String} : Alike (.string text) (.string other) ↔ text = other := by
  constructor
  · intro alike
    cases alike
    rfl
  · rintro rfl
    exact .same _

/-- A text is like a number only if it is the number's own text. -/
theorem alike_integer_iff {text : String} {number : Int} :
    Alike (.string text) (.integer number) ↔ text = toString number := by
  constructor
  · intro alike
    cases alike
    rfl
  · rintro rfl
    exact .read _

theorem Value.type_ofJson_eq_boolean_iff {field : Json} :
    (Value.ofJson field).type = .boolean ↔ ∃ truth, field = .boolean truth := by
  cases field with
  | boolean truth => exact ⟨fun _ => ⟨truth, rfl⟩, fun _ => rfl⟩
  | number number =>
    cases number with
    | integer value =>
      rw [Value.ofJson]
      split <;> exact ⟨nofun, nofun⟩
    | real value => exact ⟨nofun, nofun⟩
  | null | text | list | object => exact ⟨nofun, nofun⟩

/-- The text form of a number is its own text. -/
theorem textForm_integer_iff {value : Int} {text : String} :
    TextForm (.number (.integer value)) text ↔ text = toString value := by
  rw [← isNumeral_iff]
  exact ⟨fun form => by cases form; assumption, .integer⟩

/-- A value has one text form. -/
theorem TextForm.unique {field : Json} {text other : String} (form : TextForm field text)
    (form' : TextForm field other) : text = other := by
  cases form with
  | integer numeral =>
    rw [textForm_integer_iff.mp form', (isNumeral_iff _ _).mp numeral]
  | real | text | null | list | object =>
    cases form'
    rfl

/-- A field has one text form, so the message equals it exactly if it is a text form of the field. -/
theorem alike_iff_of_textForm {field : Json} {form : String} (is : TextForm field form)
    (text : String) : Alike (.string text) (.string form) ↔ TextForm field text := by
  rw [alike_string_iff]
  constructor
  · rintro rfl
    exact is
  · exact fun found => found.unique is

/-- The message equals the value of a field that is no truth value on the text form of the field. -/
theorem alike_ofJson_iff {field : Json} (other : ∀ truth, field ≠ .boolean truth) (text : String) :
    Alike (.string text) (.ofJson field) ↔ TextForm field text := by
  cases field with
  | boolean truth => exact absurd rfl (other truth)
  | null => exact alike_iff_of_textForm .null text
  | number number =>
    cases number with
    | integer value =>
      rw [textForm_integer_iff, Value.ofJson]
      split
      · exact alike_integer_iff
      · exact alike_string_iff
    | real value => exact alike_iff_of_textForm (.real value) text
  | text value => exact alike_iff_of_textForm (.text value) text
  | list items =>
    have written : (Json.list items).write = "[" ++ ",".intercalate (items.map Json.write) ++ "]" := by
      rw [Json.write, writeItems_eq]
    rw [Value.ofJson, written]
    · exact alike_iff_of_textForm (.list items) text
    all_goals nofun
  | object fields =>
    have written : (Json.object fields).write = "\x7b" ++ ",".intercalate (fields.map fun field =>
        Json.writeText field.1 ++ ":" ++ field.2.write) ++ "\x7d" := by
      rw [Json.write, writeFields_eq]
    rw [Value.ofJson, written]
    · exact alike_iff_of_textForm (.object fields) text
    all_goals nofun

/-! ### Two terms and a comparison between them -/

section Comparison

variable {scope : Scope} {source : String} {tokens first second : List Token}
  {left right : Expression} {m n : Nat}

/-- A condition that is short enough and can be tokenized is refused for what the grammar refuses
it for. -/
theorem parse_eq_error_of_parseOr {fault : Fault}
    (visible : ∃ character ∈ source.toList, Text.isBlank character = false)
    (short : source.toList.length ≤ greatestLength) (lexed : tokenize source = .ok tokens)
    (failed : parseOr scope greatestDepth tokens = .error fault) :
    parse source scope = .error fault := by
  have unblank : ¬source.toList.all Text.isBlank = true := by
    simpa using visible
  unfold parse
  dsimp only
  rw [if_neg unblank, if_neg (Nat.not_lt.mpr short), lexed, ok_bind, failed]
  rfl

theorem parseOr_eq_error_of_parseCompare {fault : Fault} {room : Nat} {next : Token}
    (different : next ≠ .bang)
    (failed : parseCompare scope room (next :: tokens) = .error fault) :
    parseOr scope room (next :: tokens) = .error fault := by
  rw [← parseUnary_of_ne different] at failed
  have conjunction : parseAnd scope room (next :: tokens) = .error fault := by
    rw [parseAnd, failed]
    rfl
  rw [parseOr, conjunction]
  rfl

/-- A comparison of two terms is read if their types may be compared, and refused for them if not. -/
theorem parse_comparison (kind : Comparison)
    (visible : ∃ character ∈ source.toList, Text.isBlank character = false)
    (short : source.toList.length ≤ greatestLength)
    (lexed : tokenize source = .ok (first ++ .comparison kind :: second))
    (derivedLeft : Derives scope .term first m left)
    (derivedRight : Derives scope .term second n right) (typedLeft : left.HasType left.type)
    (typedRight : right.HasType right.type) (fits : max m n ≤ greatestDepth)
    (flat : (Expression.compare kind left right).height ≤ greatestDepth) :
    parse source scope = if comparable kind left.type right.type then .ok (.compare kind left right)
      else .error (.comparedTypes kind left.type right.type) := by
  split
  · rename_i compared
    have whole := (derivedLeft.comparison kind derivedRight).unnegated.toConjunction.toDisjunction
    have typed := Expression.hasType_compare_iff.mpr ⟨typedLeft, typedRight, compared⟩
    exact parse_eq_ok_iff_derives.mpr ⟨visible, short, _, lexed, _, whole, typed, fits, flat⟩
  · rename_i apart
    refine parse_eq_error_of_parseOr visible short lexed ?_
    obtain ⟨_, foundLeft⟩ := derivedLeft.finds greatestDepth typedLeft
      (Nat.le_trans (Nat.le_max_left m n) fits)
      (stops_cons.mpr (.inr (Nat.lt_succ_self 1)) : Stops _ (.comparison kind :: second))
    have foundRight := derivedRight.finds greatestDepth typedRight
      (Nat.le_trans (Nat.le_max_right m n) fits) (stops_nil _)
    rw [List.append_nil] at foundRight
    obtain ⟨_, foundRight⟩ := foundRight
    have failed : parseCompare scope greatestDepth (first ++ .comparison kind :: second) =
        .error (.comparedTypes kind left.type right.type) := by
      rw [parseCompare, foundLeft, ok_bind]
      simp only
      rw [foundRight, ok_bind, if_neg apart]
    obtain ⟨next, more, rfl, different⟩ := derivedLeft.head_ne_bang (.inr (.inl rfl))
    exact parseOr_eq_error_of_parseCompare different failed

end Comparison

/-! ### The message and a variable -/

/-- The side of the comparison on which the variable stands. -/
inductive Side where
  | left
  | right
deriving DecidableEq, Repr

namespace Side

/-- The source that asks whether the message is the value of the variable. -/
def source (side : Side) (name : String) : String :=
  match side with
  | .left => name ++ " == msg.text"
  | .right => "msg.text == " ++ name

/-- What is read from the source. -/
def condition (side : Side) (value : Value) : Expression :=
  match side with
  | .left => .compare .equal (.literal value) .messageText
  | .right => .compare .equal .messageText (.literal value)

/-- Why a truth value is refused. -/
def mismatch : Side → Fault
  | .left => .comparedTypes .equal .boolean .string
  | .right => .comparedTypes .equal .string .boolean

variable {scope : Scope} {name : String} {value : Value}

theorem tokenize_source_left (named : IsName name.toList) :
    tokenize (left.source name) = .ok ([.identifier name] ++
      .comparison .equal :: [.identifier "msg", .dot, .identifier "text"]) := by
  have behind : tokenize " == msg.text" =
      .ok (.comparison .equal :: [.identifier "msg", .dot, .identifier "text"]) :=
    eq_ok_of_toOption (by decide +kernel)
  have front : tokenize "" = .ok [] := eq_ok_of_toOption (by decide +kernel)
  have stops : ∀ character ∈ " == msg.text".toList.head?, continuesName character = false := by
    intro character head
    obtain rfl : ' ' = character := Option.some.inj head
    decide +kernel
  have lexed := tokenize_around named front behind (by decide) stops
  rwa [String.empty_append] at lexed

theorem tokenize_source_right (named : IsName name.toList) :
    tokenize (right.source name) = .ok ([.identifier "msg", .dot, .identifier "text"] ++
      .comparison .equal :: [.identifier name]) := by
  have front : tokenize "msg.text == " =
      .ok [.identifier "msg", .dot, .identifier "text", .comparison .equal] :=
    eq_ok_of_toOption (by decide +kernel)
  have behind : tokenize "" = .ok [] := eq_ok_of_toOption (by decide +kernel)
  have lexed := tokenize_around named front behind (by decide +kernel) nofun
  rwa [String.append_empty] at lexed

theorem visible_source (side : Side) (name : String) :
    ∃ character ∈ (side.source name).toList, Text.isBlank character = false := by
  refine ⟨'m', ?_, by decide⟩
  cases side <;> simp [source]

/-- The message is compared with the value of the variable, unless that is a truth value. -/
theorem parse_source (side : Side) (usable : isVariableName name = true)
    (short : (side.source name).toList.length ≤ greatestLength)
    (found : scope.find? name = some value) :
    parse (side.source name) scope =
      if value.type = .boolean then .error side.mismatch else .ok (side.condition value) := by
  obtain ⟨named, free⟩ := isVariableName_iff_isName.mp usable
  have bound : Derives scope .term [.identifier name] 0 (.literal value) :=
    (Derives.atom (.bound free found)).toTerm
  have message : Derives scope .term [.identifier "msg", .dot, .identifier "text"] 0 .messageText :=
    (Derives.atom .messageText).toTerm
  have visible := side.visible_source name
  cases side with
  | left =>
    rw [parse_comparison .equal visible short (tokenize_source_left named) bound message (.literal _)
      .messageText (by decide) (by simp [Expression.height, greatestDepth])]
    cases value <;> rfl
  | right =>
    rw [parse_comparison .equal visible short (tokenize_source_right named) message bound
      .messageText (.literal _) (by decide) (by simp [Expression.height, greatestDepth])]
    cases value <;> rfl

/-- Either way round, a comparison holds for the texts that are like the value. -/
theorem holds_condition (side : Side) (value : Value) (text : String) :
    (side.condition value).holds text = true ↔ Alike (.string text) value := by
  cases side with
  | left =>
    have turned : Alike value (.string text) ↔ Alike (.string text) value := by
      constructor <;> rintro (_ | _ | _) <;> constructor
    exact (looseEqual_iff _ _).trans turned
  | right => exact looseEqual_iff _ _

end Side

end Condition

namespace Compilation

open Condition (Scope Side TextForm)

/-- Asking whether the message is the value of a variable. On either side of the comparison, the
condition holds exactly of the text form of the field that the variable is bound to. If that is a truth
value, the condition is skipped with a warning. -/
theorem compares_text_form [PatternEngine] (earlier between rest : List Block) {binder later : Block} {name : String}
    {field : Json} (binds : Binds name binder) (valued : binder.field? "value" = some field)
    (unshadowed : ∀ other ∈ between, ¬Binds name other) (kind : later.kind = .condition) (side : Side)
    (asks : later.textOr "condition" defaultCondition = side.source name)
    (short : (side.source name).toList.length ≤ 1024) :
    ((∀ truth, field ≠ .boolean truth) → ∃ condition,
      (outcomes (earlier ++ binder :: (between ++ later :: rest)))[earlier.length + 1 +
          between.length]? = some (.handler (conditionHandler later condition)) ∧
        conditionHandler later condition ∈
          (compile (earlier ++ binder :: (between ++ later :: rest))).handlers ∧
        ∀ text, condition.holds text = true ↔ TextForm field text) ∧
      ∀ truth, field = .boolean truth →
        (outcomes (earlier ++ binder :: (between ++ later :: rest)))[earlier.length + 1 +
            between.length]? = some (.warning ⟨later.id, .badCondition side.mismatch⟩) ∧
          ⟨later.id, .badCondition side.mismatch⟩ ∈
            (compile (earlier ++ binder :: (between ++ later :: rest))).warnings := by
  obtain ⟨scope, found, there⟩ := exists_scope_of_binds rest binds unshadowed
  have value : boundValue binder = .ofJson field := by
    unfold boundValue
    rw [valued]
  rw [value] at found
  rw [outcome_eq_conditionOutcome kind, asks, side.parse_source binds.2.2 short found] at there
  constructor
  · intro other
    have untrue : (Condition.Value.ofJson field).type ≠ .boolean := fun boolean =>
      have ⟨truth, same⟩ := Condition.Value.type_ofJson_eq_boolean_iff.mp boolean
      other truth same
    rw [if_neg untrue] at there
    refine ⟨_, there, mem_handlers_of_mem_outcomes (List.mem_of_getElem? there), fun text => ?_⟩
    exact (side.holds_condition _ text).trans (Condition.alike_ofJson_iff other text)
  · intro truth same
    rw [if_pos (Condition.Value.type_ofJson_eq_boolean_iff.mpr ⟨truth, same⟩)] at there
    exact ⟨there, mem_warnings_of_mem_outcomes (List.mem_of_getElem? there)⟩

/-- Binds a variable to a field. -/
def limitBlock (field : Json) : Block :=
  ⟨"limit", .variable, [("name", .text "limit"), ("value", field)]⟩

/-- Asks whether the message is the value of the variable. -/
def limitCheck : Block := ⟨"check", .condition, [("condition", .text "limit == msg.text")]⟩

attribute [local instance] PatternEngine.unlimited

/-- The greatest unsigned number of 64 bits is found again by its digits, and a truth value is not
compared. -/
theorem compares_text_form_limit :
    (∃ condition, (outcomes [limitBlock (.number (.integer 18446744073709551615)), limitCheck])[1]? =
        some (.handler (conditionHandler limitCheck condition)) ∧
      ∀ text, condition.holds text = true ↔ text = "18446744073709551615") ∧
    ⟨"check", .badCondition (.comparedTypes .equal .boolean .string)⟩ ∈
      (compile [limitBlock (.boolean true), limitCheck]).warnings := by
  have usable : Condition.isVariableName "limit" = true := by decide +kernel
  have binds (field : Json) : Binds "limit" (limitBlock field) := ⟨rfl, rfl, usable⟩
  have asks : limitCheck.textOr "condition" defaultCondition = Side.left.source "limit" := by
    decide +kernel
  have compares (field : Json) := compares_text_form [] [] [] (binds field) rfl nofun
    (rfl : limitCheck.kind = .condition) .left asks (by decide +kernel)
  refine ⟨?_, ((compares (.boolean true)).2 true rfl).2⟩
  obtain ⟨condition, there, -, holds⟩ :=
    (compares (.number (.integer 18446744073709551615))).1 nofun
  have numeral : toString (18446744073709551615 : Int) = "18446744073709551615" := by decide +kernel
  refine ⟨condition, there, fun text => (holds text).trans ?_⟩
  rw [Condition.textForm_integer_iff, numeral]

end Compilation

end BotHost
