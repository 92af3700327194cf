/-
Which texts are conditions.

That what is read is a phrase was shown by the recursion of the reader; the converse goes by induction
on the derivation. A phrase is found by its reader whenever it is well typed, there is room for what it
nests, and the token behind it cannot belong to it. The types of the left operands have to be known
before the repetition is read, and they are known from the type of the whole.

Put together, reading a condition succeeds exactly on the well-typed phrases within the limits.
-/

import BotHost.Proofs.Condition.Reading
import Mathlib

namespace BotHost.Condition

variable {scope : Scope} {category : Category}

/-! ### Every phrase is read -/

/-- The expression that stands before a repetition. -/
def Category.left? : Category → Option Expression
  | .disjuncts left | .conjuncts left | .members left => some left
  | _ => none

/-- What stands before a repetition is an operand of whatever follows, or all there is. -/
theorem Derives.left_typed {tokens : List Token} {nesting : Nat} {left whole : Expression}
    (derived : Derives scope category tokens nesting whole) (before : category.left? = some left)
    (typed : whole.HasType whole.type) : left.HasType left.type := by
  induction derived generalizing left with
  | lastDisjunct | lastConjunct | lastMember =>
    obtain rfl := Option.some.inj before
    exact typed
  | nextDisjunct _ _ _ others =>
    obtain rfl := Option.some.inj before
    cases others rfl typed with
    | or left right => exact left.self
  | nextConjunct _ _ _ others =>
    obtain rfl := Option.some.inj before
    cases others rfl typed with
    | and left right => exact left.self
  | length _ others =>
    obtain rfl := Option.some.inj before
    cases others rfl typed with
    | length subject => exact subject.self
  | test _ _ _ _ others =>
    obtain rfl := Option.some.inj before
    cases others rfl typed with
    | test _ subject argument => exact subject.self
  | _ => cases before

/-- The reader of a category finds the expression at the front of the tokens and leaves the rest. -/
def Finds (scope : Scope) (room : Nat) (category : Category) (tokens : List Token)
    (expression : Expression) (rest : List Token) : Prop :=
  match category with
  | .disjunction => ∃ shorter, parseOr scope room tokens = .ok ⟨expression, rest, shorter⟩
  | .disjuncts left => ∀ (all : List Token) (fewer : tokens.length < all.length), ∃ shorter,
    continueOr scope room all left tokens fewer = .ok ⟨expression, rest, shorter⟩
  | .conjunction => ∃ shorter, parseAnd scope room tokens = .ok ⟨expression, rest, shorter⟩
  | .conjuncts left => ∀ (all : List Token) (fewer : tokens.length < all.length), ∃ shorter,
    continueAnd scope room all left tokens fewer = .ok ⟨expression, rest, shorter⟩
  | .negation => ∃ shorter, parseUnary scope room tokens = .ok ⟨expression, rest, shorter⟩
  | .comparison => ∃ shorter, parseCompare scope room tokens = .ok ⟨expression, rest, shorter⟩
  | .term => ∃ shorter, parseTerm scope room tokens = .ok ⟨expression, rest, shorter⟩
  | .members subject => ∀ (all : List Token) (fewer : tokens.length < all.length), ∃ shorter,
    continueTerm scope room all subject tokens fewer = .ok ⟨expression, rest, shorter⟩
  | .primary => ∃ shorter, parsePrimary scope room tokens = .ok ⟨expression, rest, shorter⟩

theorem stops_closeParenthesis (looseness : Nat) (rest : List Token) :
    Stops looseness (.closeParenthesis :: rest) :=
  stops_cons.mpr (.inl rfl)

section Stopping

variable {room : Nat} {all rest : List Token} {left : Expression}

/-- A disjunction ends where no further side follows. -/
theorem continueOr_of_stops (fewer : rest.length < all.length)
    (stops : Stops Category.disjunction.looseness rest) :
    continueOr scope room all left rest fewer = .ok ⟨left, rest, fewer⟩ := by
  unfold continueOr
  split
  · simp at stops
  · rfl

theorem continueAnd_of_stops (fewer : rest.length < all.length)
    (stops : Stops Category.conjunction.looseness rest) :
    continueAnd scope room all left rest fewer = .ok ⟨left, rest, fewer⟩ := by
  unfold continueAnd
  split
  · simp at stops
  · rfl

theorem continueTerm_of_stops (fewer : rest.length < all.length)
    (stops : Stops Category.term.looseness rest) :
    continueTerm scope room all left rest fewer = .ok ⟨left, rest, fewer⟩ := by
  unfold continueTerm
  split
  · simp at stops
  · simp at stops
  · rfl

end Stopping

theorem ok_bind {Cause Value Result : Type} (value : Value) (next : Value → Except Cause Result) :
    (Except.ok value >>= next) = next value := rfl

theorem require_of_hasType {expression : Expression} {type : ValueType} {place : OperandPlace}
    (typed : expression.HasType type) : require expression type place = .ok expression := by
  rw [require, if_pos typed.type_eq]

theorem expect_self (token : Token) (expectation : Expectation) (rest : List Token) :
    expect token expectation (token :: rest) = .ok ⟨rest, by simp⟩ := by
  simp [expect]

/-- Without an exclamation mark there is nothing to negate. -/
theorem parseUnary_of_ne {first : Token} {more : List Token} {room : Nat}
    (different : first ≠ .bang) :
    parseUnary scope room (first :: more) = parseCompare scope room (first :: more) := by
  unfold parseUnary
  split <;> simp_all

/-- The reader finds every atom. -/
theorem Atom.finds {phrase rest : List Token} {expression : Expression} {room : Nat}
    (atom : Atom scope phrase expression) :
    ∃ shorter, parsePrimary scope room (phrase ++ rest) = .ok ⟨expression, rest, shorter⟩ := by
  cases atom with
  | bound free found =>
    simp only [reservedNames, List.mem_cons, List.not_mem_nil, or_false, not_or] at free
    obtain ⟨other, untrue, unfalse⟩ := free
    refine ⟨by simp, ?_⟩
    unfold parsePrimary
    simp [untrue, unfalse, other, found]
  | _ =>
    refine ⟨by simp; try omega, ?_⟩
    unfold parsePrimary
    simp

/-- The reader finds every phrase that is typed and opens no more guards than there is room for.
-/
theorem Derives.finds {nesting : Nat} {phrase rest : List Token} {expression : Expression}
    (derived : Derives scope category phrase nesting expression) (room : Nat)
    (typed : expression.HasType expression.type) (fits : nesting ≤ room)
    (stops : Stops category.looseness rest) :
    Finds scope room category (phrase ++ rest) expression rest := by
  induction derived generalizing room rest with
  | disjunction _ more first others =>
    rw [List.append_assoc]
    obtain ⟨shorter, found⟩ :=
      first room (more.left_typed rfl typed) (by omega) (more.stops_disjuncts stops)
    obtain ⟨_, foundMore⟩ := others room typed (by omega) stops _ shorter
    exact ⟨_, by rw [parseOr, found]; exact foundMore⟩
  | lastDisjunct => exact fun _ fewer => ⟨_, continueOr_of_stops fewer stops⟩
  | nextDisjunct _ more next others =>
    rw [List.cons_append, List.append_assoc]
    intro all fewer
    cases more.left_typed rfl typed with
    | or left right =>
      obtain ⟨shorter, found⟩ :=
        next room right.self (by omega) (more.stops_disjuncts stops)
      obtain ⟨_, foundMore⟩ := others room typed (by omega) stops all
        (Nat.lt_trans shorter (Nat.lt_of_succ_lt fewer))
      exact ⟨_, by
        rw [continueOr, found, ok_bind, require_of_hasType left, ok_bind, require_of_hasType right]
        exact foundMore⟩
  | conjunction _ more first others =>
    rw [List.append_assoc]
    obtain ⟨shorter, found⟩ :=
      first room (more.left_typed rfl typed) (by omega) (more.stops_conjuncts stops)
    obtain ⟨_, foundMore⟩ := others room typed (by omega) stops _ shorter
    exact ⟨_, by rw [parseAnd, found]; exact foundMore⟩
  | lastConjunct => exact fun _ fewer => ⟨_, continueAnd_of_stops fewer stops⟩
  | nextConjunct _ more next others =>
    rw [List.cons_append, List.append_assoc]
    intro all fewer
    cases more.left_typed rfl typed with
    | and left right =>
      obtain ⟨shorter, found⟩ :=
        next room right.self (by omega) (more.stops_conjuncts stops)
      obtain ⟨_, foundMore⟩ := others room typed (by omega) stops all
        (Nat.lt_trans shorter (Nat.lt_of_succ_lt fewer))
      exact ⟨_, by
        rw [continueAnd, found, ok_bind, require_of_hasType left, ok_bind, require_of_hasType right]
        exact foundMore⟩
  | negation _ operand =>
    rw [List.cons_append]
    cases typed with
    | not typed =>
      obtain ⟨room, rfl⟩ := Nat.exists_eq_add_one_of_ne_zero (Nat.ne_zero_of_lt fits)
      obtain ⟨_, found⟩ := operand room typed.self (by omega) stops
      exact ⟨_, by
        rw [parseUnary, found, ok_bind, require_of_hasType typed]
        rfl⟩
  | unnegated whole compared =>
    obtain ⟨shorter, found⟩ := compared room typed fits stops
    obtain ⟨first, more, rfl, different⟩ := whole.head_ne_bang (.inl rfl)
    exact ⟨shorter, (parseUnary_of_ne different).trans found⟩
  | comparison kind _ _ left right =>
    rw [List.append_assoc, List.cons_append]
    obtain ⟨leftTyped, rightTyped, compared⟩ := Expression.hasType_compare_iff.mp typed
    have leftStops (behind : List Token) :
        Stops Category.term.looseness (.comparison kind :: behind) := by simp
    obtain ⟨_, foundLeft⟩ := left room leftTyped (by omega) (leftStops _)
    obtain ⟨_, foundRight⟩ :=
      right room rightTyped (by omega) (stops.tighter (by decide))
    exact ⟨_, by
      rw [parseCompare, foundLeft, ok_bind]
      simp only
      rw [foundRight, ok_bind, if_pos compared]⟩
  | uncompared _ term =>
    obtain ⟨shorter, found⟩ := term room typed fits (stops.tighter (by decide))
    refine ⟨shorter, ?_⟩
    rw [parseCompare, found, ok_bind]
    split
    · rename_i remaining
      obtain rfl : rest = _ := remaining
      simp at stops
    · rfl
  | term _ more first others =>
    rw [List.append_assoc]
    obtain ⟨shorter, found⟩ :=
      first room (more.left_typed rfl typed) (by omega) (more.stops_members stops)
    obtain ⟨_, foundMore⟩ := others room typed (by omega) stops _ shorter
    exact ⟨_, by rw [parseTerm, found]; exact foundMore⟩
  | lastMember => exact fun _ fewer => ⟨_, continueTerm_of_stops fewer stops⟩
  | length more others =>
    intro all fewer
    cases more.left_typed rfl typed with
    | length subject =>
      obtain ⟨_, foundMore⟩ := others room typed fits stops all
        (Nat.lt_of_succ_lt (Nat.lt_of_succ_lt fewer))
      exact ⟨_, by
        unfold continueTerm
        simp only [List.cons_append, if_pos]
        rw [require_of_hasType subject]
        exact foundMore⟩
  | @test _ _ _ _ _ spelling _ _ _ spelled _ more inner others =>
    rw [List.cons_append, List.cons_append, List.cons_append, List.append_assoc, List.cons_append]
    intro all fewer
    cases more.left_typed rfl typed with
    | test kind subject argument =>
      obtain ⟨room, rfl⟩ : ∃ inside, room = inside + 1 := ⟨room - 1, by omega⟩
      obtain ⟨shorter, found⟩ :=
        inner room argument.self (by omega) (stops_closeParenthesis _ _)
      obtain ⟨_, foundMore⟩ := others (room + 1) typed (by omega) stops all (by
        simp only [List.length_cons, List.length_append] at fewer
        simp only [List.length_append]
        omega)
      have other : spelling ≠ "length" := fun same =>
        TextTest.length_not_spelling _ (same ▸ spelled)
      exact ⟨_, by
        unfold continueTerm
        simp only [if_neg other, TextTest.ofMember?_eq_some.mpr spelled, expect_self, parseNested]
        rw [ok_bind, found, ok_bind, expect_self, ok_bind, require_of_hasType subject, ok_bind,
          require_of_hasType argument]
        exact foundMore⟩
  | atom atom => exact atom.finds
  | parenthesized _ inner =>
    rw [List.cons_append, List.append_assoc, List.singleton_append]
    obtain ⟨room, rfl⟩ := Nat.exists_eq_add_one_of_ne_zero (Nat.ne_zero_of_lt fits)
    obtain ⟨_, found⟩ :=
      inner room typed (by omega) (stops_closeParenthesis _ _)
    refine ⟨by simp; omega, ?_⟩
    rw [parsePrimary, parseNested, found, ok_bind]
    rw [expect_self, ok_bind]

/-! ### Which texts are conditions -/

theorem unless_throw_eq_ok {Result : Type} {refused : Prop} [Decidable refused] {fault : Fault}
    {next : PUnit → Except Fault Result} {otherwise : Except Fault Result} {result : Result} :
    (if refused then throw fault >>= next else otherwise) = .ok result ↔
      ¬refused ∧ otherwise = .ok result := by
  split <;> simp_all [throw, throwThe, MonadExceptOf.throw, bind, Except.bind]

/-- Only values of the type that is asked for pass, and they pass as they are. -/
theorem require_eq_ok {expression found : Expression} {expected : ValueType}
    {place : OperandPlace} :
    require found expected place = .ok expression ↔
      found.type = expected ∧ found = expression := by
  unfold require
  split <;> simp_all

/-- The steps of reading a whole text. -/
theorem parse_eq_ok_iff_steps {source : String} {expression : Expression} :
    parse source scope = .ok expression ↔
      (∃ character ∈ source.toList, Text.isBlank character = false) ∧
        source.toList.length ≤ greatestLength ∧
          ∃ tokens, tokenize source = .ok tokens ∧
            ∃ shorter, parseOr scope greatestDepth tokens = .ok ⟨expression, [], shorter⟩ ∧
              expression.height ≤ greatestDepth ∧ expression.type = .boolean := by
  simp only [parse, unless_throw_eq_ok, bind_eq_ok, List.all_eq_true, Classical.not_forall,
    Bool.not_eq_true, Nat.not_lt, exists_prop]
  refine and_congr_right' (and_congr_right' (exists_congr fun tokens => and_congr_right' ?_))
  constructor
  · rintro ⟨⟨found, rest, shorter⟩, parsed, read⟩
    split at read
    · simp [throw, throwThe, MonadExceptOf.throw, bind, Except.bind] at read
    · rename_i ended
      obtain ⟨flat, read⟩ := unless_throw_eq_ok.mp read
      obtain ⟨boolean, rfl⟩ := require_eq_ok.mp read
      cases rest with
      | nil => exact ⟨shorter, parsed, by simpa using flat, boolean⟩
      | cons first more => exact absurd rfl (ended first more)
  · rintro ⟨shorter, parsed, flat, boolean⟩
    refine ⟨_, parsed, ?_⟩
    exact unless_throw_eq_ok.mpr ⟨by simpa using flat, require_eq_ok.mpr ⟨boolean, rfl⟩⟩

/-- Reading succeeds exactly on the well-typed phrases within the limits. -/
theorem parse_eq_ok_iff_derives {source : String} {expression : Expression} :
    parse source scope = .ok expression ↔
      (∃ character ∈ source.toList, Text.isBlank character = false) ∧
        source.toList.length ≤ greatestLength ∧
          ∃ tokens, tokenize source = .ok tokens ∧
            ∃ nesting, Derives scope .disjunction tokens nesting expression ∧
              expression.HasType .boolean ∧ nesting ≤ greatestDepth ∧
                expression.height ≤ greatestDepth := by
  rw [parse_eq_ok_iff_steps]
  refine and_congr_right' (and_congr_right' (exists_congr fun tokens => and_congr_right' ?_))
  constructor
  · rintro ⟨shorter, read, flat, boolean⟩
    obtain ⟨phrase, nesting, derived, split, fits, typed⟩ := parseOr_reads read
    obtain rfl : tokens = phrase := by simpa using split
    exact ⟨nesting, derived, boolean ▸ typed, fits, flat⟩
  · rintro ⟨nesting, derived, typed, fits, flat⟩
    have found := derived.finds greatestDepth typed.self fits (stops_nil _)
    rw [List.append_nil] at found
    obtain ⟨shorter, read⟩ := found
    exact ⟨shorter, read, flat, typed.type_eq⟩

/-- A condition that is read is a truth value. -/
theorem hasType_of_parse {source : String} {expression : Expression}
    (read : parse source scope = .ok expression) : expression.HasType .boolean := by
  obtain ⟨-, -, -, -, -, -, typed, -⟩ := parse_eq_ok_iff_derives.mp read
  exact typed

/-- A text is a condition exactly if it is not blank, not too long, a phrase of the grammar, well typed
with a boolean type, and neither nested nor high beyond the limits. There is one way to derive it. -/
theorem parse_eq_ok_iff (source : String) (scope : Scope) (expression : Expression) :
    (parse source scope = .ok expression ↔
      (∃ character ∈ source.toList, Text.isBlank character = false) ∧
        source.toList.length ≤ 1024 ∧
          ∃ tokens, tokenize source = .ok tokens ∧
            ∃ nesting, Derives scope .disjunction tokens nesting expression ∧
              expression.HasType .boolean ∧ nesting ≤ 64 ∧ expression.height ≤ 64) ∧
      ∀ tokens nesting nesting' other, Derives scope .disjunction tokens nesting expression →
        Derives scope .disjunction tokens nesting' other →
          other = expression ∧ nesting' = nesting := by
  refine ⟨parse_eq_ok_iff_derives, fun tokens nesting nesting' other derived derived' => ?_⟩
  obtain ⟨-, same, means⟩ := derived'.unique derived (stops_nil _) (stops_nil _) rfl
  exact ⟨means, same⟩

/-! ### A condition that is read -/

/-- Where a limit of three is bound. -/
def limitScope : Scope := Scope.empty.bind "limit" (.integer 3)

/-- The text is short and begins with a quotation mark. -/
def briefQuote : Expression :=
  .and (.not (.compare .greater (.length .messageText) (.literal (.integer 3))))
    (.test .startsWith .messageText (.literal (.string "\"")))

theorem eq_ok_of_toOption {Cause Value : Type} {outcome : Except Cause Value} {value : Value}
    (same : outcome.toOption = some value) : outcome = .ok value := by
  cases outcome with
  | error => cases same
  | ok => cases same; rfl

theorem parse_briefQuote :
    parse "!(msg.text.length > limit) && msg.text.startsWith('\"')" limitScope =
      .ok briefQuote := by
  have length : Derives limitScope .term _ _ (.length .messageText) :=
    .term (.atom .messageText) (.length .lastMember)
  have limit : Derives limitScope .term [.identifier "limit"] 0 (.literal (.integer 3)) :=
    (Derives.atom (.bound (by decide) rfl)).toTerm
  have long := (length.comparison .greater limit).unnegated.toConjunction.toDisjunction
  have brief := long.parenthesized.toTerm.toNegation.negation
  have mark : Derives limitScope .term [.string "\""] 0 (.literal (.string "\"")) :=
    (Derives.atom (.string "\"")).toTerm
  have begins : "startsWith" ∈ TextTest.startsWith.spellings := by decide
  have quote : Derives limitScope .term _ _ (.test .startsWith .messageText _) :=
    .term (.atom .messageText)
      (.test begins mark.toNegation.toConjunction.toDisjunction .lastMember)
  have whole := (brief.conjunction (.nextConjunct quote.toNegation .lastConjunct)).toDisjunction
  have typed : briefQuote.HasType .boolean :=
    .and (.not (.ordering rfl (.length .messageText) (.literal _)))
      (.test _ .messageText (.literal _))
  exact parse_eq_ok_iff_derives.mpr ⟨⟨'!', by decide, by decide⟩, by decide, _,
    eq_ok_of_toOption (by decide +kernel), _, whole, typed, by decide, by decide⟩

end BotHost.Condition
