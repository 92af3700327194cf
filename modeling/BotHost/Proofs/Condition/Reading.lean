/-
What is read is a phrase of the grammar.

For each reading function: the tokens it took are a phrase of its category, the expression it gave is
what the phrase means and is well typed, and what it nested fitted into its room. The proofs recurse as
the functions do, on the tokens that are left and then on the category.
-/

import BotHost.Proofs.Condition.Grammar
import BotHost.Proofs.Condition.Typing

namespace BotHost.Condition

/-! ### Steps of reading -/

theorem bind_eq_ok {Cause Value Result : Type} {first : Except Cause Value}
    {next : Value → Except Cause Result} {result : Result} :
    (first >>= next) = .ok result ↔ ∃ value, first = .ok value ∧ next value = .ok result := by
  cases first <;> simp [bind, Except.bind]

theorem bind_eq_error {Cause Value Result : Type} {first : Except Cause Value}
    {next : Value → Except Cause Result} {cause : Cause} :
    (first >>= next) = .error cause ↔
      first = .error cause ∨ ∃ value, first = .ok value ∧ next value = .error cause := by
  cases first <;> simp [bind, Except.bind]

theorem require_bind_eq_ok {Result : Type} {expression : Expression} {expected : ValueType}
    {place : OperandPlace} {next : Expression → Except Fault Result} {result : Result} :
    (require expression expected place >>= next) = .ok result ↔
      expression.type = expected ∧ next expression = .ok result := by
  unfold require
  split <;> simp_all [bind, Except.bind]

theorem expect_eq_ok {token : Token} {expectation : Expectation} {tokens : List Token}
    {rest : { rest : List Token // rest.length < tokens.length }} :
    expect token expectation tokens = .ok rest ↔ tokens = token :: rest.1 := by
  obtain ⟨rest, shorter⟩ := rest
  unfold expect
  split
  · simp
  · split <;> simp_all [eq_comm]

theorem TextTest.ofMember?_eq_some {spelling : String} {kind : TextTest} :
    TextTest.ofMember? spelling = some kind ↔ spelling ∈ kind.spellings := by
  unfold TextTest.ofMember?
  split <;> cases kind <;> simp_all [spellings]

/-- What stands behind the token after a phrase is shorter than the phrase and all that follows it. -/
theorem Parsed.shorter_behind {tokens rest : List Token} {token : Token} (parsed : Parsed tokens)
    (remaining : parsed.rest = token :: rest) : rest.length < tokens.length := by
  have behind : rest.length < parsed.rest.length := by simp [remaining]
  exact Nat.lt_trans behind parsed.shorter

variable {scope : Scope} {category : Category}

/-! ### What is read is a phrase -/

/-- The tokens begin with a phrase of the category, behind which the rest stands. What it means is well
typed, and no more is nested in it than there is room for. -/
def Reads (scope : Scope) (category : Category) (room : Nat) (tokens : List Token)
    (expression : Expression) (rest : List Token) : Prop :=
  ∃ phrase nesting, Derives scope category phrase nesting expression ∧
    tokens = phrase ++ rest ∧ nesting ≤ room ∧ expression.HasType expression.type

mutual

theorem parseOr_reads {room : Nat} {tokens : List Token} {parsed : Parsed tokens}
    (read : parseOr scope room tokens = .ok parsed) :
    Reads scope .disjunction room tokens parsed.expression parsed.rest := by
  rw [parseOr] at read
  obtain ⟨first, readFirst, readMore⟩ := bind_eq_ok.mp read
  obtain ⟨phrase, m, derived, split, fits, typed⟩ := parseAnd_reads readFirst
  obtain ⟨more, n, derivedMore, splitMore, fitsMore, typedMore⟩ := continueOr_reads typed readMore
  refine ⟨_, _, .disjunction derived derivedMore, ?_, by omega, typedMore⟩
  rw [List.append_assoc, ← splitMore, ← split]
termination_by (tokens.length, 6)
decreasing_by
  · exact .right _ (by omega)
  · exact .left _ _ first.shorter

theorem continueOr_reads {room : Nat} {tokens rest : List Token} {left : Expression}
    {shorter : rest.length < tokens.length} {parsed : Parsed tokens}
    (typed : left.HasType left.type)
    (read : continueOr scope room tokens left rest shorter = .ok parsed) :
    Reads scope (.disjuncts left) room rest parsed.expression parsed.rest := by
  unfold continueOr at read
  split at read
  · obtain ⟨right, readRight, read⟩ := bind_eq_ok.mp read
    obtain ⟨leftType, read⟩ := require_bind_eq_ok.mp read
    obtain ⟨rightType, read⟩ := require_bind_eq_ok.mp read
    obtain ⟨phrase, m, derived, split, fits, rightTyped⟩ := parseAnd_reads readRight
    obtain ⟨more, n, derivedMore, splitMore, fitsMore, typedMore⟩ :=
      continueOr_reads (.or (leftType ▸ typed) (rightType ▸ rightTyped)) read
    refine ⟨_, _, .nextDisjunct derived derivedMore, ?_, by omega, typedMore⟩
    rw [List.cons_append, List.append_assoc, ← splitMore, ← split]
  · cases read
    exact ⟨[], 0, .lastDisjunct, rfl, Nat.zero_le _, typed⟩
termination_by (rest.length, 6)
decreasing_by
  · subst_vars; exact .left _ _ (by simp)
  · subst_vars; exact .left _ _ (Nat.lt_succ_of_lt right.shorter)

theorem parseAnd_reads {room : Nat} {tokens : List Token} {parsed : Parsed tokens}
    (read : parseAnd scope room tokens = .ok parsed) :
    Reads scope .conjunction room tokens parsed.expression parsed.rest := by
  rw [parseAnd] at read
  obtain ⟨first, readFirst, readMore⟩ := bind_eq_ok.mp read
  obtain ⟨phrase, m, derived, split, fits, typed⟩ := parseUnary_reads readFirst
  obtain ⟨more, n, derivedMore, splitMore, fitsMore, typedMore⟩ := continueAnd_reads typed readMore
  refine ⟨_, _, .conjunction derived derivedMore, ?_, by omega, typedMore⟩
  rw [List.append_assoc, ← splitMore, ← split]
termination_by (tokens.length, 5)
decreasing_by
  · exact .right _ (by omega)
  · exact .left _ _ first.shorter

theorem continueAnd_reads {room : Nat} {tokens rest : List Token} {left : Expression}
    {shorter : rest.length < tokens.length} {parsed : Parsed tokens}
    (typed : left.HasType left.type)
    (read : continueAnd scope room tokens left rest shorter = .ok parsed) :
    Reads scope (.conjuncts left) room rest parsed.expression parsed.rest := by
  unfold continueAnd at read
  split at read
  · obtain ⟨right, readRight, read⟩ := bind_eq_ok.mp read
    obtain ⟨leftType, read⟩ := require_bind_eq_ok.mp read
    obtain ⟨rightType, read⟩ := require_bind_eq_ok.mp read
    obtain ⟨phrase, m, derived, split, fits, rightTyped⟩ := parseUnary_reads readRight
    obtain ⟨more, n, derivedMore, splitMore, fitsMore, typedMore⟩ :=
      continueAnd_reads (.and (leftType ▸ typed) (rightType ▸ rightTyped)) read
    refine ⟨_, _, .nextConjunct derived derivedMore, ?_, by omega, typedMore⟩
    rw [List.cons_append, List.append_assoc, ← splitMore, ← split]
  · cases read
    exact ⟨[], 0, .lastConjunct, rfl, Nat.zero_le _, typed⟩
termination_by (rest.length, 6)
decreasing_by
  · subst_vars; exact .left _ _ (by simp)
  · subst_vars; exact .left _ _ (Nat.lt_succ_of_lt right.shorter)

theorem parseUnary_reads {room : Nat} {tokens : List Token} {parsed : Parsed tokens}
    (read : parseUnary scope room tokens = .ok parsed) :
    Reads scope .negation room tokens parsed.expression parsed.rest := by
  unfold parseUnary at read
  split at read
  · split at read
    · cases read
    · obtain ⟨inner, readInner, read⟩ := bind_eq_ok.mp read
      obtain ⟨type, read⟩ := require_bind_eq_ok.mp read
      cases read
      obtain ⟨phrase, n, derived, split, fits, typed⟩ := parseUnary_reads readInner
      exact ⟨_, _, .negation derived, congrArg (Token.bang :: ·) split, by omega,
        .not (type ▸ typed)⟩
  · obtain ⟨phrase, n, derived, split, fits, typed⟩ := parseCompare_reads read
    exact ⟨phrase, n, .unnegated derived, split, fits, typed⟩
termination_by (tokens.length, 4)
decreasing_by
  · subst_vars; exact .left _ _ (by simp)
  · exact .right _ (by omega)

theorem parseCompare_reads {room : Nat} {tokens : List Token} {parsed : Parsed tokens}
    (read : parseCompare scope room tokens = .ok parsed) :
    Reads scope .comparison room tokens parsed.expression parsed.rest := by
  rw [parseCompare] at read
  obtain ⟨left, readLeft, read⟩ := bind_eq_ok.mp read
  obtain ⟨first, m, derivedFirst, splitFirst, fitsFirst, leftTyped⟩ := parseTerm_reads readLeft
  split at read
  · rename_i comparison behind remaining
    obtain ⟨right, readRight, read⟩ := bind_eq_ok.mp read
    obtain ⟨second, n, derivedSecond, splitSecond, fitsSecond, rightTyped⟩ :=
      parseTerm_reads readRight
    split at read
    · rename_i checked
      cases read
      refine ⟨_, _, .comparison comparison derivedFirst derivedSecond, ?_, by omega,
        Expression.hasType_compare_iff.mpr ⟨leftTyped, rightTyped, checked⟩⟩
      rw [List.append_assoc, List.cons_append, ← splitSecond, ← remaining, ← splitFirst]
    · cases read
  · cases read
    exact ⟨first, m, .uncompared derivedFirst, splitFirst, fitsFirst, leftTyped⟩
termination_by (tokens.length, 3)
decreasing_by
  · exact .right _ (by omega)
  · rename_i remaining _ _ _
    exact .left _ _ (left.shorter_behind remaining)

theorem parseTerm_reads {room : Nat} {tokens : List Token} {parsed : Parsed tokens}
    (read : parseTerm scope room tokens = .ok parsed) :
    Reads scope .term room tokens parsed.expression parsed.rest := by
  rw [parseTerm] at read
  obtain ⟨first, readFirst, readMore⟩ := bind_eq_ok.mp read
  obtain ⟨phrase, m, derived, split, fits, typed⟩ := parsePrimary_reads readFirst
  obtain ⟨more, n, derivedMore, splitMore, fitsMore, typedMore⟩ :=
    continueTerm_reads typed readMore
  refine ⟨_, _, .term derived derivedMore, ?_, by omega, typedMore⟩
  rw [List.append_assoc, ← splitMore, ← split]
termination_by (tokens.length, 2)
decreasing_by
  · exact .right _ (by omega)
  · exact .left _ _ first.shorter

theorem continueTerm_reads {room : Nat} {tokens rest : List Token} {subject : Expression}
    {shorter : rest.length < tokens.length} {parsed : Parsed tokens}
    (typed : subject.HasType subject.type)
    (read : continueTerm scope room tokens subject rest shorter = .ok parsed) :
    Reads scope (.members subject) room rest parsed.expression parsed.rest := by
  unfold continueTerm at read
  split at read
  · split at read
    · rename_i member
      obtain ⟨type, read⟩ := require_bind_eq_ok.mp read
      obtain ⟨more, n, derived, split, fits, whole⟩ :=
        continueTerm_reads (.length (type ▸ typed)) read
      refine ⟨_, _, .length derived, ?_, fits, whole⟩
      rw [List.cons_append, List.cons_append, ← split, member]
    · split at read
      · cases read
      · rename_i named
        obtain ⟨opened, readOpened, read⟩ := bind_eq_ok.mp read
        obtain ⟨argument, readArgument, read⟩ := bind_eq_ok.mp read
        obtain ⟨closed, readClosed, read⟩ := bind_eq_ok.mp read
        obtain ⟨subjectType, read⟩ := require_bind_eq_ok.mp read
        obtain ⟨argumentType, read⟩ := require_bind_eq_ok.mp read
        obtain ⟨inner, m, derivedInner, splitInner, fitsInner, argumentTyped⟩ :=
          parseNested_reads readArgument
        obtain ⟨more, n, derivedMore, splitMore, fitsMore, whole⟩ :=
          continueTerm_reads (.test _ (subjectType ▸ typed) (argumentType ▸ argumentTyped)) read
        refine ⟨_, _, .test (TextTest.ofMember?_eq_some.mp named) derivedInner derivedMore, ?_,
          by omega, whole⟩
        simp only [List.cons_append, List.append_assoc]
        rw [← splitMore, ← expect_eq_ok.mp readClosed, ← splitInner, ← expect_eq_ok.mp readOpened]
  · cases read
  · cases read
    exact ⟨[], 0, .lastMember, rfl, Nat.zero_le _, typed⟩
termination_by (rest.length, 6)
decreasing_by
  · subst_vars; exact .left _ _ (Nat.lt_add_right 2 opened.2)
  · subst_vars
    have behind := Nat.lt_trans closed.2 (Nat.lt_trans argument.shorter opened.2)
    exact .left _ _ (Nat.lt_add_right 2 behind)
  · subst_vars; exact .left _ _ (Nat.lt_add_of_pos_right Nat.two_pos)

/-- What stands between parentheses takes one place of the room. -/
theorem parseNested_reads {room : Nat} {tokens : List Token} {parsed : Parsed tokens}
    (read : parseNested scope room tokens = .ok parsed) :
    ∃ phrase nesting, Derives scope .disjunction phrase nesting parsed.expression ∧
      tokens = phrase ++ parsed.rest ∧ nesting + 1 ≤ room ∧
        parsed.expression.HasType parsed.expression.type := by
  unfold parseNested at read
  split at read
  · cases read
  · obtain ⟨phrase, n, derived, split, fits, typed⟩ := parseOr_reads read
    exact ⟨phrase, n, derived, split, by omega, typed⟩
termination_by (tokens.length, 7)

theorem parsePrimary_reads {room : Nat} {tokens : List Token} {parsed : Parsed tokens}
    (read : parsePrimary scope room tokens = .ok parsed) :
    Reads scope .primary room tokens parsed.expression parsed.rest := by
  unfold parsePrimary at read
  split at read
  · cases read
    exact ⟨_, 0, .atom (.integer _), rfl, Nat.zero_le _, .literal _⟩
  · cases read
    exact ⟨_, 0, .atom (.string _), rfl, Nat.zero_le _, .literal _⟩
  · obtain ⟨inner, readInner, read⟩ := bind_eq_ok.mp read
    obtain ⟨closed, readClosed, read⟩ := bind_eq_ok.mp read
    cases read
    obtain ⟨phrase, n, derived, split, fits, typed⟩ := parseNested_reads readInner
    refine ⟨_, _, .parenthesized derived, ?_, fits, typed⟩
    simp only [List.cons_append, List.append_assoc, List.nil_append]
    rw [← expect_eq_ok.mp readClosed, ← split]
  · split at read
    · rename_i truth
      cases read
      exact ⟨_, 0, .atom .truth, by rw [truth]; rfl, Nat.zero_le _, .literal _⟩
    · split at read
      · rename_i falsehood
        cases read
        exact ⟨_, 0, .atom .falsehood, by rw [falsehood]; rfl, Nat.zero_le _, .literal _⟩
      · split at read
        · rename_i message
          split at read
          · split at read
            · rename_i text
              cases read
              exact ⟨_, 0, .atom .messageText, by rw [message, text]; rfl, Nat.zero_le _, .messageText⟩
            · cases read
          · cases read
          · cases read
        · split at read
          · rename_i untrue unfalse other _ value found
            cases read
            refine ⟨_, 0, .atom (.bound ?_ found), rfl, Nat.zero_le _, .literal _⟩
            simp [reservedNames, untrue, unfalse, other]
          · cases read
  · cases read
termination_by (tokens.length, 1)
decreasing_by
  subst_vars; exact .left _ _ (by simp)

end

end BotHost.Condition
