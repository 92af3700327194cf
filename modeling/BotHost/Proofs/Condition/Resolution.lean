/-
What becomes of the names in a condition.

A name that stands as an operand is replaced by the value it is bound to, where it stands. So the
constants of a condition that is read are, from left to right, those that the operands among the tokens
stand for. A name that is called unknown is bound to nothing; this goes by the recursion of the reader,
where every other fault is put aside at once.
-/

import BotHost.Proofs.Condition.Parsing

namespace BotHost.Condition

/-! ### Constants -/

/-- The constants in an expression, from left to right. -/
def Expression.constants : Expression → List Value
  | .literal value => [value]
  | .messageText => []
  | .length operand | .not operand => operand.constants
  | .and left right | .or left right | .compare _ left right | .test _ left right =>
    left.constants ++ right.constants

variable {scope : Scope} {category : Category} {tokens before rest : List Token} {name : String}

/-- The value that a name stands for as an operand. Only the message itself stands for none. -/
def Scope.constant? (scope : Scope) (name : String) : Option Value :=
  if name = "true" then some (.boolean true)
  else if name = "false" then some (.boolean false)
  else if name = "msg" then none
  else scope.find? name

/-- A name that is not reserved stands for what it is bound to. -/
theorem Scope.constant?_of_free (free : name ∉ reservedNames) :
    scope.constant? name = scope.find? name := by
  simp only [reservedNames, List.mem_cons, List.not_mem_nil, or_false, not_or] at free
  obtain ⟨other, untrue, unfalse⟩ := free
  rw [constant?, if_neg untrue, if_neg unfalse, if_neg other]

/-- The constants that the operands among the tokens stand for. A name behind a dot is that of a member
and no operand. -/
def constantsOf (scope : Scope) : List Token → List Value
  | [] => []
  | .dot :: .identifier _ :: rest => constantsOf scope rest
  | .integer value :: rest => .integer value :: constantsOf scope rest
  | .string value :: rest => .string value :: constantsOf scope rest
  | .identifier name :: rest => (scope.constant? name).toList ++ constantsOf scope rest
  | _ :: rest => constantsOf scope rest

/-- The tokens do not end in a dot, so a name behind them is an operand. -/
def OperandFollows (tokens : List Token) : Prop :=
  tokens.getLast? ≠ some .dot

instance (tokens : List Token) : Decidable (OperandFollows tokens) :=
  inferInstanceAs (Decidable (_ ≠ _))

/-- The tokens behind the first end in no dot either. -/
theorem OperandFollows.of_cons {first : Token} (operand : OperandFollows (first :: tokens)) :
    OperandFollows tokens := by
  cases tokens with
  | nil => nofun
  | cons second tokens => rwa [OperandFollows, List.getLast?_cons_cons] at operand

/-- The constants of a text are those of its first part and those of the rest, unless the cut is
behind a dot. -/
theorem constantsOf_append (operand : OperandFollows before) :
    constantsOf scope (before ++ rest) = constantsOf scope before ++ constantsOf scope rest := by
  fun_induction constantsOf scope before with
  | case1 => rfl
  | case2 member tokens inductionHypothesis => exact inductionHypothesis operand.of_cons.of_cons
  | case3 value tokens inductionHypothesis | case4 value tokens inductionHypothesis =>
    exact congrArg (_ :: ·) (inductionHypothesis operand.of_cons)
  | case5 name tokens inductionHypothesis =>
    rw [List.cons_append, constantsOf, inductionHypothesis operand.of_cons, List.append_assoc]
  | case6 first tokens noMember noInteger noString noName inductionHypothesis =>
    rw [List.cons_append, constantsOf, inductionHypothesis operand.of_cons]
    · intro member more dot behind
      cases tokens with
      | nil => exact operand (by rw [dot]; rfl)
      | cons second tokens =>
        obtain ⟨rfl, -⟩ := List.cons.inj behind
        exact noMember member tokens dot rfl
    · exact noInteger
    · exact noString
    · exact noName

/-- The constants of what stands before a repetition. -/
def Category.constants (category : Category) : List Value :=
  (category.left?.map Expression.constants).getD []

/-- An atom has the constants that its tokens stand for. -/
theorem Atom.constants {expression : Expression} (atom : Atom scope tokens expression) :
    constantsOf scope (tokens ++ rest) = expression.constants ++ constantsOf scope rest := by
  cases atom with
  | bound free found =>
    simp [constantsOf, Scope.constant?_of_free free, found, Expression.constants]
  | _ => simp [constantsOf, Scope.constant?, Expression.constants]

/-- The constants of an expression are those of the phrase that it was read from. -/
theorem Derives.constants {nesting : Nat} {expression : Expression}
    (derived : Derives scope category tokens nesting expression) (rest : List Token) :
    category.constants ++ constantsOf scope (tokens ++ rest) =
      expression.constants ++ constantsOf scope rest := by
  induction derived generalizing rest with
  | disjunction _ _ first others | conjunction _ _ first others | term _ _ first others =>
    rw [List.append_assoc]
    exact (first _).trans (others rest)
  | lastDisjunct | lastConjunct | lastMember => rfl
  | nextDisjunct _ _ next others | nextConjunct _ _ next others | test _ _ _ next others =>
    have behind := others rest
    simp only [Category.constants, Category.left?, Option.map_some, Option.getD_some,
      Expression.constants, List.append_assoc] at behind ⊢
    rw [← behind]
    exact congrArg _ ((congrArg (constantsOf scope) (List.append_assoc _ _ _)).trans (next _))
  | negation _ operand => exact operand rest
  | unnegated _ whole | uncompared _ whole => exact whole rest
  | comparison kind _ _ left right =>
    rw [List.append_assoc, Expression.constants, List.append_assoc, ← right rest]
    exact left _
  | length _ others => exact others rest
  | atom atom => exact atom.constants
  | parenthesized _ inner =>
    rw [List.cons_append, List.append_assoc]
    exact inner _

/-- The constants of a condition are those that the tokens of its source stand for. -/
theorem constants_of_parse {source : String} {condition : Expression}
    (read : parse source scope = .ok condition) (lexed : tokenize source = .ok tokens) :
    condition.constants = constantsOf scope tokens := by
  obtain ⟨-, -, again, lexedAgain, nesting, derived, -⟩ := parse_eq_ok_iff_derives.mp read
  cases lexedAgain.symm.trans lexed
  simpa [Category.constants, Category.left?, constantsOf] using (derived.constants []).symm

/-! ### Unknown names -/

/-- Names that are called unknown are not bound. -/
def BlamesUnbound {Value : Type} (scope : Scope) (outcome : Except Fault Value) : Prop :=
  ∀ name, outcome = .error (.unknownVariable name) → scope.find? name = none

section Blaming

variable {Found Result : Type} {outcome : Except Fault Found} {next : Found → Except Fault Result}

theorem blames_ok {found : Found} : BlamesUnbound scope (.ok found) := nofun

/-- If both steps call only unbound names unknown, so do they together. -/
theorem blames_bind (first : BlamesUnbound scope outcome)
    (more : ∀ found, outcome = .ok found → BlamesUnbound scope (next found)) :
    BlamesUnbound scope (outcome >>= next) := by
  intro name failed
  obtain failed | ⟨found, read, failed⟩ := bind_eq_error.mp failed
  · exact first name failed
  · exact more found read name failed

theorem blames_require {expression : Expression} {expected : ValueType} {place : OperandPlace} :
    BlamesUnbound scope (require expression expected place) := by
  unfold require
  split <;> nofun

theorem blames_expect {token : Token} {expectation : Expectation} :
    BlamesUnbound scope (expect token expectation tokens) := by
  unfold expect
  split
  · nofun
  · split <;> nofun

end Blaming

mutual

/-- A condition calls unknown only what is not bound. -/
theorem parseOr_blames {room : Nat} {tokens : List Token} :
    BlamesUnbound scope (parseOr scope room tokens) := by
  rw [parseOr]
  exact blames_bind parseAnd_blames fun first _ => continueOr_blames
termination_by (tokens.length, 6)
decreasing_by
  · exact .right _ (by omega)
  · exact .left _ _ first.shorter

theorem continueOr_blames {room : Nat} {tokens rest : List Token} {left : Expression}
    {shorter : rest.length < tokens.length} :
    BlamesUnbound scope (continueOr scope room tokens left rest shorter) := by
  unfold continueOr
  split
  · refine blames_bind parseAnd_blames fun right _ => blames_bind blames_require fun left _ => ?_
    exact blames_bind blames_require fun operand _ => continueOr_blames
  · exact blames_ok
termination_by (rest.length, 6)
decreasing_by
  · subst_vars; exact .left _ _ (by simp)
  · subst_vars; exact .left _ _ (Nat.lt_succ_of_lt right.shorter)

theorem parseAnd_blames {room : Nat} {tokens : List Token} :
    BlamesUnbound scope (parseAnd scope room tokens) := by
  rw [parseAnd]
  exact blames_bind parseUnary_blames fun first _ => continueAnd_blames
termination_by (tokens.length, 5)
decreasing_by
  · exact .right _ (by omega)
  · exact .left _ _ first.shorter

theorem continueAnd_blames {room : Nat} {tokens rest : List Token} {left : Expression}
    {shorter : rest.length < tokens.length} :
    BlamesUnbound scope (continueAnd scope room tokens left rest shorter) := by
  unfold continueAnd
  split
  · refine blames_bind parseUnary_blames fun right _ => blames_bind blames_require fun left _ => ?_
    exact blames_bind blames_require fun operand _ => continueAnd_blames
  · exact blames_ok
termination_by (rest.length, 6)
decreasing_by
  · subst_vars; exact .left _ _ (by simp)
  · subst_vars; exact .left _ _ (Nat.lt_succ_of_lt right.shorter)

theorem parseUnary_blames {room : Nat} {tokens : List Token} :
    BlamesUnbound scope (parseUnary scope room tokens) := by
  unfold parseUnary
  split
  · split
    · nofun
    · refine blames_bind parseUnary_blames fun inner _ => ?_
      exact blames_bind blames_require fun operand _ => blames_ok
  · exact parseCompare_blames
termination_by (tokens.length, 4)
decreasing_by
  · subst_vars; exact .left _ _ (by simp)
  · exact .right _ (by omega)

theorem parseCompare_blames {room : Nat} {tokens : List Token} :
    BlamesUnbound scope (parseCompare scope room tokens) := by
  rw [parseCompare]
  refine blames_bind parseTerm_blames fun left _ => ?_
  split
  · refine blames_bind parseTerm_blames fun right _ => ?_
    split <;> nofun
  · exact blames_ok
termination_by (tokens.length, 3)
decreasing_by
  · exact .right _ (by omega)
  · rename_i remaining _
    exact .left _ _ (left.shorter_behind remaining)

theorem parseTerm_blames {room : Nat} {tokens : List Token} :
    BlamesUnbound scope (parseTerm scope room tokens) := by
  rw [parseTerm]
  exact blames_bind parsePrimary_blames fun first _ => continueTerm_blames
termination_by (tokens.length, 2)
decreasing_by
  · exact .right _ (by omega)
  · exact .left _ _ first.shorter

theorem continueTerm_blames {room : Nat} {tokens rest : List Token} {subject : Expression}
    {shorter : rest.length < tokens.length} :
    BlamesUnbound scope (continueTerm scope room tokens subject rest shorter) := by
  unfold continueTerm
  split
  · split
    · exact blames_bind blames_require fun operand _ => continueTerm_blames
    · split
      · nofun
      · refine blames_bind blames_expect fun opened _ => ?_
        refine blames_bind parseNested_blames fun argument _ => ?_
        refine blames_bind blames_expect fun closed _ => ?_
        refine blames_bind blames_require fun subject _ => ?_
        exact blames_bind blames_require fun operand _ => continueTerm_blames
  · nofun
  · exact blames_ok
termination_by (rest.length, 6)
decreasing_by
  · subst_vars; exact .left _ _ (Nat.lt_add_right 2 opened.2)
  · subst_vars
    have behind := Nat.lt_trans closed.2 (Nat.lt_trans argument.shorter opened.2)
    exact .left _ _ (Nat.lt_add_right 2 behind)
  · subst_vars; exact .left _ _ (Nat.lt_add_of_pos_right Nat.two_pos)

theorem parseNested_blames {room : Nat} {tokens : List Token} :
    BlamesUnbound scope (parseNested scope room tokens) := by
  unfold parseNested
  split
  · nofun
  · exact parseOr_blames
termination_by (tokens.length, 7)

/-- A primary expression calls unknown only what is not bound. -/
theorem parsePrimary_blames {room : Nat} {tokens : List Token} :
    BlamesUnbound scope (parsePrimary scope room tokens) := by
  unfold parsePrimary
  split
  · exact blames_ok
  · exact blames_ok
  · refine blames_bind parseNested_blames fun inner _ => ?_
    exact blames_bind blames_expect fun closed _ => blames_ok
  · split
    · exact blames_ok
    · split
      · exact blames_ok
      · split
        · split
          · split <;> nofun
          · nofun
          · nofun
        · split
          · exact blames_ok
          · intro name failed
            cases failed
            assumption
  · nofun
termination_by (tokens.length, 1)
decreasing_by
  subst_vars; exact .left _ _ (by simp)

end

/-- What cannot be read as tokens is no unknown name. -/
theorem tokenize_blames {source : String} : BlamesUnbound scope (tokenize source) := by
  unfold tokenize
  split
  · exact blames_ok
  · split <;> nofun

/-- A condition is never refused for a name that is bound. -/
theorem parse_blames {source : String} : BlamesUnbound scope (parse source scope) := by
  unfold parse
  dsimp only
  split
  · nofun
  · split
    · nofun
    · refine blames_bind tokenize_blames fun tokens _ => ?_
      refine blames_bind parseOr_blames fun parsed _ => ?_
      split
      · nofun
      · split
        · nofun
        · exact blames_require

end BotHost.Condition
