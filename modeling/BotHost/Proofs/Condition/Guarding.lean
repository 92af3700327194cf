/-
Reading in place is reading.

Where a call stands at a position, with some guards entered, it comes back to its caller with what the
function gives for the tokens from there and the room that is left: with its guards left again and its
frames taken off the stack, or with the same fault. The proofs recurse as the functions do. What a call
comes to therefore depends on the guards around it and on the tokens ahead, and on nothing that was read
before.
-/

import BotHost.Proofs.Condition.Descent
import BotHost.Proofs.Condition.Parsing

namespace BotHost.Condition

variable {scope : Scope} {tokens rest : List Token} {token : Token} {position depth room : Nat}
  {phase : Phase} {stack : List Frame} {descent next : Descent}

/-! ### Tokens ahead -/

/-- The tokens from the position on. -/
structure Standing (tokens : List Token) (position : Nat) (rest : List Token) : Prop where
  inside : position ≤ tokens.length
  ahead : tokens.drop position = rest

namespace Standing

variable (standing : Standing tokens position rest)
include standing

theorem front : tokens[position]? = rest.head? := by
  rw [← standing.ahead, List.head?_drop]

theorem eq_cons (found : tokens[position]? = some token) : ∃ behind, rest = token :: behind := by
  rw [standing.front] at found
  cases rest with
  | nil => cases found
  | cons first behind => cases found; exact ⟨behind, rfl⟩

theorem length : position + rest.length = tokens.length := by
  have := standing.inside
  rw [← standing.ahead, List.length_drop]
  omega

theorem skip (more : rest.head? = some token) : Standing tokens (position + 1) rest.tail := by
  have length := standing.length
  cases rest with
  | nil => cases more
  | cons first rest =>
    rw [List.length_cons] at length
    refine ⟨by omega, ?_⟩
    rw [← List.drop_drop, standing.ahead]
    rfl

end Standing

namespace Descent

/-! ### Steps by the token ahead -/

/-- A primary expression takes the token at its position. -/
theorem begin_primary_of_some (found : tokens[position]? = some token) :
    begin tokens ⟨phase, position, depth, stack⟩ .primary =
      ⟨.taken (some token), position + 1, depth, stack⟩ := by
  simp only [begin, next?, found]
  rfl

theorem begin_primary_of_none (found : tokens[position]? = none) :
    begin tokens ⟨phase, position, depth, stack⟩ .primary =
      ⟨.taken none, position, depth, stack⟩ := by
  simp only [begin, next?, found]
  rfl

/-- Behind the first operand a comparison operator calls for the second. -/
theorem resume_leftOperand_of_comparison {expression : Expression} {kind : Comparison}
    (found : tokens[position]? = some (.comparison kind)) :
    resume tokens ⟨phase, position, depth, stack⟩ expression .leftOperand =
      ⟨.call .term, position + 1, depth, .rightOperand kind expression :: stack⟩ := by
  simp only [resume, next?, found]
  rfl

theorem resume_leftOperand_of_other {expression : Expression}
    (other : ∀ kind, tokens[position]? ≠ some (.comparison kind)) :
    resume tokens ⟨phase, position, depth, stack⟩ expression .leftOperand =
      ⟨.returned expression, position, depth, stack⟩ := by
  dsimp only [resume, next?]
  split
  · exact absurd ‹_› (other _)
  · rfl

/-- Behind the dot a name is the member asked for. -/
theorem readMember_of_member {subject : Expression} {member : String}
    (found : tokens[position]? = some (.identifier member)) :
    readMember tokens ⟨phase, position, depth, stack⟩ subject =
      readNamed tokens ⟨phase, position + 1, depth, stack⟩ subject member := by
  simp only [readMember, next?, found]
  rfl

theorem readMember_of_other {subject : Expression}
    (other : ∀ member, tokens[position]? ≠ some (.identifier member)) :
    readMember tokens ⟨phase, position, depth, stack⟩ subject =
      ⟨.failed (.unexpected .memberName tokens[position]?), position, depth, stack⟩ := by
  dsimp only [readMember, next?]
  split
  · exact absurd ‹_› (other _)
  · rfl

/-- An expected token that is there is passed over. -/
theorem expect_of_front {expectation : Expectation} {next : Descent → Descent}
    (found : tokens[position]? = some token) :
    expect ⟨phase, position, depth, stack⟩ tokens token expectation next =
      next ⟨phase, position + 1, depth, stack⟩ :=
  if_pos found

theorem expect_of_other {expectation : Expectation} {next : Descent → Descent}
    (other : tokens[position]? ≠ some token) :
    expect ⟨phase, position, depth, stack⟩ tokens token expectation next =
      ⟨.failed (.unexpected expectation tokens[position]?), position, depth, stack⟩ :=
  if_neg other

/-- Of the message there is the text, and nothing else. -/
theorem readField_of_field {field : String}
    (found : tokens[position]? = some (.identifier field)) :
    readField tokens ⟨phase, position, depth, stack⟩ =
      if field = "text" then ⟨.returned .messageText, position + 1, depth, stack⟩
      else ⟨.failed (.unknownMember field), position, depth, stack⟩ := by
  simp only [readField, next?, found]
  rfl

theorem readField_of_other (other : ∀ field, tokens[position]? ≠ some (.identifier field)) :
    readField tokens ⟨phase, position, depth, stack⟩ =
      ⟨.failed (.unexpected .textOfMessage tokens[position]?), position, depth, stack⟩ := by
  dsimp only [readField, next?]
  split
  · exact absurd ‹_› (other _)
  · rfl

/-! ### What a call comes to -/

/-- Steps lead to where an outcome is handed to the caller. A refused guard is not left, so with a
fault the depth may be greater than it was. -/
def Hands (scope : Scope) (tokens : List Token) (descent : Descent) (depth : Nat)
    (stack : List Frame) {rest : List Token} : Except Fault (Parsed rest) → Prop
  | .ok parsed => ∃ position, Standing tokens position parsed.rest ∧
      Leads scope tokens descent ⟨.returned parsed.expression, position, depth, stack⟩
  | .error fault => ∃ position reached, depth ≤ reached ∧
      Leads scope tokens descent ⟨.failed fault, position, reached, stack⟩

section Hands

variable {inner outer : List Token} {outcome : Except Fault (Parsed outer)}

/-- What is handed over after some steps is handed over from where they began. -/
theorem Hands.of_leads (leads : Leads scope tokens descent next)
    (hands : Hands scope tokens next depth stack outcome) :
    Hands scope tokens descent depth stack outcome := by
  cases outcome with
  | ok parsed =>
    obtain ⟨position, standing, more⟩ := hands
    exact ⟨position, standing, leads.trans more⟩
  | error fault =>
    obtain ⟨position, reached, counted, more⟩ := hands
    exact ⟨position, reached, counted, leads.trans more⟩

/-- What is handed over after one step is handed over before it. -/
theorem Hands.of_step (taken : descent.step scope tokens = some next)
    (hands : Hands scope tokens next depth stack outcome) :
    Hands scope tokens descent depth stack outcome :=
  .of_leads (.step taken (.rest next)) hands

theorem Hands.give {parsed : Parsed outer} (standing : Standing tokens position parsed.rest) :
    Hands scope tokens ⟨.returned parsed.expression, position, depth, stack⟩ depth stack
      (.ok parsed) :=
  ⟨position, standing, .rest _⟩

theorem Hands.fail {fault : Fault} :
    Hands scope tokens ⟨.failed fault, position, depth, stack⟩ depth stack
      (.error fault : Except Fault (Parsed outer)) :=
  ⟨position, depth, Nat.le_refl depth, .rest _⟩

/-- A token in the wrong place is handed over as the one that remains first. -/
theorem Hands.unexpected {expectation : Expectation} (standing : Standing tokens position rest) :
    Hands scope tokens ⟨.failed (.unexpected expectation tokens[position]?), position, depth, stack⟩
      depth stack (.error (.unexpected expectation rest.head?) : Except Fault (Parsed outer)) :=
  standing.front ▸ .fail

/-- A call hands its outcome to the frame that waits for it. A fault comes with the depth of the call at least,
so a guard entered for it can be left. -/
theorem Hands.bind {called : Except Fault (Parsed inner)}
    {more : Parsed inner → Except Fault (Parsed outer)} (frame : Frame)
    (hands : Hands scope tokens descent (depth + frame.guards) (frame :: stack) called)
    (resumed : ∀ (parsed : Parsed inner) position, Standing tokens position parsed.rest →
      Hands scope tokens
        (resume tokens ⟨.returned parsed.expression, position, depth + frame.guards, stack⟩
          parsed.expression frame) depth stack (more parsed)) :
    Hands scope tokens descent depth stack (called >>= more) := by
  cases called with
  | ok parsed =>
    obtain ⟨position, standing, leads⟩ := hands
    exact .of_leads leads (.of_step rfl (resumed parsed position standing))
  | error fault =>
    obtain ⟨position, reached, counted, leads⟩ := hands
    refine .of_leads leads (.of_step rfl ?_)
    cases frame with
    | negated | guarded =>
      cases reached with
      | zero => cases counted
      | succ reached => exact ⟨position, reached, Nat.le_of_succ_le_succ counted, .rest _⟩
    | _ => exact ⟨position, reached, counted, .rest _⟩

/-- A value that is demanded is handed over as binding it would. -/
theorem Hands.demand {Value : Type} {value : Except Fault Value} {next : Value → Descent}
    {more : Value → Except Fault (Parsed outer)}
    (each : ∀ value, Hands scope tokens (next value) depth stack (more value)) :
    Hands scope tokens (Descent.demand ⟨phase, position, depth, stack⟩ value next) depth stack
      (value >>= more) := by
  cases value with
  | ok value => exact each value
  | error fault => exact .fail

/-- A token that is expected is handed over as asking the remaining text for it would. -/
theorem Hands.expect {expectation : Expectation} {next : Descent → Descent}
    {more : { behind : List Token // behind.length < rest.length } → Except Fault (Parsed outer)}
    (standing : Standing tokens position rest)
    (each : ∀ behind, Standing tokens (position + 1) behind.1 →
      Hands scope tokens (next ⟨phase, position + 1, depth, stack⟩) depth stack (more behind)) :
    Hands scope tokens (Descent.expect ⟨phase, position, depth, stack⟩ tokens token expectation next)
      depth stack (Condition.expect token expectation rest >>= more) := by
  cases rest with
  | nil =>
    rw [expect_of_other fun found => by cases standing.front.symm.trans found]
    exact .unexpected standing
  | cons first behind =>
    by_cases same : first = token
    · subst same
      rw [expect_of_front standing.front, expect_self]
      exact each ⟨behind, _⟩ (standing.skip rfl)
    · rw [expect_of_other fun found => same (Option.some.inj (standing.front.symm.trans found))]
      simp only [Condition.expect, if_neg same]
      exact .unexpected standing

/-- A guard is entered as long as there is room. -/
theorem Hands.enter {routine : Routine} {frame : Frame} (fits : depth + (room + 1) = greatestDepth)
    (entered : depth + 1 + room = greatestDepth →
      Hands scope tokens ⟨.call routine, position, depth + 1, frame :: stack⟩ depth stack outcome) :
    Hands scope tokens (Descent.enter ⟨phase, position, depth, stack⟩ routine frame) depth stack
      outcome := by
  have room : depth + 1 ≤ greatestDepth := by omega
  unfold Descent.enter
  rw [if_pos room]
  exact entered (by omega)

/-- At the greatest depth the descent enters nothing more, and says so. -/
theorem Hands.refused {routine : Routine} {frame : Frame} (full : depth = greatestDepth) :
    Hands scope tokens (Descent.enter ⟨phase, position, depth, stack⟩ routine frame) depth stack
      (.error .tooDeep : Except Fault (Parsed outer)) := by
  subst full
  unfold Descent.enter
  rw [if_neg (Nat.not_succ_le_self _)]
  exact ⟨position, _, Nat.le_succ _, .rest _⟩

end Hands

end Descent

/-! ### Every function hands on what it gives -/

open Descent (Hands)

-- The stack, the depth and the position are as the caller left them, and so differ from call to call.
-- What goes down is the same as in the functions: the tokens ahead, and then the category.
mutual

/-- The descent reads a disjunction as the grammar's reader does. -/
theorem parseOr_hands {room depth position : Nat} {rest : List Token} {stack : List Frame}
    (standing : Standing tokens position rest) (fits : depth + room = greatestDepth) :
    Hands scope tokens ⟨.call .disjunction, position, depth, stack⟩ depth stack
      (parseOr scope room rest) := by
  rw [parseOr]
  refine .of_step rfl (.bind (.disjunct none) (parseAnd_hands standing fits) ?_)
  exact fun first position standing => continueOr_hands standing fits
termination_by (rest.length, 6)
decreasing_by
  · exact .right _ (by omega)
  · exact .left _ _ first.shorter

theorem continueOr_hands {room depth position : Nat} {outer rest : List Token} {stack : List Frame}
    {left : Expression} {shorter : rest.length < outer.length}
    (standing : Standing tokens position rest) (fits : depth + room = greatestDepth) :
    Hands scope tokens ⟨.disjuncts left, position, depth, stack⟩ depth stack
      (continueOr scope room outer left rest shorter) := by
  unfold continueOr
  split
  · refine .of_step (congrArg some (if_pos standing.front)) ?_
    refine .bind (.disjunct (some left)) (parseAnd_hands (standing.skip rfl) fits) ?_
    intro right position standing
    exact .demand fun left => .demand fun operand => continueOr_hands standing fits
  · rename_i other
    refine .of_step (congrArg some (if_neg fun found => ?_)) (.give standing)
    obtain ⟨behind, rfl⟩ := standing.eq_cons found
    exact other behind shorter rfl HEq.rfl
termination_by (rest.length, 6)
decreasing_by
  · subst_vars; exact .left _ _ (by simp)
  · subst_vars; exact .left _ _ (Nat.lt_succ_of_lt right.shorter)

theorem parseAnd_hands {room depth position : Nat} {rest : List Token} {stack : List Frame}
    (standing : Standing tokens position rest) (fits : depth + room = greatestDepth) :
    Hands scope tokens ⟨.call .conjunction, position, depth, stack⟩ depth stack
      (parseAnd scope room rest) := by
  rw [parseAnd]
  refine .of_step rfl (.bind (.conjunct none) (parseUnary_hands standing fits) ?_)
  exact fun first position standing => continueAnd_hands standing fits
termination_by (rest.length, 5)
decreasing_by
  · exact .right _ (by omega)
  · exact .left _ _ first.shorter

theorem continueAnd_hands {room depth position : Nat} {outer rest : List Token} {stack : List Frame}
    {left : Expression} {shorter : rest.length < outer.length}
    (standing : Standing tokens position rest) (fits : depth + room = greatestDepth) :
    Hands scope tokens ⟨.conjuncts left, position, depth, stack⟩ depth stack
      (continueAnd scope room outer left rest shorter) := by
  unfold continueAnd
  split
  · refine .of_step (congrArg some (if_pos standing.front)) ?_
    refine .bind (.conjunct (some left)) (parseUnary_hands (standing.skip rfl) fits) ?_
    intro right position standing
    exact .demand fun left => .demand fun operand => continueAnd_hands standing fits
  · rename_i other
    refine .of_step (congrArg some (if_neg fun found => ?_)) (.give standing)
    obtain ⟨behind, rfl⟩ := standing.eq_cons found
    exact other behind shorter rfl HEq.rfl
termination_by (rest.length, 6)
decreasing_by
  · subst_vars; exact .left _ _ (by simp)
  · subst_vars; exact .left _ _ (Nat.lt_succ_of_lt right.shorter)

/-- The descent hands over what reading an operand gives. What a comparison gives is handed on unchanged by the
frame that waits for it. -/
theorem parseUnary_hands {room depth position : Nat} {rest : List Token} {stack : List Frame}
    (standing : Standing tokens position rest) (fits : depth + room = greatestDepth) :
    Hands scope tokens ⟨.call .negation, position, depth, stack⟩ depth stack
      (parseUnary scope room rest) := by
  unfold parseUnary
  split
  · refine .of_step (congrArg some (if_pos standing.front)) ?_
    split
    · rw [Nat.add_zero] at fits
      exact Hands.refused fits
    · refine .enter fits fun fits => ?_
      refine .bind .negated (parseUnary_hands (standing.skip rfl) fits) ?_
      exact fun inner position standing => .demand fun operand => .give standing
  · rename_i other
    refine .of_step (congrArg some (if_neg fun found => ?_)) ?_
    · obtain ⟨behind, rfl⟩ := standing.eq_cons found
      exact other behind rfl
    · rw [← bind_pure (parseCompare scope room rest)]
      refine .bind .compared (parseCompare_hands standing fits) ?_
      exact fun whole position standing => .give standing
termination_by (rest.length, 4)
decreasing_by
  · subst_vars; exact .left _ _ (by simp)
  · exact .right _ (by omega)

theorem parseCompare_hands {room depth position : Nat} {rest : List Token} {stack : List Frame}
    (standing : Standing tokens position rest) (fits : depth + room = greatestDepth) :
    Hands scope tokens ⟨.call .comparison, position, depth, stack⟩ depth stack
      (parseCompare scope room rest) := by
  rw [parseCompare]
  refine .of_step rfl (.bind .leftOperand (parseTerm_hands standing fits) ?_)
  intro left position standing
  split
  · rename_i kind behind remaining
    rw [remaining] at standing
    rw [Descent.resume_leftOperand_of_comparison standing.front]
    refine .bind (.rightOperand kind left.expression) (parseTerm_hands (standing.skip rfl) fits) ?_
    intro right position standing
    dsimp only [Descent.resume]
    split
    · exact .give standing
    · exact .fail
  · rename_i other
    rw [Descent.resume_leftOperand_of_other fun kind found => ?_]
    · exact .give standing
    · obtain ⟨behind, remaining⟩ := standing.eq_cons found
      exact other kind behind remaining
termination_by (rest.length, 3)
decreasing_by
  · exact .right _ (by omega)
  · rename_i remaining
    exact .left _ _ (left.shorter_behind remaining)

theorem parseTerm_hands {room depth position : Nat} {rest : List Token} {stack : List Frame}
    (standing : Standing tokens position rest) (fits : depth + room = greatestDepth) :
    Hands scope tokens ⟨.call .term, position, depth, stack⟩ depth stack
      (parseTerm scope room rest) := by
  rw [parseTerm]
  refine .of_step rfl (.bind .subject (parsePrimary_hands standing fits) ?_)
  exact fun first position standing => continueTerm_hands standing fits
termination_by (rest.length, 2)
decreasing_by
  · exact .right _ (by omega)
  · exact .left _ _ first.shorter

theorem continueTerm_hands {room depth position : Nat} {outer rest : List Token}
    {stack : List Frame} {subject : Expression} {shorter : rest.length < outer.length}
    (standing : Standing tokens position rest) (fits : depth + room = greatestDepth) :
    Hands scope tokens ⟨.members subject, position, depth, stack⟩ depth stack
      (continueTerm scope room outer subject rest shorter) := by
  unfold continueTerm
  split
  · rename_i member behind _
    refine .of_step (congrArg some (if_pos standing.front)) ?_
    have standing := standing.skip rfl
    refine (Descent.readMember_of_member standing.front).symm ▸ ?_
    have standing := standing.skip rfl
    unfold Descent.readNamed
    split
    · exact .demand fun operand => continueTerm_hands standing fits
    · cases TextTest.ofMember? member with
      | none => exact .fail
      | some kind =>
        refine .expect standing fun opened standing => ?_
        refine .bind (.argument kind subject) (parseNested_hands standing fits) ?_
        intro argument position standing
        dsimp only [Descent.resume]
        refine .expect standing fun closed standing => ?_
        exact .demand fun subject => .demand fun operand => continueTerm_hands standing fits
  · rename_i behind shorter other
    refine .of_step (congrArg some (if_pos standing.front)) ?_
    have standing := standing.skip rfl
    rw [Descent.readMember_of_other fun member found => ?_]
    · exact .unexpected standing
    · obtain ⟨more, rfl⟩ := standing.eq_cons found
      exact other member more shorter HEq.rfl rfl
  · rename_i other
    refine .of_step (congrArg some (if_neg fun found => ?_)) (.give standing)
    obtain ⟨behind, rfl⟩ := standing.eq_cons found
    exact other behind shorter rfl HEq.rfl
termination_by (rest.length, 6)
decreasing_by
  · subst_vars; exact .left _ _ (Nat.lt_add_right 2 opened.2)
  · subst_vars
    have behind := Nat.lt_trans closed.2 (Nat.lt_trans argument.shorter opened.2)
    exact .left _ _ (Nat.lt_add_right 2 behind)
  · subst_vars; exact .left _ _ (Nat.lt_add_of_pos_right Nat.two_pos)

theorem parseNested_hands {room depth position : Nat} {rest : List Token} {stack : List Frame}
    (standing : Standing tokens position rest) (fits : depth + room = greatestDepth) :
    Hands scope tokens ⟨.call .nested, position, depth, stack⟩ depth stack
      (parseNested scope room rest) := by
  unfold parseNested
  refine .of_step rfl ?_
  split
  · exact .refused fits
  · refine .enter fits fun fits => ?_
    rw [← bind_pure (parseOr scope _ rest)]
    refine .bind .guarded (parseOr_hands standing fits) ?_
    exact fun inner position standing => .give standing
termination_by (rest.length, 7)

theorem parsePrimary_hands {room depth position : Nat} {rest : List Token} {stack : List Frame}
    (standing : Standing tokens position rest) (fits : depth + room = greatestDepth) :
    Hands scope tokens ⟨.call .primary, position, depth, stack⟩ depth stack
      (parsePrimary scope room rest) := by
  unfold parsePrimary
  cases rest with
  | nil =>
    refine .of_step (congrArg some (Descent.begin_primary_of_none standing.front)) (.of_step rfl ?_)
    exact .unexpected standing
  | cons first behind =>
    refine .of_step (congrArg some (Descent.begin_primary_of_some standing.front)) ?_
    have behindFirst : Standing tokens (position + 1) behind := standing.skip rfl
    cases first with
    | integer value | string value => exact .of_step rfl (.give behindFirst)
    | openParenthesis =>
      refine .of_step rfl (.bind .parenthesis (parseNested_hands behindFirst fits) ?_)
      intro inner position standing
      dsimp only [Descent.resume]
      exact .expect standing fun closed standing => .give standing
    | identifier name =>
      refine .of_step rfl ?_
      dsimp only [Descent.readPrimary]
      split
      · exact .give behindFirst
      · split
        · exact .give behindFirst
        · split
          · split
            · rw [Descent.expect_of_front behindFirst.front]
              have behindDot := behindFirst.skip rfl
              refine (Descent.readField_of_field behindDot.front).symm ▸ ?_
              split
              · exact .give (behindDot.skip rfl)
              · exact .fail
            · rename_i more other
              rw [Descent.expect_of_front behindFirst.front]
              have behindDot := behindFirst.skip rfl
              refine (Descent.readField_of_other fun field found => ?_).symm ▸ .unexpected behindDot
              obtain ⟨last, rfl⟩ := behindDot.eq_cons found
              exact other field last rfl
            · rename_i other
              rw [Descent.expect_of_other fun found => ?_]
              · exact .unexpected behindFirst
              · obtain ⟨more, rfl⟩ := behindFirst.eq_cons found
                exact other more rfl
          · cases scope.find? name with
            | some value => exact .give behindFirst
            | none => exact .fail
    | _ => exact .of_step rfl (.unexpected standing)
termination_by (rest.length, 1)
decreasing_by
  subst_vars; exact .left _ _ (by simp)

end

/-- What the function gives for the tokens with the room that is left. -/
def Routine.read (scope : Scope) (room : Nat) (tokens : List Token) :
    Routine → Except Fault (Parsed tokens)
  | .disjunction => parseOr scope room tokens
  | .conjunction => parseAnd scope room tokens
  | .negation => parseUnary scope room tokens
  | .comparison => parseCompare scope room tokens
  | .term => parseTerm scope room tokens
  | .primary => parsePrimary scope room tokens
  | .nested => parseNested scope room tokens

theorem Routine.read_hands (routine : Routine) (standing : Standing tokens position rest)
    (fits : depth + room = greatestDepth) :
    Hands scope tokens ⟨.call routine, position, depth, stack⟩ depth stack
      (routine.read scope room rest) := by
  cases routine with
  | disjunction => exact parseOr_hands standing fits
  | conjunction => exact parseAnd_hands standing fits
  | negation => exact parseUnary_hands standing fits
  | comparison => exact parseCompare_hands standing fits
  | term => exact parseTerm_hands standing fits
  | primary => exact parsePrimary_hands standing fits
  | nested => exact parseNested_hands standing fits

/-- A call may stand anywhere among the tokens, inside of any guards that there is room for. -/
theorem call_hands (scope : Scope) (routine : Routine) (stack : List Frame)
    (inside : position ≤ tokens.length) (deep : depth ≤ greatestDepth) :
    Hands scope tokens ⟨.call routine, position, depth, stack⟩ depth stack
      (routine.read scope (greatestDepth - depth) (tokens.drop position)) :=
  routine.read_hands ⟨inside, rfl⟩ (Nat.add_sub_cancel' deep)

/-! ### Refusals -/

namespace Descent

/-- Nothing is refused for its depth. -/
def Spares (descent : Descent) : Prop :=
  match descent.phase with
  | .failed .tooDeep => False
  | _ => True

theorem Spares.not_refused (spares : descent.Spares) : descent.phase ≠ .failed .tooDeep := by
  intro refused
  rwa [Spares, refused] at spares

theorem spares_require {expression : Expression} {expected : ValueType} {place : OperandPlace}
    {next : Expression → Descent} (each : ∀ expression, (next expression).Spares) :
    (descent.demand (require expression expected place) next).Spares := by
  unfold require
  split
  · exact each expression
  · trivial

theorem spares_expect {expectation : Expectation} {next : Descent → Descent}
    (each : ∀ descent, (next descent).Spares) :
    (descent.expect tokens token expectation next).Spares := by
  unfold expect
  split
  · exact each _
  · trivial

theorem spares_leave {next : Descent → Descent} (each : ∀ descent, (next descent).Spares) :
    (descent.leave next).Spares := by
  unfold leave
  split
  · trivial
  · exact each _

theorem spares_readMember {subject : Expression} : (readMember tokens descent subject).Spares := by
  unfold readMember readNamed
  split
  · split
    · exact spares_require fun operand => trivial
    · split
      · trivial
      · exact spares_expect fun descent => trivial
  · trivial

theorem spares_readField : (readField tokens descent).Spares := by
  unfold readField
  split
  · split <;> trivial
  · trivial

theorem spares_readPrimary {token : Option Token} :
    (readPrimary scope tokens descent token).Spares := by
  unfold readPrimary
  split
  · trivial
  · trivial
  · trivial
  · split
    · trivial
    · split
      · trivial
      · split
        · exact spares_expect fun descent => spares_readField
        · split <;> trivial
  · unfold goBack
    split <;> trivial
  · trivial

/-- Resuming a frame never fails for being too deep; only entering does. -/
theorem spares_resume {expression : Expression} {frame : Frame} :
    (resume tokens descent expression frame).Spares := by
  cases frame with
  | disjunct left | conjunct left =>
    cases left with
    | none => trivial
    | some left => exact spares_require fun left => spares_require fun right => trivial
  | negated => exact spares_leave fun descent => spares_require fun operand => trivial
  | argument kind subject =>
    exact spares_expect fun descent =>
      spares_require fun subject => spares_require fun operand => trivial
  | parenthesis => exact spares_expect fun descent => trivial
  | guarded => exact spares_leave fun descent => trivial
  | leftOperand | rightOperand kind left =>
    dsimp only [resume]
    split <;> trivial
  | _ => trivial

/-- Entering is refused at the greatest depth only. -/
theorem enter_refused {routine : Routine} {frame : Frame}
    (refused : (descent.enter routine frame).phase = .failed .tooDeep) :
    greatestDepth ≤ descent.depth := by
  unfold enter at refused
  split at refused
  · cases refused
  · omega

/-- Only where as many guards are open as there may be is another one refused. -/
theorem step_refused (taken : descent.step scope tokens = some next)
    (going : ∀ fault, descent.phase ≠ .failed fault) (refused : next.phase = .failed .tooDeep) :
    greatestDepth ≤ descent.depth := by
  obtain ⟨phase, position, depth, stack⟩ := descent
  cases phase with
  | call routine =>
    cases taken
    cases routine with
    | negation =>
      dsimp only [begin] at refused
      split at refused
      · have full := enter_refused refused
        exact full
      · cases refused
    | nested => exact enter_refused refused
    | primary =>
      dsimp only [begin] at refused
      split at refused <;> cases refused
    | _ => cases refused
  | disjuncts left | conjuncts left =>
    cases taken
    split at refused <;> cases refused
  | members subject =>
    cases taken
    split at refused
    · exact absurd refused spares_readMember.not_refused
    · cases refused
  | taken token =>
    cases taken
    exact absurd refused spares_readPrimary.not_refused
  | returned expression =>
    cases stack with
    | nil => cases taken
    | cons frame stack =>
      cases taken
      exact absurd refused spares_resume.not_refused
  | failed fault => exact absurd rfl (going fault)
  | crashed => cases taken

end Descent

/-! ### The books of a whole reading -/

/-- Reading the tokens in place ends, and its books are kept. -/
structure KeepsBooks (scope : Scope) (tokens : List Token) : Prop where
  /-- A call returns what its function gives, further on, and has left its guards again. -/
  returns : ∀ (routine : Routine) (position depth : Nat) (stack : List Frame)
    (parsed : Parsed (tokens.drop position)),
    position ≤ tokens.length → depth ≤ greatestDepth →
    routine.read scope (greatestDepth - depth) (tokens.drop position) = .ok parsed →
      ∃ after, position < after ∧ after ≤ tokens.length ∧ tokens.drop after = parsed.rest ∧
        Descent.Leads scope tokens ⟨.call routine, position, depth, stack⟩
          ⟨.returned parsed.expression, after, depth, stack⟩
  /-- Where its function gives a fault, a call comes to its caller with this fault. -/
  fails : ∀ (routine : Routine) (position depth : Nat) (stack : List Frame) (fault : Fault),
    position ≤ tokens.length → depth ≤ greatestDepth →
    routine.read scope (greatestDepth - depth) (tokens.drop position) = .error fault →
      ∃ after reached, Descent.Leads scope tokens ⟨.call routine, position, depth, stack⟩
        ⟨.failed fault, after, reached, stack⟩
  ends : ∃ last, Descent.Leads scope tokens .start last ∧ last.step scope tokens = none
  /-- Neither the position nor the depth is ever lowered from zero. -/
  sound : ∀ last, Descent.Leads scope tokens .start last → last.phase ≠ .crashed
  /-- From a call on, the position stays between that of the call and the end. -/
  within : ∀ (routine : Routine) (position depth : Nat) (stack : List Frame) (last : Descent),
    Descent.Leads scope tokens .start ⟨.call routine, position, depth, stack⟩ →
    Descent.Leads scope tokens ⟨.call routine, position, depth, stack⟩ last →
      position ≤ last.position ∧ last.position ≤ tokens.length
  /-- The depth counts the guards of the calls that are not over. -/
  counted : ∀ last, Descent.Leads scope tokens .start last →
    (∀ fault, last.phase ≠ .failed fault) →
      last.depth = guards last.stack ∧ last.depth ≤ greatestDepth
  shallow : ∀ last, Descent.Leads scope tokens .start last →
    last.stack.length < 7 * (greatestDepth + 1)
  /-- A guard is refused only inside of as many as there may be. -/
  refused : ∀ last next, Descent.Leads scope tokens .start last →
    last.step scope tokens = some next → (∀ fault, last.phase ≠ .failed fault) →
      next.phase = .failed .tooDeep → guards last.stack = greatestDepth

theorem reading_keeps_books (scope : Scope) (tokens : List Token) : KeepsBooks scope tokens where
  returns := by
    intro routine position depth stack parsed inside deep read
    have hands := call_hands scope routine stack inside deep
    rw [read] at hands
    obtain ⟨after, standing, leads⟩ := hands
    have shorter := parsed.shorter
    have length := standing.length
    rw [List.length_drop] at shorter
    exact ⟨after, by omega, standing.inside, standing.ahead, leads⟩
  fails := by
    intro routine position depth stack fault inside deep read
    have hands := call_hands scope routine stack inside deep
    rw [read] at hands
    obtain ⟨after, reached, -, leads⟩ := hands
    exact ⟨after, reached, leads⟩
  ends := by
    have hands := call_hands scope .disjunction [] (Nat.zero_le tokens.length) (Nat.zero_le _)
    revert hands
    cases Routine.read scope (greatestDepth - 0) (tokens.drop 0) .disjunction with
    | ok parsed => exact fun ⟨after, _, leads⟩ => ⟨_, leads, rfl⟩
    | error fault => exact fun ⟨after, reached, _, leads⟩ => ⟨_, leads, rfl⟩
  sound := by
    intro last leads crashed
    have kept := leads.kept Descent.start_kept
    obtain ⟨phase, position, depth, stack⟩ := last
    cases crashed
    cases kept
  within := by
    intro routine position depth stack last reached leads
    have runs : Descent.Runs tokens 0 routine _ := reached.kept Descent.start_kept
    exact (leads.kept runs.rebase).between
  counted := fun last leads => (leads.kept Descent.start_kept).counted
  shallow := fun last leads => (leads.kept Descent.start_kept).shallow
  refused := by
    intro last next leads taken going refused
    obtain ⟨counted, bounded⟩ := (leads.kept Descent.start_kept).counted going
    have full := Descent.step_refused taken going refused
    omega

end BotHost.Condition
