/-
Reading a condition with a position and a stack.

The functions that read a condition hand down what room is left and hand back what tokens are left. The
same reading can be done in place: by a position in the tokens that moves on and once goes back, by a
counter of the guards that have been entered and not left, and with every call that is not over as a frame
on a stack. Here it is done so, a step at a time. Lowering a counter below zero is a crash.

Every step keeps the books: the counter is the number of guarded frames on the stack, the position stays
among the tokens, and each frame waits for the function that is called above it. So a stack is no higher
than its guards allow, and neither counter is ever lowered from zero.
-/

import BotHost.Condition.Parser

namespace BotHost.Condition

/-- The functions that reading is made of. -/
inductive Routine where
  | disjunction
  | conjunction
  | negation
  | comparison
  | term
  | primary
  | nested
deriving DecidableEq

/-- What a function has left to do once a function that it has called returns. -/
inductive Frame where
  | disjunct (left : Option Expression)
  | conjunct (left : Option Expression)
  | negated
  | compared
  | leftOperand
  | rightOperand (kind : Comparison) (left : Expression)
  | subject
  | argument (kind : TextTest) (subject : Expression)
  | parenthesis
  | guarded

/-- What is to be done next. A repetition comes back to its beginning with what it has read so far, and a
primary goes by the token that it has taken. -/
inductive Phase where
  | call (routine : Routine)
  | disjuncts (left : Expression)
  | conjuncts (left : Expression)
  | members (subject : Expression)
  | taken (token : Option Token)
  | returned (expression : Expression)
  | failed (fault : Fault)
  | crashed

structure Descent where
  phase : Phase
  position : Nat
  depth : Nat
  stack : List Frame

namespace Descent

/-! ### Small steps -/

def next? (descent : Descent) (tokens : List Token) : Option Token :=
  tokens[descent.position]?

def go (descent : Descent) (phase : Phase) : Descent := { descent with phase }

def fail (descent : Descent) (fault : Fault) : Descent := descent.go (.failed fault)

def skip (descent : Descent) : Descent := { descent with position := descent.position + 1 }

def call (descent : Descent) (routine : Routine) (frame : Frame) : Descent :=
  { descent with phase := .call routine, stack := frame :: descent.stack }

/-- Steps back by one token. -/
def goBack (descent : Descent) (next : Descent → Descent) : Descent :=
  match descent.position with
  | 0 => descent.go .crashed
  | position + 1 => next { descent with position }

/-- Enters a guard and calls under it. The guard counts before it is refused. -/
def enter (descent : Descent) (routine : Routine) (frame : Frame) : Descent :=
  if descent.depth + 1 ≤ greatestDepth then
    { descent with depth := descent.depth + 1 }.call routine frame
  else { descent with depth := descent.depth + 1 }.fail .tooDeep

/-- Leaves a guard. -/
def leave (descent : Descent) (next : Descent → Descent) : Descent :=
  match descent.depth with
  | 0 => descent.go .crashed
  | depth + 1 => next { descent with depth }

/-- Goes on with a value unless there is a fault in its place. -/
def demand {Value : Type} (descent : Descent) (outcome : Except Fault Value)
    (next : Value → Descent) : Descent :=
  match outcome with
  | .ok value => next value
  | .error fault => descent.fail fault

/-- Skips a token that must come next. -/
def expect (descent : Descent) (tokens : List Token) (token : Token) (expectation : Expectation)
    (next : Descent → Descent) : Descent :=
  if descent.next? tokens = some token then next descent.skip
  else descent.fail (.unexpected expectation (descent.next? tokens))

/-! ### Steps -/

variable (scope : Scope) (tokens : List Token)

/-- The first thing that a function does. -/
def begin (descent : Descent) : Routine → Descent
  | .disjunction => descent.call .conjunction (.disjunct none)
  | .conjunction => descent.call .negation (.conjunct none)
  | .negation =>
    if descent.next? tokens = some .bang then descent.skip.enter .negation .negated
    else descent.call .comparison .compared
  | .comparison => descent.call .term .leftOperand
  | .term => descent.call .primary .subject
  | .primary =>
    match descent.next? tokens with
    | some token => descent.skip.go (.taken (some token))
    | none => descent.go (.taken none)
  | .nested => descent.enter .disjunction .guarded

/-- Reads what comes behind the name of a member. -/
def readNamed (descent : Descent) (subject : Expression) (member : String) : Descent :=
  if member = "length" then
    descent.demand (require subject .string .length) fun operand =>
      descent.go (.members (.length operand))
  else
    match TextTest.ofMember? member with
    | none => descent.fail (.unknownMember member)
    | some kind =>
      descent.expect tokens .openParenthesis .openParenthesis fun descent =>
        descent.call .nested (.argument kind subject)

/-- Reads the member behind a dot. -/
def readMember (descent : Descent) (subject : Expression) : Descent :=
  match descent.next? tokens with
  | some (.identifier member) => descent.skip.readNamed tokens subject member
  | found => descent.fail (.unexpected .memberName found)

/-- Reads the field of the message, which has no other than its text. -/
def readField (descent : Descent) : Descent :=
  match descent.next? tokens with
  | some (.identifier field) =>
    if field = "text" then descent.skip.go (.returned .messageText)
    else descent.fail (.unknownMember field)
  | found => descent.fail (.unexpected .textOfMessage found)

/-- Reads a primary by its first token, which has been taken. -/
def readPrimary (descent : Descent) : Option Token → Descent
  | some (.integer value) => descent.go (.returned (.literal (.integer value)))
  | some (.string value) => descent.go (.returned (.literal (.string value)))
  | some .openParenthesis => descent.call .nested .parenthesis
  | some (.identifier name) =>
    if name = "true" then descent.go (.returned (.literal (.boolean true)))
    else if name = "false" then descent.go (.returned (.literal (.boolean false)))
    else if name = "msg" then
      descent.expect tokens .dot .memberOfMessage fun descent => descent.readField tokens
    else
      match scope.find? name with
      | some value => descent.go (.returned (.literal value))
      | none => descent.fail (.unknownVariable name)
  | some _ =>
    descent.goBack fun descent => descent.fail (.unexpected .value (descent.next? tokens))
  | none => descent.fail (.unexpected .value (descent.next? tokens))

/-- Goes on behind a call that has returned. -/
def resume (descent : Descent) (expression : Expression) : Frame → Descent
  | .disjunct none => descent.go (.disjuncts expression)
  | .disjunct (some left) =>
    descent.demand (require left .boolean .disjunction) fun left =>
      descent.demand (require expression .boolean .disjunction) fun right =>
        descent.go (.disjuncts (.or left right))
  | .conjunct none => descent.go (.conjuncts expression)
  | .conjunct (some left) =>
    descent.demand (require left .boolean .conjunction) fun left =>
      descent.demand (require expression .boolean .conjunction) fun right =>
        descent.go (.conjuncts (.and left right))
  | .negated =>
    descent.leave fun descent =>
      descent.demand (require expression .boolean .negation) fun operand =>
        descent.go (.returned (.not operand))
  | .compared => descent.go (.returned expression)
  | .leftOperand =>
    match descent.next? tokens with
    | some (.comparison kind) => descent.skip.call .term (.rightOperand kind expression)
    | _ => descent.go (.returned expression)
  | .rightOperand kind left =>
    if comparable kind left.type expression.type then
      descent.go (.returned (.compare kind left expression))
    else descent.fail (.comparedTypes kind left.type expression.type)
  | .subject => descent.go (.members expression)
  | .argument kind subject =>
    descent.expect tokens .closeParenthesis .closeParenthesis fun descent =>
      descent.demand (require subject .string (.test kind)) fun subject =>
        descent.demand (require expression .string (.test kind)) fun operand =>
          descent.go (.members (.test kind subject operand))
  | .parenthesis =>
    descent.expect tokens .closeParenthesis .closeParenthesis fun descent =>
      descent.go (.returned expression)
  | .guarded => descent.leave fun descent => descent.go (.returned expression)

/-- Passes a fault on to the caller. Guards are left on the way. -/
def unwind (descent : Descent) : Frame → Descent
  | .negated | .guarded => descent.leave id
  | _ => descent

def step (descent : Descent) : Option Descent :=
  match descent.phase, descent.stack with
  | .call routine, _ => some (descent.begin tokens routine)
  | .disjuncts left, _ =>
    some (if descent.next? tokens = some .or then
      descent.skip.call .conjunction (.disjunct (some left)) else descent.go (.returned left))
  | .conjuncts left, _ =>
    some (if descent.next? tokens = some .and then
      descent.skip.call .negation (.conjunct (some left)) else descent.go (.returned left))
  | .members subject, _ =>
    some (if descent.next? tokens = some .dot then descent.skip.readMember tokens subject
      else descent.go (.returned subject))
  | .taken token, _ => some (descent.readPrimary scope tokens token)
  | .returned expression, frame :: stack =>
    some ({ descent with stack }.resume tokens expression frame)
  | .failed _, frame :: stack => some ({ descent with stack }.unwind frame)
  | .returned _, [] | .failed _, [] | .crashed, _ => none

/-- The beginning of reading all tokens. -/
def start : Descent := ⟨.call .disjunction, 0, 0, []⟩

/-- Steps lead from one descent to another. -/
inductive Leads : Descent → Descent → Prop
  | rest (descent : Descent) : Leads descent descent
  | step {descent next last : Descent} (taken : descent.step scope tokens = some next)
      (leads : Leads next last) : Leads descent last

variable {scope tokens} {descent next last : Descent}

/-- Steps that follow on each other lead on. -/
theorem Leads.trans (leads : Leads scope tokens descent next) (more : Leads scope tokens next last) :
    Leads scope tokens descent last := by
  induction leads with
  | rest => exact more
  | step taken _ inductionHypothesis => exact .step taken (inductionHypothesis more)

/-- What every step keeps is kept all the way. -/
theorem Leads.keeps {kept : Descent → Prop}
    (each : ∀ {descent next : Descent}, kept descent → descent.step scope tokens = some next →
      kept next)
    (leads : Leads scope tokens descent last) (first : kept descent) : kept last := by
  induction leads with
  | rest => exact first
  | step taken _ inductionHypothesis => exact inductionHypothesis (each first taken)

end Descent

/-! ### Frames -/

namespace Frame

/-- The function that the frame belongs to. -/
def caller : Frame → Routine
  | .disjunct _ => .disjunction
  | .conjunct _ => .conjunction
  | .negated | .compared => .negation
  | .leftOperand | .rightOperand _ _ => .comparison
  | .subject | .argument _ _ => .term
  | .parenthesis => .primary
  | .guarded => .nested

/-- The function that the frame waits for. -/
def callee : Frame → Routine
  | .disjunct _ => .conjunction
  | .conjunct _ | .negated => .negation
  | .compared => .comparison
  | .leftOperand | .rightOperand _ _ => .term
  | .subject => .primary
  | .argument _ _ | .parenthesis => .nested
  | .guarded => .disjunction

/-- How many guards were entered for the call. -/
def guards : Frame → Nat
  | .negated | .guarded => 1
  | _ => 0

end Frame

/-- How many guards are open. -/
def guards : List Frame → Nat
  | [] => 0
  | frame :: stack => frame.guards + guards stack

theorem guards_cons (frame : Frame) (stack : List Frame) :
    guards (frame :: stack) = frame.guards + guards stack := rfl

/-- The function was called from the frames of the stack, each from the one below it, and the lowest from
outside. -/
def Linked : Routine → List Frame → Prop
  | routine, [] => routine = .disjunction
  | routine, frame :: stack => frame.callee = routine ∧ Linked frame.caller stack

/-- How many calls are between a function and the guard around it. -/
def Routine.level : Routine → Nat
  | .disjunction => 0
  | .conjunction => 1
  | .negation => 2
  | .comparison => 3
  | .term => 4
  | .primary => 5
  | .nested => 6

/-- Between two guards there are at most seven routines, one below the other. -/
theorem Routine.level_le (routine : Routine) : routine.level ≤ 6 := by
  cases routine <;> decide

/-- No more than seven calls are open for each guard: a call goes up by one level at least, and only a guarded
one goes down, by six at most. -/
theorem Linked.length_le {routine : Routine} {stack : List Frame} (linked : Linked routine stack) :
    stack.length ≤ 7 * guards stack + routine.level := by
  induction stack generalizing routine with
  | nil => exact Nat.zero_le _
  | cons frame stack inductionHypothesis =>
    obtain ⟨rfl, linked⟩ := linked
    have below := inductionHypothesis linked
    have above : frame.caller.level + 1 ≤ 7 * frame.guards + frame.callee.level := by
      cases frame <;> simp [Frame.caller, Frame.callee, Frame.guards, Routine.level]
    rw [List.length_cons, guards_cons]
    omega

/-! ### The books -/

variable {scope : Scope} {tokens : List Token} {origin : Nat} {routine : Routine} {frame : Frame}
  {stack : List Frame} {token : Token} {descent : Descent}

/-- A function is under way that was called from the stack. Nothing was taken in front of the origin. -/
structure Descent.Runs (tokens : List Token) (origin : Nat) (routine : Routine) (descent : Descent) :
    Prop where
  ahead : origin ≤ descent.position
  inside : descent.position ≤ tokens.length
  linked : Linked routine descent.stack
  counted : descent.depth = guards descent.stack
  bounded : guards descent.stack ≤ greatestDepth

/-- A fault is on its way to the outermost call. A guard that was refused is still counted. -/
structure Descent.Fails (tokens : List Token) (origin : Nat) (descent : Descent) : Prop where
  ahead : origin ≤ descent.position
  inside : descent.position ≤ tokens.length
  linked : ∃ routine, Linked routine descent.stack
  counted : guards descent.stack ≤ descent.depth
  bounded : guards descent.stack ≤ greatestDepth

/-- The books are kept. -/
def Descent.Kept (tokens : List Token) (origin : Nat) (descent : Descent) : Prop :=
  match descent.phase with
  | .call routine => descent.Runs tokens origin routine
  | .disjuncts _ => descent.Runs tokens origin .disjunction
  | .conjuncts _ => descent.Runs tokens origin .conjunction
  | .members _ => descent.Runs tokens origin .term
  | .taken token => descent.Runs tokens origin .primary ∧ (token ≠ none → origin < descent.position)
  | .returned _ => ∃ routine, descent.Runs tokens origin routine
  | .failed _ => descent.Fails tokens origin
  | .crashed => False

namespace Descent.Runs

variable (runs : descent.Runs tokens origin routine)
include runs

theorem go (phase : Phase) : (descent.go phase).Runs tokens origin routine :=
  ⟨runs.ahead, runs.inside, runs.linked, runs.counted, runs.bounded⟩

theorem give (expression : Expression) : (descent.go (.returned expression)).Kept tokens origin :=
  ⟨routine, runs.go _⟩

theorem fail (fault : Fault) : (descent.fail fault).Kept tokens origin :=
  ⟨runs.ahead, runs.inside, ⟨routine, runs.linked⟩, Nat.le_of_eq runs.counted.symm, runs.bounded⟩

/-- With a token before it a routine may move past it. -/
theorem skip (more : descent.next? tokens = some token) :
    descent.skip.Runs tokens origin routine := by
  have inside : descent.position < tokens.length := (List.getElem?_eq_some_iff.mp more).1
  exact ⟨Nat.le_succ_of_le runs.ahead, inside, runs.linked, runs.counted, runs.bounded⟩

/-- A routine may call another, and leaves a frame behind. -/
theorem call (frame : Frame) (called : frame.caller = routine) (unguarded : frame.guards = 0) :
    (descent.call frame.callee frame).Kept tokens origin := by
  have counted : guards (frame :: descent.stack) = guards descent.stack := by
    rw [guards_cons, unguarded, Nat.zero_add]
  exact ⟨runs.ahead, runs.inside, ⟨rfl, called ▸ runs.linked⟩, runs.counted.trans counted.symm,
    counted.symm ▸ runs.bounded⟩

/-- A routine may enter a guard, unless the depth is used up, and then it fails for that. -/
theorem enter (frame : Frame) (called : frame.caller = routine) (guarded : frame.guards = 1) :
    (descent.enter frame.callee frame).Kept tokens origin := by
  have counted : guards (frame :: descent.stack) = guards descent.stack + 1 := by
    rw [guards_cons, guarded, Nat.add_comm]
  unfold Descent.enter
  split
  · rename_i room
    exact ⟨runs.ahead, runs.inside, ⟨rfl, called ▸ runs.linked⟩,
      (congrArg (· + 1) runs.counted).trans counted.symm, by
        show guards (frame :: descent.stack) ≤ _
        rw [counted, ← runs.counted]
        exact room⟩
  · exact ⟨runs.ahead, runs.inside, ⟨routine, runs.linked⟩,
      Nat.le_succ_of_le (Nat.le_of_eq runs.counted.symm), runs.bounded⟩

/-- What is kept with every value of a demand is kept by the demand, which fails otherwise. -/
theorem demand {Value : Type} {outcome : Except Fault Value} {next : Value → Descent}
    (each : ∀ value, (next value).Kept tokens origin) :
    (descent.demand outcome next).Kept tokens origin := by
  cases outcome with
  | ok value => exact each value
  | error fault => exact runs.fail fault

/-- What is kept behind the expected token is kept by expecting it. -/
theorem expect {expectation : Expectation} {next : Descent → Descent}
    (each : descent.skip.Runs tokens origin routine → (next descent.skip).Kept tokens origin) :
    (descent.expect tokens token expectation next).Kept tokens origin := by
  unfold Descent.expect
  split
  · exact each (runs.skip ‹_›)
  · exact runs.fail _

theorem readMember {subject : Expression} (term : routine = .term) :
    (descent.readMember tokens subject).Kept tokens origin := by
  subst term
  unfold Descent.readMember
  split
  · have runs := runs.skip ‹_›
    unfold Descent.readNamed
    split
    · exact runs.demand fun operand => runs.go _
    · split
      · exact runs.fail _
      · exact runs.expect fun runs => runs.call (.argument _ _) rfl rfl
  · exact runs.fail _

theorem readField : (descent.readField tokens).Kept tokens origin := by
  unfold Descent.readField
  split
  · split
    · exact (runs.skip ‹_›).give _
    · exact runs.fail _
  · exact runs.fail _

end Descent.Runs

namespace Descent

/-- A routine that has moved may step back to report a token. -/
theorem Kept.goBack (runs : descent.Runs tokens origin routine) (ahead : origin < descent.position)
    {fault : Descent → Fault} :
    (descent.goBack fun descent => descent.fail (fault descent)).Kept tokens origin := by
  obtain ⟨phase, position, depth, stack⟩ := descent
  cases position with
  | zero => cases ahead
  | succ position =>
    have inside : position + 1 ≤ tokens.length := runs.inside
    exact ⟨Nat.le_of_lt_succ ahead, Nat.le_of_succ_le inside, ⟨routine, runs.linked⟩,
      Nat.le_of_eq runs.counted.symm, runs.bounded⟩

theorem Kept.readPrimary {token : Option Token} (runs : descent.Runs tokens origin .primary)
    (ahead : token ≠ none → origin < descent.position) :
    (descent.readPrimary scope tokens token).Kept tokens origin := by
  unfold Descent.readPrimary
  split
  · exact runs.give _
  · exact runs.give _
  · exact runs.call .parenthesis rfl rfl
  · split
    · exact runs.give _
    · split
      · exact runs.give _
      · split
        · exact runs.expect fun runs => runs.readField
        · split
          · exact runs.give _
          · exact runs.fail _
  · exact Kept.goBack runs (ahead (Option.some_ne_none _))
  · exact runs.fail _

/-- What a routine begins with keeps the books. -/
theorem Kept.begin (runs : descent.Runs tokens origin routine) :
    (descent.begin tokens routine).Kept tokens origin := by
  cases routine with
  | disjunction => exact runs.call (.disjunct none) rfl rfl
  | conjunction => exact runs.call (.conjunct none) rfl rfl
  | comparison => exact runs.call .leftOperand rfl rfl
  | term => exact runs.call .subject rfl rfl
  | negation =>
    dsimp only [Descent.begin]
    split
    · exact (runs.skip ‹_›).enter .negated rfl rfl
    · exact runs.call .compared rfl rfl
  | primary =>
    dsimp only [Descent.begin]
    split
    · exact ⟨(runs.skip ‹_›).go _, fun _ => Nat.lt_succ_of_le runs.ahead⟩
    · exact ⟨runs.go _, fun some => absurd rfl some⟩
  | nested => exact runs.enter .guarded rfl rfl

/-- A function whose call has returned. -/
theorem Runs.pop (runs : descent.Runs tokens origin routine) (top : descent.stack = frame :: stack)
    (unguarded : frame.guards = 0) : { descent with stack }.Runs tokens origin frame.caller := by
  have linked := runs.linked
  have counted := runs.counted
  have bounded := runs.bounded
  rw [top] at linked counted bounded
  rw [guards_cons, unguarded, Nat.zero_add] at counted bounded
  exact ⟨runs.ahead, runs.inside, linked.2, counted, bounded⟩

/-- A guard that was entered is left again. -/
theorem Runs.leave (runs : descent.Runs tokens origin routine) (top : descent.stack = frame :: stack)
    (guarded : frame.guards = 1) {next : Descent → Descent}
    (each : ∀ descent : Descent, descent.Runs tokens origin frame.caller →
      (next descent).Kept tokens origin) :
    ({ descent with stack }.leave next).Kept tokens origin := by
  have linked := runs.linked
  have counted := runs.counted
  have bounded := runs.bounded
  rw [top] at linked counted bounded
  rw [guards_cons, guarded, Nat.add_comm] at counted bounded
  unfold Descent.leave
  rw [counted]
  exact each _ ⟨runs.ahead, runs.inside, linked.2, rfl, Nat.le_of_succ_le bounded⟩

/-- Resuming the topmost frame keeps the books. -/
theorem Kept.resume {expression : Expression} (runs : descent.Runs tokens origin routine)
    (top : descent.stack = frame :: stack) :
    ({ descent with stack }.resume tokens expression frame).Kept tokens origin := by
  cases frame with
  | disjunct left | conjunct left =>
    have runs := runs.pop top rfl
    cases left with
    | none => exact runs.go _
    | some left => exact runs.demand fun left => runs.demand fun right => runs.go _
  | negated =>
    exact runs.leave top rfl fun descent runs => runs.demand fun operand => runs.give _
  | compared => exact (runs.pop top rfl).give _
  | leftOperand =>
    have runs := runs.pop top rfl
    dsimp only [Descent.resume]
    split
    · exact (runs.skip ‹_›).call (.rightOperand _ _) rfl rfl
    · exact runs.give _
  | rightOperand kind left =>
    have runs := runs.pop top rfl
    dsimp only [Descent.resume]
    split
    · exact runs.give _
    · exact runs.fail _
  | subject => exact (runs.pop top rfl).go _
  | argument kind subject =>
    exact (runs.pop top rfl).expect fun runs =>
      runs.demand fun subject => runs.demand fun operand => runs.go _
  | parenthesis => exact (runs.pop top rfl).expect fun runs => runs.give _
  | guarded => exact runs.leave top rfl fun descent runs => runs.give _

/-- The books are kept when a frame is left after a fault. If it was guarded, its guard is still counted and can
be left. -/
theorem Kept.unwind {fault : Fault} {position depth : Nat}
    (fails : Descent.Fails tokens origin ⟨.failed fault, position, depth, frame :: stack⟩) :
    (unwind ⟨.failed fault, position, depth, stack⟩ frame).Kept tokens origin := by
  obtain ⟨ahead, inside, ⟨routine, _, linked⟩, counted, bounded⟩ := fails
  simp only [guards_cons] at counted bounded
  cases frame with
  | negated | guarded =>
    simp only [Frame.guards] at counted bounded
    cases depth with
    | zero => omega
    | succ depth =>
      have counted : guards stack ≤ depth := by omega
      have bounded : guards stack ≤ greatestDepth := by omega
      exact ⟨ahead, inside, ⟨_, linked⟩, counted, bounded⟩
  | _ =>
    simp only [Frame.guards, Nat.zero_add] at counted bounded
    exact ⟨ahead, inside, ⟨_, linked⟩, counted, bounded⟩

/-- Every step keeps the books. -/
theorem Kept.step {next : Descent} (kept : descent.Kept tokens origin)
    (taken : descent.step scope tokens = some next) : next.Kept tokens origin := by
  obtain ⟨phase, position, depth, stack⟩ := descent
  cases phase with
  | call routine =>
    cases taken
    exact Kept.begin kept
  | disjuncts left =>
    have runs : Runs tokens origin _ _ := kept
    cases taken
    split
    · exact (runs.skip ‹_›).call (.disjunct _) rfl rfl
    · exact runs.give _
  | conjuncts left =>
    have runs : Runs tokens origin _ _ := kept
    cases taken
    split
    · exact (runs.skip ‹_›).call (.conjunct _) rfl rfl
    · exact runs.give _
  | members subject =>
    have runs : Runs tokens origin _ _ := kept
    cases taken
    split
    · exact (runs.skip ‹_›).readMember rfl
    · exact runs.give _
  | taken token =>
    cases taken
    exact Kept.readPrimary kept.1 kept.2
  | returned expression =>
    obtain ⟨routine, runs⟩ := kept
    cases stack with
    | nil => cases taken
    | cons frame stack =>
      cases taken
      exact Kept.resume runs rfl
  | failed fault =>
    cases stack with
    | nil => cases taken
    | cons frame stack =>
      cases taken
      exact Kept.unwind kept
  | crashed => cases kept

theorem Leads.kept {last : Descent} (leads : Leads scope tokens descent last)
    (kept : descent.Kept tokens origin) : last.Kept tokens origin :=
  leads.keeps Kept.step kept

theorem start_kept : start.Kept tokens 0 :=
  ⟨Nat.le_refl 0, Nat.zero_le _, rfl, rfl, Nat.zero_le _⟩

/-- The books of a call can be opened where it stands. -/
theorem Runs.rebase (runs : descent.Runs tokens origin routine) :
    descent.Runs tokens descent.position routine :=
  ⟨Nat.le_refl _, runs.inside, runs.linked, runs.counted, runs.bounded⟩

/-! ### What the books say -/

section Kept

variable (kept : descent.Kept tokens origin)
include kept

/-- Either a routine runs, or the descent has failed with the books in order. -/
theorem Kept.runs_or_fails :
    (∃ routine, descent.Runs tokens origin routine) ∨
      (∃ fault, descent.phase = .failed fault) ∧ descent.Fails tokens origin := by
  obtain ⟨phase, position, depth, stack⟩ := descent
  cases phase with
  | call routine | disjuncts left | conjuncts left | members subject => exact .inl ⟨_, kept⟩
  | taken token => exact .inl ⟨_, kept.1⟩
  | returned expression => exact .inl kept
  | failed fault => exact .inr ⟨⟨fault, rfl⟩, kept⟩
  | crashed => cases kept

/-- The reader stands between where it began and the end of the text. -/
theorem Kept.between : origin ≤ descent.position ∧ descent.position ≤ tokens.length := by
  obtain ⟨routine, runs⟩ | ⟨-, fails⟩ := kept.runs_or_fails
  · exact ⟨runs.ahead, runs.inside⟩
  · exact ⟨fails.ahead, fails.inside⟩

/-- The depth is the number of open guards, and at most the greatest. -/
theorem Kept.counted (going : ∀ fault, descent.phase ≠ .failed fault) :
    descent.depth = guards descent.stack ∧ descent.depth ≤ greatestDepth := by
  obtain ⟨routine, runs⟩ | ⟨⟨fault, failed⟩, -⟩ := kept.runs_or_fails
  · exact ⟨runs.counted, runs.counted ▸ runs.bounded⟩
  · exact absurd failed (going fault)

/-- The stack stays shallow, since the depth bounds the guards on it. -/
theorem Kept.shallow : descent.stack.length < 7 * (greatestDepth + 1) := by
  have height {routine : Routine} (linked : Linked routine descent.stack)
      (bounded : guards descent.stack ≤ greatestDepth) :
      descent.stack.length < 7 * (greatestDepth + 1) := by
    have := linked.length_le
    have := routine.level_le
    omega
  obtain ⟨routine, runs⟩ | ⟨-, fails⟩ := kept.runs_or_fails
  · exact height runs.linked runs.bounded
  · exact height fails.linked.choose_spec fails.bounded

end Kept

end Descent

end BotHost.Condition
