/-
What a variable is to the conditions behind it.

A variable block is accepted exactly if its name is one that conditions read as a single identifier. A
condition behind it, with no block in between that binds the name again, is read with the name bound to
the value of the block. So wherever the name stands as an operand, the value stands in the condition.
-/

import BotHost.Proofs.Condition.Naming
import BotHost.Proofs.Condition.Resolution
import BotHost.Proofs.Handler.Binding

namespace BotHost

namespace Compilation

open Condition (Expression Scope Token)

variable {scope : Scope} {block binder later : Block} {name : String}

section Blocks

/-! ### Condition blocks -/

/-- The handler that decides by a condition between the texts of a block. -/
def conditionHandler (block : Block) (condition : Expression) : Handler :=
  ⟨.trigger, some block.id, .anyMessage,
    .branch condition (block.textOr "trueResponse" defaultTrueResponse)
      (block.textOr "falseResponse" defaultFalseResponse)⟩

/-- What a condition block yields once its source has been read. -/
def conditionOutcome (block : Block) : Except Condition.Fault Expression → Outcome
  | .ok condition => .handler (conditionHandler block condition)
  | .error fault => .warning ⟨block.id, .badCondition fault⟩

variable [PatternEngine]

theorem outcome_eq_conditionOutcome (kind : block.kind = .condition) :
    outcome scope block =
      conditionOutcome block (Condition.parse (block.textOr "condition" defaultCondition) scope) := by
  unfold outcome handler?
  simp only [kind]
  cases Condition.parse (block.textOr "condition" defaultCondition) scope <;> rfl

/-! ### Variables in sight -/

theorem binds_of_accepted (kind : block.kind = .variable)
    (named : block.textOr "name" defaultVariableName = name)
    (accepted : ∀ warning, outcome scope block ≠ .warning warning) : Binds name block := by
  refine ⟨kind, named, ?_⟩
  by_contra unusable
  refine accepted ⟨block.id, .badVariableName name⟩ ?_
  unfold outcome handler?
  simp only [kind, named, if_neg unusable]

theorem getElem?_outcomes (before after : List Block) (block : Block) :
    (outcomes (before ++ block :: after))[before.length]? =
      some (outcome (before.foldl scopeAfter .empty) block) := by
  rw [outcomes, getElem?_outcomesFrom, List.getElem?_append_right (Nat.le_refl _), Nat.sub_self,
    List.take_left]
  rfl

/-- The block behind a variable block, with none in between that binds the name again, is read with the
name bound to its value. -/
theorem exists_scope_of_binds {earlier between : List Block} (rest : List Block)
    (binds : Binds name binder) (unshadowed : ∀ other ∈ between, ¬Binds name other) :
    ∃ scope : Scope, scope.find? name = some (boundValue binder) ∧
      (outcomes (earlier ++ binder :: (between ++ later :: rest)))[earlier.length + 1 +
        between.length]? = some (outcome scope later) := by
  refine ⟨(earlier ++ binder :: between).foldl scopeAfter .empty, ?_, ?_⟩
  · have unbound : lastBinder? name between = none := by
      refine List.find?_eq_none.mpr fun other among => ?_
      simpa using unshadowed other (List.mem_reverse.mp among)
    rw [List.foldl_append, List.foldl_cons, find?_foldl_scopeAfter, find?_scopeAfter, if_pos binds,
      unbound]
    rfl
  · have split : earlier ++ binder :: (between ++ later :: rest) =
        (earlier ++ binder :: between) ++ later :: rest := by simp
    have place : earlier.length + 1 + between.length = (earlier ++ binder :: between).length := by
      simp only [List.length_append, List.length_cons]
      omega
    rw [split, place, getElem?_outcomes]

end Blocks

/-! ### Names as operands -/

/-- The texts on the two sides of a name are read as these tokens, and neither goes on with the name
where it stands. -/
structure Surrounds (front back : String) (before after : List Token) : Prop where
  lexedFront : Condition.tokenize front = .ok before
  lexedBack : Condition.tokenize back = .ok after
  apart : Condition.EndsApart front.toList
  stops : ∀ character ∈ back.toList.head?, Condition.continuesName character = false

/-- The names that variables may have are the texts that are read as one identifier and are not
reserved; wherever such a name stands alone, it is one identifier between the tokens on its two sides.
A name that an accepted variable block binds stands for its value in every condition behind it, unless a
block in between binds the name again: the name is not unknown, an operand that begins with it is the
value, and wherever it is an operand of a condition that is read, the value stands between the constants
of what is in front of it and of what is behind. -/
theorem names_resolve [PatternEngine] (name : String) :
    (Condition.isVariableName name = true ↔
        Condition.tokenize name = .ok [.identifier name] ∧ name ∉ ["msg", "true", "false"]) ∧
      (Condition.isVariableName name = true →
        ∀ front back before after, Surrounds front back before after →
          Condition.tokenize (front ++ name ++ back) = .ok (before ++ .identifier name :: after)) ∧
      ∀ (earlier between rest : List Block) (binder later : Block),
        binder.kind = .variable → binder.textOr "name" defaultVariableName = name →
        (∀ warning, (outcomes (earlier ++ binder :: (between ++ later :: rest)))[earlier.length]? ≠
          some (.warning warning)) →
        (∀ other ∈ between, ¬Binds name other) → later.kind = .condition →
        ∃ scope : Scope, scope.find? name = some (boundValue binder) ∧
          (outcomes (earlier ++ binder :: (between ++ later :: rest)))[earlier.length + 1 +
              between.length]? =
            some (conditionOutcome later
              (Condition.parse (later.textOr "condition" defaultCondition) scope)) ∧
          Condition.parse (later.textOr "condition" defaultCondition) scope ≠
            .error (.unknownVariable name) ∧
          (∀ room tokens, ∃ shorter, Condition.parsePrimary scope room (.identifier name :: tokens) =
            .ok ⟨.literal (boundValue binder), tokens, shorter⟩) ∧
          ∀ before after, Condition.OperandFollows before →
            Condition.tokenize (later.textOr "condition" defaultCondition) =
              .ok (before ++ .identifier name :: after) →
            ∀ condition,
              Condition.parse (later.textOr "condition" defaultCondition) scope = .ok condition →
                condition.constants = Condition.constantsOf scope before ++
                  boundValue binder :: Condition.constantsOf scope after := by
  refine ⟨?_, fun usable front back before after surrounds => ?_,
    fun earlier between rest binder later kind named accepted unshadowed conditional => ?_⟩
  · rw [Condition.tokenize_eq_identifier_iff, Condition.isVariableName_iff_isName]
    rfl
  · exact Condition.tokenize_around (Condition.isVariableName_iff_isName.mp usable).1
      surrounds.lexedFront surrounds.lexedBack surrounds.apart surrounds.stops
  have binds : Binds name binder := by
    have yields := getElem?_outcomes earlier (between ++ later :: rest) binder
    exact binds_of_accepted kind named fun warning refused =>
      accepted warning (yields.trans (congrArg some refused))
  have free := (Condition.isVariableName_iff_isName.mp binds.2.2).2
  obtain ⟨scope, found, there⟩ := exists_scope_of_binds rest binds unshadowed
  rw [outcome_eq_conditionOutcome conditional] at there
  refine ⟨scope, found, there, fun refused => ?_, fun room tokens => ?_,
    fun before after operand lexed condition read => ?_⟩
  · cases found.symm.trans (Condition.parse_blames name refused)
  · exact (Condition.Atom.bound free found).finds
  · rw [Condition.constants_of_parse read lexed, Condition.constantsOf_append operand,
      Condition.constantsOf, Condition.Scope.constant?_of_free free, found]
    rfl

/-- Binds a name of letters beyond the alphabet and a digit to a number below zero. -/
def offset : Block :=
  ⟨"offset", .variable, [("name", .text "été2"), ("value", .number (.integer (-3)))]⟩

/-- Compares the length of the message with the number. -/
def check : Block :=
  ⟨"check", .condition, [("condition", .text "msg.text.length > été2")]⟩

/-- The condition of the block once the name has been replaced. -/
def beyondOffset : Expression :=
  .compare .greater (.length .messageText) (.literal (.integer (-3)))

theorem parse_check {scope : Scope} (found : scope.find? "été2" = some (.integer (-3))) :
    Condition.parse "msg.text.length > été2" scope = .ok beyondOffset := by
  have length : Condition.Derives scope .term _ _ (.length .messageText) :=
    .term (.atom .messageText) (.length .lastMember)
  have bound : Condition.Derives scope .term _ _ (.literal (.integer (-3))) :=
    (Condition.Derives.atom (.bound (by decide) found)).toTerm
  have whole := (length.comparison .greater bound).unnegated.toConjunction.toDisjunction
  have typed : beyondOffset.HasType .boolean := .ordering rfl (.length .messageText) (.literal _)
  exact Condition.parse_eq_ok_iff_derives.mpr ⟨⟨'m', by decide, by decide⟩, by decide, _,
    Condition.eq_ok_of_toOption (by decide +kernel), _, whole, typed, by decide, by decide⟩

attribute [local instance] PatternEngine.unlimited

theorem names_resolve_offset :
    ∃ scope : Scope, (outcomes [offset, check])[1]? =
        some (conditionOutcome check (Condition.parse "msg.text.length > été2" scope)) ∧
      Condition.parse "msg.text.length > été2" scope = .ok beyondOffset ∧
      beyondOffset.constants = [.integer (-3)] := by
  obtain ⟨-, alone, behind⟩ := names_resolve "été2"
  have accepted : (outcomes [offset, check])[0]? = some .silent := by decide +kernel
  obtain ⟨scope, found, there, -, -, resolves⟩ := behind [] [] [] offset check rfl
    (by decide +kernel) (fun warning refused => nomatch accepted.symm.trans refused) nofun rfl
  have around : Surrounds "msg.text.length > " "" [.identifier "msg", .dot, .identifier "text", .dot,
      .identifier "length", .comparison .greater] [] :=
    ⟨Condition.eq_ok_of_toOption (by decide +kernel),
      Condition.eq_ok_of_toOption (by decide +kernel), by decide +kernel, nofun⟩
  have source : check.textOr "condition" defaultCondition = "msg.text.length > " ++ "été2" ++ "" := by
    decide +kernel
  have read := parse_check found
  rw [source] at there resolves
  exact ⟨scope, there, read, resolves _ _ (by decide) (alone (by decide +kernel) _ _ _ _ around) _ read⟩

end Compilation

end BotHost
