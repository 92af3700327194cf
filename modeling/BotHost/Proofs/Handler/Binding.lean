/-
Which variables a condition sees.

A condition is read with the variables that the blocks before it bind, and each name has the value of
the last block that binds it. So a block does not concern the blocks before it. The blocks behind it
can tell whether it is there only if they are conditions, use the name that it binds, and have no
other block in between that binds this name again.
-/

import BotHost.Handler.Compilation
import BotHost.Proofs.Condition.Dependence
import BotHost.Proofs.Handler.Interpretation
import Mathlib.Data.List.Basic
import Mathlib.Data.List.Induction

namespace BotHost

namespace Compilation

open Condition (Scope)

/-- The block is a variable block with a usable name, and this is its name. -/
def Binds (name : String) (block : Block) : Prop :=
  block.kind = .variable ∧ block.textOr "name" defaultVariableName = name ∧
    Condition.isVariableName name = true

instance (name : String) : DecidablePred (Binds name) :=
  fun _ => inferInstanceAs (Decidable (_ ∧ _ ∧ _))

/-- The value that a variable block gives to its name. -/
def boundValue (block : Block) : Condition.Value :=
  match block.field? "value" with
  | some field => .ofJson field
  | none => .string ""

/-- The last of the blocks that bind a name. -/
def lastBinder? (name : String) (blocks : List Block) : Option Block :=
  blocks.reverse.find? fun block => Binds name block

/-- The block is a condition, and the name is among the identifiers of its source. -/
def Mentions (name : String) (block : Block) : Prop :=
  block.kind = .condition ∧
    ∃ tokens, Condition.tokenize (block.textOr "condition" defaultCondition) = .ok tokens ∧
      .identifier name ∈ tokens

variable {scope other : Scope} {block later : Block} {name : String}

theorem Binds.unique {name' : String} (binds : Binds name block) (binds' : Binds name' block) :
    name' = name :=
  binds'.2.1.symm.trans binds.2.1

/-! ### The scope behind blocks -/

theorem find?_scopeAfter (scope : Scope) (block : Block) (name : String) :
    (scopeAfter scope block).find? name =
      if Binds name block then some (boundValue block) else scope.find? name := by
  have value : ((block.field? "value").map .ofJson).getD (.string "") = boundValue block := by
    unfold boundValue
    cases block.field? "value" <;> rfl
  unfold scopeAfter
  cases kind : block.kind with
  | «variable» =>
    simp only [value]
    split
    next usable =>
      by_cases named : block.textOr "name" defaultVariableName = name
      · subst named
        rw [Scope.find?_bind_self, if_pos ⟨kind, rfl, usable⟩]
      · rw [Scope.find?_bind_other _ _ _ _ (Ne.symm named), if_neg fun binds => named binds.2.1]
    next unusable =>
      rw [if_neg]
      rintro ⟨_, rfl, usable⟩
      exact unusable usable
  | _ =>
    have unbound : ¬Binds name block := fun binds => by cases kind.symm.trans binds.1
    rw [if_neg unbound]

/-- Behind blocks a name has the value of the last of them that binds it, and else the one it had
before. By induction from the back, where the last binder stands. -/
theorem find?_foldl_scopeAfter (scope : Scope) (blocks : List Block) (name : String) :
    (blocks.foldl scopeAfter scope).find? name =
      ((lastBinder? name blocks).map boundValue).or (scope.find? name) := by
  induction blocks using List.reverseRecOn with
  | nil => rfl
  | append_singleton blocks block inductionHypothesis =>
    rw [List.foldl_append, List.foldl_cons, List.foldl_nil, find?_scopeAfter, inductionHypothesis,
      lastBinder?, lastBinder?, List.reverse_append, List.reverse_singleton, List.singleton_append,
      List.find?_cons]
    by_cases binds : Binds name block
    · rw [if_pos binds, decide_eq_true binds]
      rfl
    · rw [if_neg binds, decide_eq_false binds]

theorem not_binds_of_lastBinder? {blocks : List Block} (none : lastBinder? name blocks = none)
    (among : block ∈ blocks) : ¬Binds name block := by
  have refused := List.find?_eq_none.mp none block (List.mem_reverse.mpr among)
  exact fun binds => refused (decide_eq_true binds)

/-! ### What the outcome of a block depends on -/

section Outcomes

variable [PatternEngine]

theorem handler?_congr (agree : ∀ name, Mentions name block → scope.find? name = other.find? name) :
    handler? scope block = handler? other block := by
  unfold handler?
  cases kind : block.kind with
  | condition =>
    have read : Condition.parse (block.textOr "condition" defaultCondition) scope =
        Condition.parse (block.textOr "condition" defaultCondition) other :=
      Condition.parse_congr fun tokens lexed name among =>
        agree name ⟨kind, tokens, lexed, among⟩
    simp only [read]
  | _ => rfl

theorem outcome_congr (agree : ∀ name, Mentions name block → scope.find? name = other.find? name) :
    outcome scope block = outcome other block := by
  rw [outcome, outcome, handler?_congr agree]

theorem outcomesFrom_append (scope : Scope) (before after : List Block) :
    outcomesFrom scope (before ++ after) =
      outcomesFrom scope before ++ outcomesFrom (before.foldl scopeAfter scope) after := by
  induction before generalizing scope with
  | nil => rfl
  | cons block rest inductionHypothesis =>
    exact congrArg (outcome scope block :: ·) (inductionHypothesis _)

theorem getElem?_outcomesFrom (scope : Scope) (blocks : List Block) (index : Nat) :
    (outcomesFrom scope blocks)[index]? =
      blocks[index]?.map (outcome ((blocks.take index).foldl scopeAfter scope)) := by
  induction blocks generalizing scope index with
  | nil => rfl
  | cons block rest inductionHypothesis =>
    cases index with
    | zero => rfl
    | succ index => exact inductionHypothesis _ index

/-- Whoever tells scopes apart that differ by what a block binds uses the name that it binds, and no
block in between binds the name again. -/
theorem binds_of_outcome_ne {between : List Block}
    (differs : outcome (between.foldl scopeAfter (scopeAfter scope block)) later ≠
      outcome (between.foldl scopeAfter scope) later) :
    ∃ name, Binds name block ∧ Mentions name later ∧ ∀ other ∈ between, ¬Binds name other := by
  obtain ⟨name, mentions, apart⟩ : ∃ name, Mentions name later ∧
      (between.foldl scopeAfter (scopeAfter scope block)).find? name ≠
        (between.foldl scopeAfter scope).find? name := by
    by_contra alike
    refine differs (outcome_congr fun name mentions => ?_)
    by_contra apart
    exact alike ⟨name, mentions, apart⟩
  rw [find?_foldl_scopeAfter, find?_foldl_scopeAfter] at apart
  cases bound : lastBinder? name between with
  | some binder =>
    rw [bound] at apart
    exact absurd rfl apart
  | none =>
    rw [bound, Option.map_none, Option.none_or, Option.none_or, find?_scopeAfter] at apart
    refine ⟨name, ?_, mentions, fun _ => not_binds_of_lastBinder? bound⟩
    by_contra unbound
    exact apart (if_neg unbound)

end Outcomes

/-! ### A block more or less -/

/-- What a block more in the middle of others changes. The blocks before it yield what they yield
without it. So do those behind it if it binds no name; if it binds one, only conditions behind it may
differ that use the name and see this block as the last one to bind it. And every block is read with
the variables that the last blocks to bind them before it have set. -/
theorem outcomes_insert [PatternEngine] (before after : List Block) (block : Block) :
    (outcomes (before ++ block :: after)).take before.length =
        (outcomes (before ++ after)).take before.length ∧
      ((∀ name, ¬Binds name block) →
        (outcomes (before ++ block :: after)).drop (before.length + 1) =
          (outcomes (before ++ after)).drop before.length) ∧
      (∀ name, Binds name block → ∀ (index : Nat) (later : Block), after[index]? = some later →
        (outcomes (before ++ block :: after))[before.length + 1 + index]? ≠
            (outcomes (before ++ after))[before.length + index]? →
          Mentions name later ∧ ∀ other ∈ after.take index, ¬Binds name other) ∧
      ∃ scope : Scope,
        (∀ name, scope.find? name = (lastBinder? name before).map boundValue) ∧
          (outcomes (before ++ block :: after))[before.length]? = some (outcome scope block) := by
  have length := Interpretation.length_outcomesFrom .empty before
  rw [outcomes, outcomes, outcomesFrom_append, outcomesFrom_append, outcomesFrom, ← length]
  refine ⟨?_, ?_, ?_, before.foldl scopeAfter .empty, fun name => ?_, ?_⟩
  · rw [List.take_left, List.take_left]
  · intro unbinding
    rw [List.drop_append, List.drop_left, List.drop_eq_nil_of_le (Nat.le_succ _), List.nil_append,
      Nat.add_sub_cancel_left, List.drop_succ_cons, List.drop_zero]
    refine List.ext_getElem? fun index => ?_
    rw [getElem?_outcomesFrom, getElem?_outcomesFrom]
    cases after[index]? with
    | none => rfl
    | some later =>
      refine congrArg some ?_
      by_contra differs
      obtain ⟨name, binds, _⟩ := binds_of_outcome_ne differs
      exact unbinding name binds
  · intro name binds index later there differs
    rw [Nat.add_assoc, List.getElem?_append_right (Nat.le_add_right _ _), Nat.add_sub_cancel_left,
      List.getElem?_append_right (Nat.le_add_right _ _), Nat.add_sub_cancel_left, Nat.add_comm 1,
      List.getElem?_cons_succ, getElem?_outcomesFrom, getElem?_outcomesFrom, there] at differs
    obtain ⟨name', binds', mentions, unshadowed⟩ :=
      binds_of_outcome_ne fun same => differs (congrArg some same)
    rw [← binds.unique binds']
    exact ⟨mentions, unshadowed⟩
  · rw [find?_foldl_scopeAfter]
    exact Option.or_none
  · rw [List.getElem?_append_right (Nat.le_refl _), Nat.sub_self]
    rfl

end Compilation

end BotHost
