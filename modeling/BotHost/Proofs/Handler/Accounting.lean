/-
How a compilation accounts for its blocks.

Every block yields one thing: a handler or a warning under its own name, or nothing at all. The
compilation lists the handlers and the warnings as they come. A refused block binds no variable, so the
blocks behind it yield what they would yield without it. The fallback is decided by counting: there are
as many warnings as blocks exactly if no block has yielded anything else, and then there is no handler
that the fallback could displace.
-/

import BotHost.Proofs.Condition.Reading
import BotHost.Proofs.Handler.Interpretation
import Mathlib.Data.List.Forall2

namespace BotHost

namespace Compilation

open Condition (Scope bind_eq_ok)

/-- The block is valid and has no handler: a photo without an address, or a variable with a usable
name. -/
def Quiet (block : Block) : Prop :=
  block.kind = .photo ∧ block.text? "photoUrl" = none ∨
    block.kind = .variable ∧
      Condition.isVariableName (block.textOr "name" defaultVariableName) = true

/-- What a block may yield. A quiet block yields nothing, and every other block something. -/
inductive Yields (block : Block) : Outcome → Prop
  | handler {handler : Handler} (loud : ¬Quiet block) (named : handler.block = some block.id)
      (made : handler.kind ≠ .fallback) : Yields block (.handler handler)
  | warning {warning : Warning} (loud : ¬Quiet block) (named : warning.block = block.id) :
      Yields block (.warning warning)
  | silent (quiet : Quiet block) : Yields block .silent

/-- Every block was refused. -/
def AllRefused (outcomes : List Outcome) : Prop :=
  ∀ outcome ∈ outcomes, ∃ warning, outcome = .warning warning

/-- The outcomes account for the blocks one by one, and the compilation lists them in this order, the
fallback standing in if every block was refused. -/
structure Accounts (blocks : List Block) (outcomes : List Outcome) (compilation : Compilation) :
    Prop where
  yields : List.Forall₂ Yields blocks outcomes
  warnings : compilation.warnings = outcomes.filterMap Outcome.warning?
  handlers : ¬AllRefused outcomes → compilation.handlers = outcomes.filterMap Outcome.handler?
  fallback : AllRefused outcomes → compilation.handlers = [.fallback]

theorem allRefused_iff (outcomes : List Outcome) :
    AllRefused outcomes ↔ ¬∃ outcome ∈ outcomes, outcome.warning? = none := by
  have refused (outcome : Outcome) :
      (∃ warning, outcome = .warning warning) ↔ ¬outcome.warning? = none := by
    cases outcome <;> simp [Outcome.warning?]
  simp only [AllRefused, refused]
  simp

variable [PatternEngine] {scope : Scope} {block : Block} {blocks : List Block} {handler : Handler}

/-! ### One block -/

theorem handler?_eq_none_iff : handler? scope block = .ok none ↔ Quiet block := by
  unfold handler? Quiet
  cases kind : block.kind with
  | start | button | unknown => simp
  | command | message | condition => simp [bind_eq_ok]
  | keyboard => simp [bind_eq_ok]
  | photo =>
    cases block.text? "photoUrl" with
    | none => simp
    | some url => simp [bind_eq_ok]
  | «variable» =>
    dsimp only
    split <;> simp_all

/-- A handler bears the name of its block, and is not the fallback. -/
theorem names_of_handler? (compiled : handler? scope block = .ok (some handler)) :
    handler.block = some block.id ∧ handler.kind ≠ .fallback := by
  unfold handler? at compiled
  cases kind : block.kind with simp only [kind] at compiled
  | start | button =>
    cases compiled
    exact ⟨rfl, nofun⟩
  | command | message | condition =>
    obtain ⟨_, -, made⟩ := bind_eq_ok.mp compiled
    cases made
    exact ⟨rfl, nofun⟩
  | keyboard =>
    obtain ⟨rows, -, ruled⟩ := bind_eq_ok.mp compiled
    obtain ⟨matcher, -, made⟩ := bind_eq_ok.mp ruled
    cases made
    exact ⟨rfl, nofun⟩
  | photo =>
    split at compiled
    · cases compiled
    · obtain ⟨matcher, -, made⟩ := bind_eq_ok.mp compiled
      cases made
      exact ⟨rfl, nofun⟩
  | «variable» => split at compiled <;> cases compiled
  | unknown name => cases compiled

theorem yields_outcome (scope : Scope) (block : Block) : Yields block (outcome scope block) := by
  unfold outcome
  split
  next handler compiled =>
    obtain ⟨named, made⟩ := names_of_handler? compiled
    refine .handler (fun quiet => ?_) named made
    rw [handler?_eq_none_iff.mpr quiet] at compiled
    cases compiled
  next compiled => exact .silent (handler?_eq_none_iff.mp compiled)
  next refusal compiled =>
    refine .warning (fun quiet => ?_) rfl
    rw [handler?_eq_none_iff.mpr quiet] at compiled
    cases compiled

/-- A refused block binds nothing. -/
theorem scopeAfter_of_refused {warning : Warning} (refused : outcome scope block = .warning warning) :
    scopeAfter scope block = scope := by
  unfold scopeAfter
  split
  next kind =>
    dsimp only
    split
    next usable =>
      have quiet : Quiet block := .inr ⟨kind, usable⟩
      rw [outcome, handler?_eq_none_iff.mpr quiet] at refused
      cases refused
    next => rfl
  next => rfl

/-! ### All blocks -/

theorem forall₂_yields (scope : Scope) (blocks : List Block) :
    List.Forall₂ Yields blocks (outcomesFrom scope blocks) := by
  induction blocks generalizing scope with
  | nil => exact .nil
  | cons block rest inductionHypothesis =>
    exact .cons (yields_outcome scope block) (inductionHypothesis _)

theorem exists_yields_of_mem {outcome : Outcome} (yielded : outcome ∈ outcomesFrom scope blocks) :
    ∃ block ∈ blocks, Yields block outcome := by
  induction blocks generalizing scope with
  | nil => cases yielded
  | cons block rest inductionHypothesis =>
    obtain rfl | later := List.mem_cons.mp yielded
    · exact ⟨block, List.mem_cons_self, yields_outcome scope block⟩
    · obtain ⟨other, among, yields⟩ := inductionHypothesis later
      exact ⟨other, List.mem_cons_of_mem _ among, yields⟩

/-- Where a block was refused, the others yield what they yield without it. -/
theorem outcomesFrom_eraseIdx {index : Nat} {warning : Warning}
    (refused : (outcomesFrom scope blocks)[index]? = some (.warning warning)) :
    outcomesFrom scope (blocks.eraseIdx index) = (outcomesFrom scope blocks).eraseIdx index := by
  induction blocks generalizing scope index with
  | nil => rfl
  | cons block rest inductionHypothesis =>
    cases index with
    | zero =>
      have unbound := scopeAfter_of_refused (Option.some.inj refused)
      rw [outcomesFrom, unbound]
      rfl
    | succ index => exact congrArg (outcome scope block :: ·) (inductionHypothesis refused)

/-- Of handlers that were made from blocks none is the fallback. -/
theorem not_isFallbackOnly (blocks : List Block) :
    ¬Handler.isFallbackOnly ((outcomes blocks).filterMap Outcome.handler?) = true := by
  intro only
  unfold Handler.isFallbackOnly at only
  split at only
  next handler single =>
    have among : handler ∈ (outcomes blocks).filterMap Outcome.handler? := by
      rw [single]
      exact List.mem_singleton_self handler
    obtain ⟨outcome, yielded, same⟩ := List.mem_filterMap.mp among
    obtain ⟨block, -, yields⟩ := exists_yields_of_mem yielded
    cases yields with
    | handler loud named made =>
      cases same
      exact made (eq_of_beq only)
    | warning | silent => cases same
  next => cases only

/-- Every block is accounted for, in order; a refused block changes nothing for the others; and the
fallback is what a compilation comes to exactly if every block was refused, so a list in which some
block is silent and the others are refused compiles to no handler at all. -/
theorem accounts (blocks : List Block) :
    Accounts blocks (outcomes blocks) (compile blocks) ∧
      (∀ index warning, (outcomes blocks)[index]? = some (.warning warning) →
        outcomes (blocks.eraseIdx index) = (outcomes blocks).eraseIdx index) ∧
      (Handler.isFallbackOnly (compile blocks).handlers = true ↔ AllRefused (outcomes blocks)) ∧
      (.silent ∈ outcomes blocks →
        (∀ outcome ∈ outcomes blocks, outcome.handler? = none) → (compile blocks).handlers = []) := by
  have compiled := Interpretation.handlers_compile blocks
  have handlers (valid : ¬AllRefused (outcomes blocks)) :
      (compile blocks).handlers = (outcomes blocks).filterMap Outcome.handler? := by
    rw [allRefused_iff, not_not] at valid
    exact compiled.trans (if_pos valid)
  have fallback (refused : AllRefused (outcomes blocks)) : (compile blocks).handlers = [.fallback] :=
    compiled.trans (if_neg ((allRefused_iff _).mp refused))
  refine ⟨⟨forall₂_yields .empty blocks, rfl, handlers, fallback⟩, ?_, ⟨?_, ?_⟩, ?_⟩
  · exact fun index warning refused => outcomesFrom_eraseIdx refused
  · intro only
    by_contra valid
    rw [handlers valid] at only
    exact not_isFallbackOnly blocks only
  · intro refused
    rw [fallback refused]
    rfl
  · intro silent unhandled
    have valid : ¬AllRefused (outcomes blocks) := by
      intro refused
      obtain ⟨warning, same⟩ := refused _ silent
      cases same
    rw [handlers valid]
    exact List.filterMap_eq_nil_iff.mpr unhandled

end Compilation

end BotHost
