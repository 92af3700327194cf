/-
What a condition depends on.

Reading looks a name up only where it stands among the tokens. So two scopes that agree on the names
of a text give the same outcome for it, the same expression or the same fault. The proofs recurse as
the reading functions do; that what is left unread holds no other names is known from what was read.
-/

import BotHost.Proofs.Condition.Reading

namespace BotHost.Condition

/-- The scopes bind the names among the tokens alike. -/
def AgreeOn (scope other : Scope) (tokens : List Token) : Prop :=
  ∀ name, .identifier name ∈ tokens → scope.find? name = other.find? name

variable {scope other : Scope}

theorem AgreeOn.of_cons {first : Token} {rest : List Token}
    (alike : AgreeOn scope other (first :: rest)) : AgreeOn scope other rest :=
  fun name among => alike name (List.mem_cons_of_mem first among)

theorem AgreeOn.behind {first : Token} {rest tokens : List Token} (alike : AgreeOn scope other tokens)
    (split : tokens = first :: rest) : AgreeOn scope other rest :=
  (split ▸ alike).of_cons

/-- Scopes that agree on a text agree on what stands behind a phrase of it. -/
theorem AgreeOn.of_append {phrase rest tokens : List Token} (alike : AgreeOn scope other tokens)
    (split : tokens = phrase ++ rest) : AgreeOn scope other rest :=
  fun name among => alike name (split ▸ List.mem_append_right phrase among)

theorem AgreeOn.rest {category : Category} {room : Nat} {tokens rest : List Token}
    {expression : Expression} (alike : AgreeOn scope other tokens)
    (reads : Reads other category room tokens expression rest) : AgreeOn scope other rest := by
  obtain ⟨phrase, _, _, split, _⟩ := reads
  exact alike.of_append split

theorem bind_congr_ok {Cause Value Result : Type} {first : Except Cause Value}
    {next next' : Value → Except Cause Result}
    (same : ∀ value, first = .ok value → next value = next' value) :
    (first >>= next) = (first >>= next') := by
  cases first with
  | error cause => rfl
  | ok value => exact same value rfl

/-! ### Reading looks up the names among the tokens -/

mutual

/-- A condition is read alike in scopes that agree. -/
theorem parseOr_congr {room : Nat} {tokens : List Token} (alike : AgreeOn scope other tokens) :
    parseOr scope room tokens = parseOr other room tokens := by
  rw [parseOr, parseOr, parseAnd_congr alike]
  refine bind_congr_ok fun first read => ?_
  exact continueOr_congr (alike.rest (parseAnd_reads read))
termination_by (tokens.length, 6)
decreasing_by
  · exact .right _ (by omega)
  · exact .left _ _ first.shorter

theorem continueOr_congr {room : Nat} {tokens rest : List Token} {left : Expression}
    {shorter : rest.length < tokens.length} (alike : AgreeOn scope other rest) :
    continueOr scope room tokens left rest shorter =
      continueOr other room tokens left rest shorter := by
  unfold continueOr
  split
  · rw [parseAnd_congr alike.of_cons]
    refine bind_congr_ok fun right read => ?_
    refine bind_congr_ok fun left _ => bind_congr_ok fun operand _ => ?_
    exact continueOr_congr (alike.of_cons.rest (parseAnd_reads read))
  · rfl
termination_by (rest.length, 6)
decreasing_by
  · subst_vars; exact .left _ _ (by simp)
  · subst_vars; exact .left _ _ (Nat.lt_succ_of_lt right.shorter)

theorem parseAnd_congr {room : Nat} {tokens : List Token} (alike : AgreeOn scope other tokens) :
    parseAnd scope room tokens = parseAnd other room tokens := by
  rw [parseAnd, parseAnd, parseUnary_congr alike]
  refine bind_congr_ok fun first read => ?_
  exact continueAnd_congr (alike.rest (parseUnary_reads read))
termination_by (tokens.length, 5)
decreasing_by
  · exact .right _ (by omega)
  · exact .left _ _ first.shorter

theorem continueAnd_congr {room : Nat} {tokens rest : List Token} {left : Expression}
    {shorter : rest.length < tokens.length} (alike : AgreeOn scope other rest) :
    continueAnd scope room tokens left rest shorter =
      continueAnd other room tokens left rest shorter := by
  unfold continueAnd
  split
  · rw [parseUnary_congr alike.of_cons]
    refine bind_congr_ok fun right read => ?_
    refine bind_congr_ok fun left _ => bind_congr_ok fun operand _ => ?_
    exact continueAnd_congr (alike.of_cons.rest (parseUnary_reads read))
  · rfl
termination_by (rest.length, 6)
decreasing_by
  · subst_vars; exact .left _ _ (by simp)
  · subst_vars; exact .left _ _ (Nat.lt_succ_of_lt right.shorter)

theorem parseUnary_congr {room : Nat} {tokens : List Token} (alike : AgreeOn scope other tokens) :
    parseUnary scope room tokens = parseUnary other room tokens := by
  unfold parseUnary
  split
  · split
    · rfl
    · rw [parseUnary_congr alike.of_cons]
  · exact parseCompare_congr alike
termination_by (tokens.length, 4)
decreasing_by
  · subst_vars; exact .left _ _ (by simp)
  · exact .right _ (by omega)

theorem parseCompare_congr {room : Nat} {tokens : List Token} (alike : AgreeOn scope other tokens) :
    parseCompare scope room tokens = parseCompare other room tokens := by
  rw [parseCompare, parseCompare, parseTerm_congr alike]
  refine bind_congr_ok fun left read => ?_
  split
  · rename_i comparison behind remaining
    have behindAlike := alike.rest (parseTerm_reads read)
    rw [remaining] at behindAlike
    rw [parseTerm_congr behindAlike.of_cons]
  · rfl
termination_by (tokens.length, 3)
decreasing_by
  · exact .right _ (by omega)
  · rename_i remaining _
    exact .left _ _ (left.shorter_behind remaining)

theorem parseTerm_congr {room : Nat} {tokens : List Token} (alike : AgreeOn scope other tokens) :
    parseTerm scope room tokens = parseTerm other room tokens := by
  rw [parseTerm, parseTerm, parsePrimary_congr alike]
  refine bind_congr_ok fun first read => ?_
  exact continueTerm_congr (alike.rest (parsePrimary_reads read))
termination_by (tokens.length, 2)
decreasing_by
  · exact .right _ (by omega)
  · exact .left _ _ first.shorter

theorem continueTerm_congr {room : Nat} {tokens rest : List Token} {subject : Expression}
    {shorter : rest.length < tokens.length} (alike : AgreeOn scope other rest) :
    continueTerm scope room tokens subject rest shorter =
      continueTerm other room tokens subject rest shorter := by
  unfold continueTerm
  split
  · have called := alike.of_cons.of_cons
    split
    · refine bind_congr_ok fun operand _ => ?_
      exact continueTerm_congr called
    · split
      · rfl
      · refine bind_congr_ok fun opened readOpened => ?_
        have inner := called.behind (expect_eq_ok.mp readOpened)
        rw [parseNested_congr inner]
        refine bind_congr_ok fun argument readArgument => ?_
        obtain ⟨phrase, _, _, split, _⟩ := parseNested_reads readArgument
        refine bind_congr_ok fun closed readClosed => ?_
        have after := (inner.of_append split).behind (expect_eq_ok.mp readClosed)
        refine bind_congr_ok fun subject _ => bind_congr_ok fun operand _ => ?_
        exact continueTerm_congr after
  · rfl
  · rfl
termination_by (rest.length, 6)
decreasing_by
  · subst_vars; exact .left _ _ (Nat.lt_add_right 2 opened.2)
  · subst_vars
    have behind := Nat.lt_trans closed.2 (Nat.lt_trans argument.shorter opened.2)
    exact .left _ _ (Nat.lt_add_right 2 behind)
  · subst_vars; exact .left _ _ (Nat.lt_add_of_pos_right Nat.two_pos)

theorem parseNested_congr {room : Nat} {tokens : List Token} (alike : AgreeOn scope other tokens) :
    parseNested scope room tokens = parseNested other room tokens := by
  unfold parseNested
  split
  · rfl
  · exact parseOr_congr alike
termination_by (tokens.length, 7)

theorem parsePrimary_congr {room : Nat} {tokens : List Token} (alike : AgreeOn scope other tokens) :
    parsePrimary scope room tokens = parsePrimary other room tokens := by
  unfold parsePrimary
  split
  · rfl
  · rfl
  · rw [parseNested_congr alike.of_cons]
  · rename_i name rest
    rw [alike name List.mem_cons_self]
  · rfl
termination_by (tokens.length, 1)
decreasing_by
  subst_vars; exact .left _ _ (by simp)

end

/-- What comes of a text depends only on what the names in it are bound to. -/
theorem parse_congr {source : String}
    (alike : ∀ tokens, tokenize source = .ok tokens → AgreeOn scope other tokens) :
    parse source scope = parse source other := by
  unfold parse
  dsimp only
  split
  · rfl
  · split
    · rfl
    · refine bind_congr_ok fun tokens lexed => ?_
      rw [parseOr_congr (alike tokens lexed)]

end BotHost.Condition
