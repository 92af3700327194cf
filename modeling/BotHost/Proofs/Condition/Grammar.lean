/-
The grammar of conditions.

  or      := and ( "||" and )*
  and     := unary ( "&&" unary )*
  unary   := "!" unary | compare
  compare := term ( comparison term )?
  term    := primary ( "." member )*
  member  := "length" | ("includes" | "contains" | "startsWith" | "endsWith") "(" or ")"
  primary := "msg" "." "text" | INTEGER | STRING | "true" | "false" | NAME | "(" or ")"

A repetition is a category of its own. It is told what stands before it, which is how its operators
come to group to the left. Types play no part here, and no limit does: a derivation only counts how
many parentheses, arguments and negations are nested around one another.

The grammar is unambiguous. Where a phrase ends is decided by the token behind it, which has to join
more loosely than anything the phrase could have gone on with.
-/

import BotHost.Condition.Token

namespace BotHost.Condition

/-! ### Derivations -/

/-- The ways of writing a test as a member. -/
def TextTest.spellings : TextTest → List String
  | .contains => ["includes", "contains"]
  | .startsWith => ["startsWith"]
  | .endsWith => ["endsWith"]

/-- A primary that holds no other phrase. Names stand for what they are bound to. -/
inductive Atom (scope : Scope) : List Token → Expression → Prop
  | integer (value : Nat) : Atom scope [.integer value] (.literal (.integer value))
  | string (value : String) : Atom scope [.string value] (.literal (.string value))
  | truth : Atom scope [.identifier "true"] (.literal (.boolean true))
  | falsehood : Atom scope [.identifier "false"] (.literal (.boolean false))
  | messageText : Atom scope [.identifier "msg", .dot, .identifier "text"] .messageText
  | bound {name : String} {value : Value} (free : name ∉ reservedNames)
      (found : scope.find? name = some value) : Atom scope [.identifier name] (.literal value)

/-- The categories of phrases. `disjuncts`, `conjuncts` and `members` are the repetitions, each behind
the expression that has been read so far. -/
inductive Category where
  | disjunction
  | disjuncts (left : Expression)
  | conjunction
  | conjuncts (left : Expression)
  | negation
  | comparison
  | term
  | members (subject : Expression)
  | primary

/-- The tokens are a phrase of the category and mean the expression. The number says how many
parentheses, arguments and negations are nested in the phrase around one another. -/
inductive Derives (scope : Scope) : Category → List Token → Nat → Expression → Prop
  | disjunction {first more : List Token} {m n : Nat} {left whole : Expression} :
    Derives scope .conjunction first m left → Derives scope (.disjuncts left) more n whole →
      Derives scope .disjunction (first ++ more) (max m n) whole
  | lastDisjunct {left : Expression} : Derives scope (.disjuncts left) [] 0 left
  | nextDisjunct {next more : List Token} {m n : Nat} {left right whole : Expression} :
    Derives scope .conjunction next m right →
      Derives scope (.disjuncts (.or left right)) more n whole →
        Derives scope (.disjuncts left) (.or :: (next ++ more)) (max m n) whole
  | conjunction {first more : List Token} {m n : Nat} {left whole : Expression} :
    Derives scope .negation first m left → Derives scope (.conjuncts left) more n whole →
      Derives scope .conjunction (first ++ more) (max m n) whole
  | lastConjunct {left : Expression} : Derives scope (.conjuncts left) [] 0 left
  | nextConjunct {next more : List Token} {m n : Nat} {left right whole : Expression} :
    Derives scope .negation next m right →
      Derives scope (.conjuncts (.and left right)) more n whole →
        Derives scope (.conjuncts left) (.and :: (next ++ more)) (max m n) whole
  | negation {inner : List Token} {n : Nat} {operand : Expression} :
    Derives scope .negation inner n operand →
      Derives scope .negation (.bang :: inner) (n + 1) (.not operand)
  | unnegated {phrase : List Token} {n : Nat} {whole : Expression} :
    Derives scope .comparison phrase n whole → Derives scope .negation phrase n whole
  | comparison {first second : List Token} {m n : Nat} {left right : Expression}
      (kind : Comparison) :
    Derives scope .term first m left → Derives scope .term second n right →
      Derives scope .comparison (first ++ .comparison kind :: second) (max m n)
        (.compare kind left right)
  | uncompared {phrase : List Token} {n : Nat} {whole : Expression} :
    Derives scope .term phrase n whole → Derives scope .comparison phrase n whole
  | term {first more : List Token} {m n : Nat} {subject whole : Expression} :
    Derives scope .primary first m subject → Derives scope (.members subject) more n whole →
      Derives scope .term (first ++ more) (max m n) whole
  | lastMember {subject : Expression} : Derives scope (.members subject) [] 0 subject
  | length {more : List Token} {n : Nat} {subject whole : Expression} :
    Derives scope (.members (.length subject)) more n whole →
      Derives scope (.members subject) (.dot :: .identifier "length" :: more) n whole
  | test {inner more : List Token} {m n : Nat} {kind : TextTest} {spelling : String}
      {subject argument whole : Expression} (spelled : spelling ∈ kind.spellings) :
    Derives scope .disjunction inner m argument →
      Derives scope (.members (.test kind subject argument)) more n whole →
        Derives scope (.members subject)
          (.dot :: .identifier spelling :: .openParenthesis ::
            (inner ++ .closeParenthesis :: more)) (max (m + 1) n) whole
  | atom {phrase : List Token} {whole : Expression} :
    Atom scope phrase whole → Derives scope .primary phrase 0 whole
  | parenthesized {inner : List Token} {n : Nat} {whole : Expression} :
    Derives scope .disjunction inner n whole →
      Derives scope .primary (.openParenthesis :: (inner ++ [.closeParenthesis])) (n + 1) whole

variable {scope : Scope} {category : Category} {tokens rest : List Token} {nesting : Nat}
  {expression : Expression}

/-! ### Phrases as phrases of looser categories -/

theorem Derives.toTerm (derived : Derives scope .primary tokens nesting expression) :
    Derives scope .term tokens nesting expression := by
  simpa using derived.term .lastMember

theorem Derives.toNegation (derived : Derives scope .term tokens nesting expression) :
    Derives scope .negation tokens nesting expression :=
  .unnegated (.uncompared derived)

theorem Derives.toConjunction (derived : Derives scope .negation tokens nesting expression) :
    Derives scope .conjunction tokens nesting expression := by
  simpa using derived.conjunction .lastConjunct

theorem Derives.toDisjunction (derived : Derives scope .conjunction tokens nesting expression) :
    Derives scope .disjunction tokens nesting expression := by
  simpa using derived.disjunction .lastDisjunct

/-! ### Where phrases end -/

/-- How loosely a token joins the phrases on its two sides; zero for those that join none. -/
@[simp]
def Token.looseness : Token → Nat
  | .dot => 1
  | .comparison _ => 2
  | .and => 3
  | .or => 4
  | _ => 0

/-- How loosely the parts of a phrase may be joined. -/
@[simp]
def Category.looseness : Category → Nat
  | .primary => 0
  | .term | .members _ => 1
  | .negation | .comparison => 2
  | .conjunction | .conjuncts _ => 3
  | .disjunction | .disjuncts _ => 4

/-- A phrase of this looseness cannot go on with the tokens. -/
def Stops (looseness : Nat) (rest : List Token) : Prop :=
  ∀ token ∈ rest.head?, token.looseness = 0 ∨ looseness < token.looseness

@[simp]
theorem stops_nil (looseness : Nat) : Stops looseness [] := nofun

@[simp]
theorem stops_cons {looseness : Nat} {token : Token} :
    Stops looseness (token :: rest) ↔ token.looseness = 0 ∨ looseness < token.looseness := by
  simp [Stops]

theorem Stops.tighter {loose tight : Nat} (stops : Stops loose rest) (le : tight ≤ loose) :
    Stops tight rest :=
  fun token first => (stops token first).imp_right (Nat.lt_of_le_of_lt le)

theorem Derives.stops_disjuncts {left : Expression}
    (derived : Derives scope (.disjuncts left) tokens nesting expression)
    (stops : Stops Category.disjunction.looseness rest) :
    Stops Category.conjunction.looseness (tokens ++ rest) := by
  cases derived with
  | lastDisjunct => exact stops.tighter (by decide)
  | nextDisjunct => simp

theorem Derives.stops_conjuncts {left : Expression}
    (derived : Derives scope (.conjuncts left) tokens nesting expression)
    (stops : Stops Category.conjunction.looseness rest) :
    Stops Category.negation.looseness (tokens ++ rest) := by
  cases derived with
  | lastConjunct => exact stops.tighter (by decide)
  | nextConjunct => simp

theorem Derives.stops_members {subject : Expression}
    (derived : Derives scope (.members subject) tokens nesting expression)
    (stops : Stops Category.term.looseness rest) :
    Stops Category.primary.looseness (tokens ++ rest) := by
  cases derived with
  | lastMember => exact stops.tighter (by decide)
  | length | test => simp

/-- Only negations begin with an exclamation mark. -/
theorem Derives.head_ne_bang (derived : Derives scope category tokens nesting expression)
    (unnegated : category = .comparison ∨ category = .term ∨ category = .primary) :
    ∃ first more, tokens = first :: more ∧ first ≠ .bang := by
  induction derived with
  | comparison kind _ _ left _ =>
    obtain ⟨first, more, rfl, different⟩ := left (.inr (.inl rfl))
    exact ⟨first, _, rfl, different⟩
  | uncompared _ whole => exact whole (.inr (.inl rfl))
  | term _ _ subject _ =>
    obtain ⟨first, more, rfl, different⟩ := subject (.inr (.inr rfl))
    exact ⟨first, _, rfl, different⟩
  | atom atom => cases atom <;> exact ⟨_, _, rfl, nofun⟩
  | parenthesized => exact ⟨_, _, rfl, nofun⟩
  | _ => simp at unnegated

/-! ### One derivation at most -/

theorem TextTest.eq_of_spelling {spelling : String} {kind other : TextTest}
    (spelled : spelling ∈ kind.spellings) (again : spelling ∈ other.spellings) : kind = other := by
  cases kind <;> cases other <;> simp_all [spellings]

theorem TextTest.length_not_spelling (kind : TextTest) : "length" ∉ kind.spellings := by
  cases kind <;> decide

theorem Atom.unique (atom : Atom scope tokens expression) {tokens' rest' : List Token}
    {expression' : Expression} (atom' : Atom scope tokens' expression')
    (same : tokens ++ rest = tokens' ++ rest') :
    tokens = tokens' ∧ expression = expression' := by
  cases atom <;> cases atom' <;> simp_all [reservedNames]

/-- Every phrase of the category that begins the same text is the same and means the same, if neither
of the two could go on. -/
def Sole (scope : Scope) (category : Category) (tokens : List Token) (nesting : Nat)
    (expression : Expression) : Prop :=
  ∀ ⦃rest tokens' rest' : List Token⦄ ⦃nesting' : Nat⦄ ⦃expression' : Expression⦄,
    Derives scope category tokens' nesting' expression' →
      Stops category.looseness rest → Stops category.looseness rest' →
        tokens ++ rest = tokens' ++ rest' →
          tokens = tokens' ∧ nesting = nesting' ∧ expression = expression'

/-- A phrase and the repetition behind it are told from every other such pair by the first part and,
behind that, by the second. What the repetition may be depends on what the first part means. -/
theorem Sole.followed {inner : Category} (outer : Expression → Category)
    {first more first' more' rest' : List Token} {m n m' n' : Nat}
    {left whole left' whole' : Expression} (soleFirst : Sole scope inner first m left)
    (soleMore : Sole scope (outer left) more n whole)
    (derivedFirst : Derives scope inner first' m' left')
    (derivedMore : Derives scope (outer left') more' n' whole')
    (apart : Stops inner.looseness (more ++ rest)) (apart' : Stops inner.looseness (more' ++ rest'))
    (stops : Stops (outer left).looseness rest) (stops' : Stops (outer left).looseness rest')
    (same : first ++ more ++ rest = first' ++ more' ++ rest') :
    first ++ more = first' ++ more' ∧ max m n = max m' n' ∧ whole = whole' := by
  rw [List.append_assoc, List.append_assoc] at same
  obtain ⟨rfl, rfl, rfl⟩ := soleFirst derivedFirst apart apart' same
  obtain ⟨rfl, rfl, rfl⟩ := soleMore derivedMore stops stops' (List.append_cancel_left same)
  exact ⟨rfl, rfl, rfl⟩

/-- Of two phrases of a category that begin the same text, neither of which could go on, both are the
same and mean the same. -/
theorem Derives.unique (derived : Derives scope category tokens nesting expression)
    {tokens' rest' : List Token} {nesting' : Nat} {expression' : Expression}
    (derived' : Derives scope category tokens' nesting' expression')
    (stops : Stops category.looseness rest) (stops' : Stops category.looseness rest')
    (same : tokens ++ rest = tokens' ++ rest') :
    tokens = tokens' ∧ nesting = nesting' ∧ expression = expression' := by
  induction derived generalizing tokens' rest rest' nesting' expression' with
  | disjunction _ more first others =>
    cases derived' with
    | disjunction first' more' =>
      exact Sole.followed .disjuncts @first @others first' more' (more.stops_disjuncts stops)
        (more'.stops_disjuncts stops') stops stops' same
  | lastDisjunct =>
    cases derived' with
    | lastDisjunct => exact ⟨rfl, rfl, rfl⟩
    | nextDisjunct =>
      subst same
      simp at stops
  | nextDisjunct _ more next others =>
    cases derived' with
    | lastDisjunct =>
      obtain rfl : _ = rest' := same
      simp at stops'
    | nextDisjunct next' more' =>
      have same := (List.cons.inj same).2
      exact (Sole.followed (fun right => .disjuncts (.or _ right)) @next @others next' more'
        (more.stops_disjuncts stops) (more'.stops_disjuncts stops') stops stops' same).imp_left
          (congrArg _)
  | conjunction _ more first others =>
    cases derived' with
    | conjunction first' more' =>
      exact Sole.followed .conjuncts @first @others first' more' (more.stops_conjuncts stops)
        (more'.stops_conjuncts stops') stops stops' same
  | lastConjunct =>
    cases derived' with
    | lastConjunct => exact ⟨rfl, rfl, rfl⟩
    | nextConjunct =>
      subst same
      simp at stops
  | nextConjunct _ more next others =>
    cases derived' with
    | lastConjunct =>
      obtain rfl : _ = rest' := same
      simp at stops'
    | nextConjunct next' more' =>
      have same := (List.cons.inj same).2
      exact (Sole.followed (fun right => .conjuncts (.and _ right)) @next @others next' more'
        (more.stops_conjuncts stops) (more'.stops_conjuncts stops') stops stops' same).imp_left
          (congrArg _)
  | negation _ operand =>
    cases derived' with
    | negation operand' =>
      obtain ⟨rfl, rfl, rfl⟩ := operand operand' stops stops' (List.cons.inj same).2
      exact ⟨rfl, rfl, rfl⟩
    | unnegated whole' =>
      obtain ⟨first, more, rfl, different⟩ := whole'.head_ne_bang (.inl rfl)
      exact absurd (List.cons.inj same).1.symm different
  | unnegated derived whole =>
    cases derived' with
    | negation =>
      obtain ⟨first, more, rfl, different⟩ := derived.head_ne_bang (.inl rfl)
      exact absurd (List.cons.inj same).1 different
    | unnegated whole' => exact whole whole' stops stops' same
  | comparison kind _ _ left right =>
    rw [List.append_assoc] at same
    cases derived' with
    | comparison kind' left' right' =>
      rw [List.append_assoc] at same
      obtain ⟨rfl, rfl, rfl⟩ := left left' (by simp) (by simp) same
      simp only [List.append_cancel_left_eq, List.cons_append, List.cons.injEq,
        Token.comparison.injEq] at same
      obtain ⟨rfl, same⟩ := same
      obtain ⟨rfl, rfl, rfl⟩ :=
        right right' (stops.tighter (by decide)) (stops'.tighter (by decide)) same
      exact ⟨rfl, rfl, rfl⟩
    | uncompared left' =>
      obtain ⟨rfl, rfl, rfl⟩ := left left' (by simp) (stops'.tighter (by decide)) same
      obtain rfl := List.append_cancel_left same
      simp at stops'
  | uncompared _ left =>
    cases derived' with
    | comparison kind' left' right' =>
      rw [List.append_assoc] at same
      obtain ⟨rfl, rfl, rfl⟩ := left left' (stops.tighter (by decide)) (by simp) same
      obtain rfl := List.append_cancel_left same
      simp at stops
    | uncompared left' =>
      exact left left' (stops.tighter (by decide)) (stops'.tighter (by decide)) same
  | term _ more first others =>
    cases derived' with
    | term first' more' =>
      exact Sole.followed .members @first @others first' more' (more.stops_members stops)
        (more'.stops_members stops') stops stops' same
  | lastMember =>
    cases derived' with
    | lastMember => exact ⟨rfl, rfl, rfl⟩
    | length | test =>
      subst same
      simp at stops
  | length _ others =>
    cases derived' with
    | lastMember =>
      obtain rfl : _ = rest' := same
      simp at stops'
    | length more' =>
      obtain ⟨rfl, rfl, rfl⟩ := others more' stops stops' (by simpa using same)
      exact ⟨rfl, rfl, rfl⟩
    | test spelled =>
      simp only [List.cons_append, List.cons.injEq, Token.identifier.injEq] at same
      rw [← same.2.1] at spelled
      exact absurd spelled (TextTest.length_not_spelling _)
  | test spelled _ _ inner others =>
    cases derived' with
    | lastMember =>
      obtain rfl : _ = rest' := same
      simp at stops'
    | length =>
      simp only [List.cons_append, List.cons.injEq, Token.identifier.injEq] at same
      rw [same.2.1] at spelled
      exact absurd spelled (TextTest.length_not_spelling _)
    | test spelled' inner' more' =>
      simp only [List.cons_append, List.append_assoc, List.cons.injEq, Token.identifier.injEq,
        true_and] at same
      obtain ⟨rfl, same⟩ := same
      obtain rfl := TextTest.eq_of_spelling spelled spelled'
      obtain ⟨rfl, rfl, rfl⟩ := inner inner' (by simp) (by simp) same
      obtain ⟨rfl, rfl, rfl⟩ :=
        others more' stops stops' (List.cons.inj (List.append_cancel_left same)).2
      exact ⟨rfl, rfl, rfl⟩
  | atom atom =>
    cases derived' with
    | atom atom' =>
      obtain ⟨rfl, rfl⟩ := atom.unique atom' same
      exact ⟨rfl, rfl, rfl⟩
    | parenthesized => cases atom <;> simp at same
  | parenthesized _ inner =>
    cases derived' with
    | atom atom' => cases atom' <;> simp at same
    | parenthesized inner' =>
      simp only [List.cons_append, List.append_assoc, List.cons.injEq, true_and] at same
      obtain ⟨rfl, rfl, rfl⟩ := inner inner' (by simp) (by simp) same
      exact ⟨rfl, rfl, rfl⟩

end BotHost.Condition
