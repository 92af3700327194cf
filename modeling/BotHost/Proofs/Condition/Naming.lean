/-
Names among the tokens.

The rule for the names of variables and the reader of tokens each have their own test for the
characters of a name. Both accept the same texts: no character that may begin a name is blank, a digit
or a mark, so the tests that the reader makes first never take a name away from it.

A name that stands alone is one token wherever it stands. The text before it is read as it is without
the name behind it, since no token that ends there could go on with a character that begins a name.
-/

import BotHost.Proofs.Condition.Lexing

namespace BotHost.Condition

variable {text rest more : List Char} {tokens : List Token} {name : String}

/-! ### Names are identifiers -/

/-- The text is written like a name. Reserved names are names too. -/
def IsName (text : List Char) : Prop :=
  ∃ first body, text = first :: body ∧ beginsName first = true ∧
    ∀ character ∈ body, continuesName character = true

/-- A variable may be called by every name that is not reserved. -/
theorem isVariableName_iff_isName :
    isVariableName name = true ↔ IsName name.toList ∧ name ∉ reservedNames := by
  unfold isVariableName
  cases name.toList with
  | nil => simp [IsName]
  | cons first body => simp [IsName, and_assoc]

/-- A name is read as itself where no name goes on. -/
theorem lexes_name (named : IsName name.toList)
    (stops : ∀ character ∈ rest.head?, continuesName character = false) :
    Lexes name.toList [.identifier name] rest := by
  obtain ⟨first, body, written, begins, continues⟩ := named
  have same : String.ofList (first :: body) = name := by rw [← written, String.ofList_toList]
  rw [written, ← same]
  exact lexes_identifier begins continues stops

/-- An identifier carries a name. -/
def Token.CarriesName : Token → Prop
  | .identifier name => IsName name.toList
  | _ => True

/-- What is read as an identifier is a name. -/
theorem carriesName_of_readToken {first : Char} {remaining : List Char} {token : Token}
    (read : readToken first rest = .ok (token, remaining)) : token.CarriesName := by
  revert read
  unfold readToken
  dsimp only
  repeat' refine @iteInduction _ _ _ (fun result => result = Except.ok (token, remaining) →
    token.CarriesName) _ _ (fun _ => ?_) fun _ => ?_
  all_goals try split
  all_goals intro read
  all_goals cases read
  all_goals try exact True.intro
  rename_i begins
  exact ⟨first, _, String.toList_ofList, begins, fun character among =>
    List.all_eq_true.mp List.all_takeWhile character among⟩

/-- A text is one identifier that carries the whole text exactly if it is written like a name. -/
theorem tokenize_eq_identifier_iff : tokenize name = .ok [.identifier name] ↔ IsName name.toList := by
  constructor
  · intro lexed
    exact forall_of_readTokens carriesName_of_readToken (tokenize_eq_ok_iff.mp lexed) _ (.head _)
  · intro named
    have lexes : Lexes name.toList [.identifier name] [] := lexes_name named nofun
    exact lexes.tokenize_eq

/-! ### What is left behind a token -/

theorem skipEquals_suffix (text : List Char) : skipEquals text <:+ text := by
  unfold skipEquals
  split
  · exact List.suffix_cons _ _
  · exact List.suffix_rfl

theorem readString?_suffix {quote : Char} {value : List Char}
    (read : readString? quote text = some (value, rest)) : rest <:+ text := by
  fun_induction readString? quote text generalizing value rest with
  | case1 | case2 => cases read
  | case3 escaped tail inductionHypothesis =>
    obtain ⟨⟨inner, remaining⟩, found, same⟩ := Option.map_eq_some_iff.mp read
    cases same
    exact (inductionHypothesis found).trans
      ((List.suffix_cons _ _).trans (List.suffix_cons _ _))
  | case4 =>
    cases read
    exact List.suffix_cons _ _
  | case5 character tail _ _ _ inductionHypothesis =>
    obtain ⟨⟨inner, remaining⟩, found, same⟩ := Option.map_eq_some_iff.mp read
    cases same
    exact (inductionHypothesis found).trans (List.suffix_cons _ _)

/-- What is left behind a token is an end of the text. -/
theorem readToken_suffix {first : Char} {remaining : List Char} {token : Token}
    (read : readToken first rest = .ok (token, remaining)) : remaining <:+ rest := by
  revert read
  unfold readToken
  dsimp only
  repeat' refine @iteInduction _ _ _ (fun result => result = Except.ok (token, remaining) →
    remaining <:+ rest) _ _ (fun _ => ?_) fun _ => ?_
  all_goals try split
  all_goals
    intro read
    cases read
  all_goals
    first
    | exact List.suffix_rfl
    | exact List.suffix_cons _ _
    | exact List.dropWhile_suffix _
    | exact (skipEquals_suffix _).trans (List.suffix_cons _ _)
    | (rename_i found; exact readString?_suffix found)

/-! ### What stands before a name -/

/-- The text does not end like a name. -/
def EndsApart (text : List Char) : Prop :=
  ∀ character ∈ text.getLast?, continuesName character = false

instance (text : List Char) : Decidable (EndsApart text) :=
  decidable_of_iff (text.getLast?.all fun character => !continuesName character) (by
    simp [EndsApart, Option.all_eq_true])

/-- The end of a text that does not end like a name does not either. -/
theorem EndsApart.of_suffix (apart : EndsApart text) (suffix : rest <:+ text) : EndsApart rest := by
  obtain ⟨before, rfl⟩ := suffix
  intro character last
  refine apart character ?_
  rw [List.getLast?_append, last]
  rfl

/-- A character that escapes nothing is the closing quote, or stands for itself. -/
theorem readString?_cons {quote character : Char} (plain : character ≠ '\\') :
    readString? quote (character :: text) =
      if character = quote then some ([], text)
      else (readString? quote text).map fun (value, rest) => (character :: value, rest) := by
  rw [readString?]
  · exact fun same _ => plain same
  · exact fun _ _ same _ => plain same

theorem ne_backslash_of_unescaped {character : Char}
    (alone : character = '\\' → text = [] → False)
    (escaping : ∀ escaped tail, character = '\\' → text = escaped :: tail → False) :
    character ≠ '\\' := by
  intro backslash
  cases text with
  | nil => exact alone backslash rfl
  | cons escaped tail => exact escaping escaped tail backslash rfl

/-- A string that is closed is read the same with more behind it. -/
theorem readString?_append {quote : Char} {value : List Char} (more : List Char)
    (read : readString? quote text = some (value, rest)) :
    readString? quote (text ++ more) = some (value, rest ++ more) := by
  fun_induction readString? quote text generalizing value rest with
  | case1 | case2 => cases read
  | case3 escaped tail inductionHypothesis =>
    obtain ⟨⟨inner, remaining⟩, found, same⟩ := Option.map_eq_some_iff.mp read
    cases same
    rw [List.cons_append, List.cons_append, readString?, inductionHypothesis found]
    rfl
  | case4 tail alone escaping =>
    cases read
    rw [List.cons_append, readString?_cons (ne_backslash_of_unescaped alone escaping), if_pos rfl]
  | case5 character tail alone escaping different inductionHypothesis =>
    obtain ⟨⟨inner, remaining⟩, found, same⟩ := Option.map_eq_some_iff.mp read
    cases same
    rw [List.cons_append, readString?_cons (ne_backslash_of_unescaped alone escaping),
      if_neg different, inductionHypothesis found]
    rfl

/-- What is read from a text goes on to be read when more follows, and more is left then. -/
def Extends (more : List Char) (result longer : Except TokenFault (Token × List Char)) : Prop :=
  ∀ token remaining, result = .ok (token, remaining) → longer = .ok (token, remaining ++ more)

section Extends

variable {result result' longer longer' : Except TokenFault (Token × List Char)}

theorem extends_ok {token : Token} {remaining : List Char} :
    Extends more (.ok (token, remaining)) (.ok (token, remaining ++ more)) := by
  intro token' remaining' same
  cases same
  rfl

theorem extends_error {fault : TokenFault} : Extends more (.error fault) longer := nofun

theorem extends_ite {condition : Prop} [Decidable condition]
    (holds : condition → Extends more result longer)
    (fails : ¬condition → Extends more result' longer') :
    Extends more (if condition then result else result') (if condition then longer else longer') := by
  split
  · exact holds ‹_›
  · exact fails ‹_›

end Extends

/-- A comparison goes on to be read with more behind it, unless that begins with an equals sign. -/
theorem extends_skipEquals {next : Char} {token : Token} (other : next ≠ '=') :
    Extends (next :: more) (.ok (token, skipEquals text))
      (.ok (token, skipEquals (text ++ next :: more))) := by
  have skipped : skipEquals (text ++ next :: more) = skipEquals text ++ next :: more := by
    cases text with
    | nil => simp [skipEquals, other]
    | cons first text => by_cases same : first = '=' <;> simp [skipEquals, same]
  rw [skipped]
  exact extends_ok

/-- A string goes on to be read with more behind it. -/
theorem extends_string {quote : Char} :
    Extends more
      (match readString? quote text with
      | some (value, rest) => .ok (.string (String.ofList value), rest)
      | none => .error .unterminatedString)
      (match readString? quote (text ++ more) with
      | some (value, rest) => .ok (.string (String.ofList value), rest)
      | none => .error .unterminatedString) := by
  cases found : readString? quote text with
  | none => exact extends_error
  | some read =>
    rw [readString?_append _ found]
    exact extends_ok

theorem extends_name {first : Char} (apart : EndsApart (first :: text))
    (begins : beginsName first = true) :
    Extends more
      (.ok (.identifier (String.ofList (first :: text.takeWhile continuesName)),
        text.dropWhile continuesName))
      (.ok (.identifier (String.ofList (first :: (text ++ more).takeWhile continuesName)),
        (text ++ more).dropWhile continuesName)) := by
  have left : text.dropWhile continuesName ≠ [] := by
    intro nothing
    have whole := @List.takeWhile_append_dropWhile _ continuesName text
    rw [nothing, List.append_nil] at whole
    have all : ∀ character ∈ text, continuesName character = true := fun character among =>
      List.all_eq_true.mp List.all_takeWhile character (whole.symm ▸ among)
    have continues : ∀ character ∈ first :: text, continuesName character = true :=
      List.forall_mem_cons.mpr ⟨continuesName_of_beginsName begins, all⟩
    have last := List.getLast?_eq_some_getLast (List.cons_ne_nil first text)
    have refused := apart _ last
    rw [continues _ (List.getLast_mem _)] at refused
    cases refused
  obtain ⟨takes, drops⟩ := Text.takeWhile_append_of_left left
  rw [takes, drops]
  exact extends_ok

/-- A token is read as it is without the name behind it: none can go on with the name. Where a token may have
a second character, the name is no such character, and if there is another one it decides alone. -/
theorem readToken_append {first next : Char} (apart : EndsApart (first :: text))
    (begins : beginsName next = true) :
    Extends (next :: more) (readToken first text) (readToken first (text ++ next :: more)) := by
  obtain ⟨unmarked, -, noDigit⟩ := plain_of_beginsName begins
  simp only [marks, List.mem_cons, List.not_mem_nil, or_false, not_or] at unmarked
  obtain ⟨-, -, -, -, notEquals, -, -, notAnd, notOr, -, -⟩ := unmarked
  obtain ⟨takes, drops⟩ := @Text.takeWhile_append_of_stops (next :: more) Char.isDigit text
    (by simpa using noDigit)
  unfold readToken
  dsimp only
  rw [takes, drops]
  repeat' refine extends_ite (fun _ => ?_) fun _ => ?_
  all_goals try first
    | exact extends_ok
    | exact extends_error
    | exact extends_string
  rotate_right
  · exact extends_name apart ‹_›
  all_goals
    cases text with
    | nil =>
      simp only [List.nil_append]
      first
      | exact extends_error
      | (split
         · exact absurd (List.cons.inj ‹_›).1 ‹_›
         · exact extends_ok)
    | cons second text =>
      rw [List.cons_append]
      split
      · rename_i same
        cases same
        first
        | exact extends_ok
        | exact extends_skipEquals notEquals
      · split
        · exact absurd (List.cons.inj ‹_›).1 (by simp_all)
        · first | exact extends_error | exact extends_ok

/-! ### Names that stand alone -/

/-- What stands before a name is read as it is by itself. By induction over its tokens: whatever is left
of it ends as it does. -/
theorem lexes_before {first : Char} (read : readTokens text = .ok tokens) (apart : EndsApart text)
    (begins : beginsName first = true) : Lexes text tokens (first :: rest) := by
  intro more readRest
  fun_induction readTokens text generalizing tokens with
  | case1 =>
    cases read
    exact readRest
  | case2 blank text isBlank inductionHypothesis =>
    rw [List.cons_append]
    unfold readTokens
    rw [if_pos isBlank]
    exact inductionHypothesis read (apart.of_suffix (List.suffix_cons _ _))
  | case3 => cases read
  | case4 => cases read
  | case5 initial text visible token remaining found others readMore inductionHypothesis =>
    cases read
    have behind := inductionHypothesis readMore
      (apart.of_suffix ((readToken_suffix found).trans (List.suffix_cons _ _)))
    exact readTokens_cons (Bool.eq_false_iff.mpr visible)
      (readToken_append apart begins token remaining found) behind

/-- A name that stands alone is one token between those of the text on its two sides. -/
theorem tokenize_around {front back : String} {before after : List Token}
    (named : IsName name.toList) (lexedFront : tokenize front = .ok before)
    (lexedBack : tokenize back = .ok after) (apart : EndsApart front.toList)
    (stops : ∀ character ∈ back.toList.head?, continuesName character = false) :
    tokenize (front ++ name ++ back) = .ok (before ++ .identifier name :: after) := by
  have lexesFront : Lexes front.toList before (name.toList ++ back.toList) := by
    obtain ⟨first, body, written, begins, -⟩ := named
    rw [written]
    exact lexes_before (tokenize_eq_ok_iff.mp lexedFront) apart begins
  have read := lexesFront.append (lexes_name named stops) _ (tokenize_eq_ok_iff.mp lexedBack)
  rw [List.append_assoc before, List.singleton_append] at read
  exact tokenize_eq_ok_iff.mpr (by rwa [String.toList_append, String.toList_append])

end BotHost.Condition
