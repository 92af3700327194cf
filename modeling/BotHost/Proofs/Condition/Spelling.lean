/-
Texts that spell tokens.

Most tokens can be spelled in more ways than one: a number has any number of zeros in front, a string
one of two quotes and a choice of escapes, and equality two or three signs. Each of them is read back,
because what stands behind it is a blank or nothing. Names, numbers and signs go on as long as they can,
and no blank continues any of them; a string is over at the first quote that is not escaped.
-/

import BotHost.Proofs.Condition.Naming

namespace BotHost.Condition

variable {text rest : List Char} {token : Token} {tokens : List Token}

/-! ### The ways of spelling -/

/-- The quotes that strings are written between. -/
def quoteMarks : List Char := ['"', '\'']

/-- What may stand for the characters of a string between two of the quotes. -/
inductive Writes (quote : Char) : List Char → List Char → Prop
  | nil : Writes quote [] []
  | itself {character : Char} {value text : List Char} (noQuote : character ≠ quote)
      (noBackslash : character ≠ '\\') (more : Writes quote value text) :
    Writes quote (character :: value) (character :: text)
  | escaped {character : Char} {value text : List Char} (noLineFeed : character ≠ 'n')
      (noTab : character ≠ 't') (more : Writes quote value text) :
    Writes quote (character :: value) ('\\' :: character :: text)
  | lineFeed {value text : List Char} (more : Writes quote value text) :
    Writes quote ('\n' :: value) ('\\' :: 'n' :: text)
  | tab {value text : List Char} (more : Writes quote value text) :
    Writes quote ('\t' :: value) ('\\' :: 't' :: text)

/-- The spellings of the tokens that are made of signs. -/
def Token.signs : Token → List (List Char)
  | .openParenthesis => [['(']]
  | .closeParenthesis => [[')']]
  | .dot => [['.']]
  | .bang => [['!']]
  | .and => [['&', '&']]
  | .or => [['|', '|']]
  | .comparison .equal => [['=', '='], ['=', '=', '=']]
  | .comparison .unequal => [['!', '='], ['!', '=', '=']]
  | .comparison .less => [['<']]
  | .comparison .atMost => [['<', '=']]
  | .comparison .greater => [['>']]
  | .comparison .atLeast => [['>', '=']]
  | .identifier _ | .integer _ | .string _ => []

/-- The text is one of the spellings of the token. -/
inductive Token.Spells : Token → List Char → Prop
  | identifier {name : String} (named : IsName name.toList) :
    Spells (.identifier name) name.toList
  | integer {value : Nat} (zeros : Nat) (fits : value < integerBound) :
    Spells (.integer value) (List.replicate zeros '0' ++ (toString value).toList)
  | string {value : String} {quote : Char} {text : List Char} (quotes : quote ∈ quoteMarks)
      (writes : Writes quote value.toList text) : Spells (.string value) (quote :: (text ++ [quote]))
  | sign {token : Token} {text : List Char} (among : text ∈ token.signs) : Spells token text

/-- Nothing but blanks. -/
def AllBlank (text : List Char) : Prop :=
  ∀ character ∈ text, Text.isBlank character = true

instance (text : List Char) : Decidable (AllBlank text) :=
  List.decidableBAll (Text.isBlank · = true) text

/-- The text spells the tokens one after another. Between two of them there are blanks, and there may be
some at both ends. -/
inductive Spelled : List Token → List Char → Prop
  | blank {text : List Char} (blank : AllBlank text) : Spelled [] text
  | last {token : Token} {before text after : List Char} (blankBefore : AllBlank before)
      (spells : token.Spells text) (blankAfter : AllBlank after) :
    Spelled [token] (before ++ text ++ after)
  | next {token : Token} {tokens : List Token} {before text gap rest : List Char}
      (blankBefore : AllBlank before) (spells : token.Spells text) (blankBetween : AllBlank gap)
      (apart : gap ≠ []) (more : Spelled tokens rest) :
    Spelled (token :: tokens) (before ++ text ++ (gap ++ rest))

/-! ### What a blank ends -/

/-- The text goes on with a blank, if it goes on at all. -/
def BreaksAtBlank (rest : List Char) : Prop :=
  ∀ character ∈ rest.head?, Text.isBlank character = true

theorem AllBlank.breaks (blank : AllBlank text) : BreaksAtBlank text :=
  fun character head => blank character (List.mem_of_mem_head? head)

theorem AllBlank.breaks_append (blank : AllBlank text) (nonempty : text ≠ []) :
    BreaksAtBlank (text ++ rest) := by
  cases text with
  | nil => exact absurd rfl nonempty
  | cons first text =>
    rintro _ ⟨⟩
    exact blank first (.head _)

/-- The code points of the blank characters. -/
def blankCodes : List Nat :=
  List.range' 0x9 5 ++ List.range' 0x2000 11 ++
    [0x20, 0x85, 0xa0, 0x1680, 0x2028, 0x2029, 0x202f, 0x205f, 0x3000]

theorem toNat_mem_blankCodes {character : Char} (blank : Text.isBlank character = true) :
    character.toNat ∈ blankCodes := by
  simp only [blankCodes, List.mem_append, List.mem_range'_1, List.mem_cons, List.not_mem_nil, or_false]
  simp only [Text.isBlank, Bool.or_eq_true, Bool.and_eq_true, decide_eq_true_eq, beq_iff_eq] at blank
  omega

/-- No name goes on with a blank. -/
theorem continuesName_of_isBlank {character : Char} (blank : Text.isBlank character = true) :
    continuesName character = false := by
  have every : (blankCodes.all fun code => !continuesName (Char.ofNat code)) = true := by
    decide +kernel
  have refused := List.all_eq_true.mp every _ (toNat_mem_blankCodes blank)
  rwa [Char.ofNat_toNat, Bool.not_eq_true'] at refused

/-- A blank or the end of the text delimits every token. -/
theorem BreaksAtBlank.delimits (breaks : BreaksAtBlank rest) : Delimits rest := by
  intro character head
  have blank := breaks character head
  refine ⟨continuesName_of_isBlank blank, Bool.eq_false_iff.mpr fun digit => ?_⟩
  rw [Text.isBlank_of_isDigit digit] at blank
  cases blank

/-! ### Each spelling is read -/

/-- Blanks give no tokens. -/
theorem lexes_blanks (blank : AllBlank text) : Lexes text [] rest := by
  induction text with
  | nil => exact fun _ read => read
  | cons first text inductionHypothesis =>
    obtain ⟨blankFirst, blankMore⟩ := List.forall_mem_cons.mp blank
    exact (lexes_blank blankFirst).append (inductionHypothesis blankMore)

/-- Zeros in front do not change the value of digits. -/
theorem digitsValue_zeros (zeros : Nat) (digits : List Char) :
    digitsValue (List.replicate zeros '0' ++ digits) = digitsValue digits := by
  induction zeros with
  | zero => rfl
  | succ zeros inductionHypothesis => exact inductionHypothesis

/-- Between its quotes a string is read as what is written for it. -/
theorem readString?_writes {quote : Char} {value : List Char} (noBackslash : quote ≠ '\\')
    (writes : Writes quote value text) :
    readString? quote (text ++ quote :: rest) = some (value, rest) := by
  induction writes with
  | nil => rw [List.nil_append, readString?_cons noBackslash, if_pos rfl]
  | itself noQuote noBackslash _ read =>
    rw [List.cons_append, readString?_cons noBackslash, if_neg noQuote, read]
    rfl
  | escaped noLineFeed noTab _ read =>
    rw [List.cons_append, List.cons_append, readString?, read, unescape, if_neg noLineFeed,
      if_neg noTab]
    rfl
  | lineFeed _ read | tab _ read =>
    rw [List.cons_append, List.cons_append, readString?, read]
    rfl

/-- A backslash and any character write what the character stands for behind it. -/
theorem Writes.unescape {quote escaped : Char} {value : List Char} (writes : Writes quote value text) :
    Writes quote (unescape escaped :: value) ('\\' :: escaped :: text) := by
  unfold Condition.unescape
  split
  next same => exact same ▸ .lineFeed writes
  split
  next same => exact same ▸ .tab writes
  next noLineFeed noTab => exact .escaped noLineFeed noTab writes

/-- What is read as a string is what may stand between its quotes. -/
theorem readString?_eq_some_iff {quote : Char} {value : List Char} (noBackslash : quote ≠ '\\') :
    readString? quote text = some (value, rest) ↔
      ∃ body, Writes quote value body ∧ text = body ++ quote :: rest := by
  constructor
  · intro read
    fun_induction readString? quote text generalizing value rest with
    | case1 | case2 => cases read
    | case3 escaped tail inductionHypothesis =>
      obtain ⟨⟨inner, remaining⟩, found, same⟩ := Option.map_eq_some_iff.mp read
      cases same
      obtain ⟨body, writes, rfl⟩ := inductionHypothesis found
      exact ⟨_, writes.unescape, rfl⟩
    | case4 =>
      cases read
      exact ⟨[], .nil, rfl⟩
    | case5 character tail alone escaping different inductionHypothesis =>
      obtain ⟨⟨inner, remaining⟩, found, same⟩ := Option.map_eq_some_iff.mp read
      cases same
      obtain ⟨body, writes, rfl⟩ := inductionHypothesis found
      exact ⟨_, .itself different (ne_backslash_of_unescaped alone escaping) writes, rfl⟩
  · rintro ⟨body, writes, rfl⟩
    exact readString?_writes noBackslash writes

/-- A quote begins a string, which goes to the next quote of its kind. -/
theorem readToken_of_quoteMarks {quote : Char} (quotes : quote ∈ quoteMarks) (after : List Char) :
    quote ≠ '\\' ∧ Text.isBlank quote = false ∧
      readToken quote after =
        match readString? quote after with
        | some (value, rest) => .ok (.string (String.ofList value), rest)
        | none => .error .unterminatedString := by
  simp only [quoteMarks, List.mem_cons, List.not_mem_nil, or_false] at quotes
  rcases quotes with rfl | rfl <;> exact ⟨by decide, by decide, rfl⟩

theorem skipEquals_of_stops (stops : ∀ next ∈ rest.head?, next ≠ '=') : skipEquals rest = rest := by
  unfold skipEquals
  split
  · exact absurd rfl (stops '=' rfl)
  · rfl

/-- Signs are read as far as they go, and behind them no sign goes on that is longer. -/
theorem readToken_sign {first : Char} {body : List Char} (among : first :: body ∈ token.signs)
    (stops : ∀ next ∈ rest.head?, next ≠ '=') :
    readToken first (body ++ rest) = .ok (token, rest) := by
  have skips := congrArg (fun left => (Except.ok (token, left) : Except TokenFault _))
    (skipEquals_of_stops stops)
  cases token with
  | identifier | integer | string => cases among
  | openParenthesis | closeParenthesis | dot | and | or =>
    obtain ⟨rfl, rfl⟩ := List.cons.inj (List.mem_singleton.mp among)
    rfl
  | bang =>
    obtain ⟨rfl, rfl⟩ := List.cons.inj (List.mem_singleton.mp among)
    cases rest with
    | nil => rfl
    | cons next rest => simp [readToken, stops next rfl]
  | comparison kind =>
    cases kind with
    | equal | unequal =>
      rcases List.mem_cons.mp among with two | three
      · obtain ⟨rfl, rfl⟩ := List.cons.inj two
        exact skips
      · obtain ⟨rfl, rfl⟩ := List.cons.inj (List.mem_singleton.mp three)
        rfl
    | less | greater =>
      obtain ⟨rfl, rfl⟩ := List.cons.inj (List.mem_singleton.mp among)
      cases rest with
      | nil => rfl
      | cons next rest => simp [readToken, stops next rfl]
    | atMost | atLeast =>
      obtain ⟨rfl, rfl⟩ := List.cons.inj (List.mem_singleton.mp among)
      rfl

/-- No sign begins with a blank. -/
theorem visible_of_sign (among : text ∈ token.signs) :
    ∃ first body, text = first :: body ∧ Text.isBlank first = false := by
  have every : (token.signs.all fun text => text.head?.any fun first => !Text.isBlank first) = true := by
    cases token with
    | comparison kind => cases kind <;> decide
    | _ => rfl
  have visible := List.all_eq_true.mp every text among
  cases text with
  | nil => cases visible
  | cons first body => exact ⟨first, body, rfl, by simpa using visible⟩

/-- What spells a token is read as that token before a blank or the end. -/
theorem Token.Spells.lexes (spells : token.Spells text) (breaks : BreaksAtBlank rest) :
    Lexes text [token] rest := by
  cases spells with
  | identifier named =>
    exact lexes_name named fun character head => (breaks.delimits character head).1
  | @integer value zeros fits =>
    obtain ⟨nonempty, all⟩ := toString_digits value
    have read : digitsValue (List.replicate zeros '0' ++ (toString value).toList) = value :=
      (digitsValue_zeros zeros _).trans (digitsValue_toString value)
    have lexes := @lexes_digits rest (List.replicate zeros '0' ++ (toString value).toList)
      (List.append_ne_nil_of_right_ne_nil _ nonempty)
      (fun character among => by
        rcases List.mem_append.mp among with zero | digit
        · rw [List.eq_of_mem_replicate zero]
          rfl
        · exact all character digit)
      (by rwa [read]) breaks.delimits
    rwa [read] at lexes
  | @string value quote text quotes writes =>
    obtain ⟨noBackslash, visible, read⟩ := readToken_of_quoteMarks quotes (text ++ quote :: rest)
    rw [readString?_writes noBackslash writes] at read
    refine lexes_token visible ?_
    rw [List.append_assoc, List.singleton_append, read]
    simp only [String.ofList_toList]
  | sign among =>
    obtain ⟨first, body, rfl, visible⟩ := visible_of_sign among
    refine lexes_token visible (readToken_sign among ?_)
    rintro next head rfl
    cases breaks '=' head

/-! ### Whole texts -/

/-- A text that spells tokens is read as them. -/
theorem Spelled.lexes (spelled : Spelled tokens text) : Lexes text tokens [] := by
  induction spelled with
  | blank blank => exact lexes_blanks blank
  | @last token before text after blankBefore spells blankAfter =>
    have reads : Lexes text [token] (after ++ []) :=
      spells.lexes (by simpa using blankAfter.breaks)
    exact ((lexes_blanks blankBefore).append reads).append (lexes_blanks blankAfter)
  | @next token tokens before text gap rest blankBefore spells blankBetween apart _ lexes =>
    have reads : Lexes text [token] (gap ++ rest ++ []) :=
      spells.lexes (by simpa using blankBetween.breaks_append apart)
    exact ((lexes_blanks blankBefore).append reads).append ((lexes_blanks blankBetween).append lexes)

/-! ### Which tokens can be spelled -/

/-- Every string can be written between double quotes. -/
theorem exists_writes (value : List Char) : ∃ text, Writes '"' value text := by
  induction value with
  | nil => exact ⟨[], .nil⟩
  | cons character value inductionHypothesis =>
    obtain ⟨text, more⟩ := inductionHypothesis
    by_cases special : character = '"' ∨ character = '\\'
    · refine ⟨_, .escaped ?_ ?_ more⟩ <;> rcases special with rfl | rfl <;> decide
    · rw [not_or] at special
      exact ⟨_, .itself special.1 special.2 more⟩

/-- A token can be spelled exactly if its number is in the range of the language and its name is one. -/
theorem Token.exists_spells_iff :
    (∃ text, token.Spells text) ↔ token.FitsWord ∧ token.CarriesName := by
  constructor
  · rintro ⟨text, spells⟩
    cases spells with
    | identifier named => exact ⟨trivial, named⟩
    | integer zeros fits => exact ⟨fits, trivial⟩
    | string => exact ⟨trivial, trivial⟩
    | sign among =>
      cases token with
      | identifier | integer => cases among
      | _ => exact ⟨trivial, trivial⟩
  · rintro ⟨fits, carries⟩
    cases token with
    | identifier name => exact ⟨_, .identifier carries⟩
    | integer value => exact ⟨_, .integer 0 fits⟩
    | string value =>
      obtain ⟨text, writes⟩ := exists_writes value.toList
      exact ⟨_, .string (.head _) writes⟩
    | comparison kind => cases kind <;> exact ⟨_, .sign (.head _)⟩
    | _ => exact ⟨_, .sign (.head _)⟩

/-- The sequences of tokens that can be spelled are those of words and names that fit. -/
theorem exists_spelled_iff :
    (∃ text, Spelled tokens text) ↔ ∀ token ∈ tokens, token.FitsWord ∧ token.CarriesName := by
  constructor
  · rintro ⟨text, spelled⟩
    induction spelled with
    | blank => nofun
    | last _ spells _ => simpa using Token.exists_spells_iff.mp ⟨_, spells⟩
    | next _ spells _ _ _ each =>
      exact List.forall_mem_cons.mpr ⟨Token.exists_spells_iff.mp ⟨_, spells⟩, each⟩
  · intro each
    induction tokens with
    | nil => exact ⟨[], .blank nofun⟩
    | cons token tokens inductionHypothesis =>
      obtain ⟨first, others⟩ := List.forall_mem_cons.mp each
      obtain ⟨text, spells⟩ := Token.exists_spells_iff.mpr first
      obtain ⟨rest, more⟩ := inductionHypothesis others
      exact ⟨_, @Spelled.next _ _ [] _ [' '] _ nofun spells (by decide) (by decide) more⟩

/-- However the tokens are spelled, and whatever blanks stand between them and around them, these tokens
are read. All tokens that have a number in range and a proper name can be spelled. -/
theorem tokenize_spelled (tokens : List Token) :
    ((∃ source : String, Spelled tokens source.toList) ↔
      ∀ token ∈ tokens, token.FitsWord ∧ token.CarriesName) ∧
      ∀ source : String, Spelled tokens source.toList → tokenize source = .ok tokens := by
  refine ⟨?_, fun source spelled => spelled.lexes.tokenize_eq⟩
  rw [← exists_spelled_iff]
  constructor
  · rintro ⟨source, spelled⟩
    exact ⟨_, spelled⟩
  · rintro ⟨text, spelled⟩
    exact ⟨String.ofList text, by rwa [String.toList_ofList]⟩

theorem tokenize_spelled_apostrophe :
    Spelled [.string "it's", .comparison .unequal, .integer 7, .identifier "naïve_1"]
      " 'it\\'s'\t!== 007\n\u2003naïve_1".toList ∧
    tokenize " 'it\\'s'\t!== 007\n\u2003naïve_1" =
      .ok [.string "it's", .comparison .unequal, .integer 7, .identifier "naïve_1"] := by
  have writes : Writes '\'' "it's".toList ['i', 't', '\\', '\'', 's'] :=
    .itself (by decide) (by decide) (.itself (by decide) (by decide) (.escaped (by decide) (by decide)
      (.itself (by decide) (by decide) .nil)))
  have named : IsName "naïve_1".toList := (isVariableName_iff_isName.mp (by decide +kernel)).1
  have name : Spelled [_] "naïve_1".toList :=
    @Spelled.last _ [] _ [] nofun (.identifier named) nofun
  have number : Spelled [.integer 7, _] "007\n\u2003naïve_1".toList :=
    @Spelled.next _ _ [] _ ['\n', '\u2003'] _ nofun (.integer 2 (by decide)) (by decide) (by decide)
      name
  have operator : Spelled [.comparison .unequal, _, _] "!== 007\n\u2003naïve_1".toList :=
    @Spelled.next _ _ [] ['!', '=', '='] [' '] _ nofun (.sign (.tail _ (.head _))) (by decide)
      (by decide) number
  have spelled : Spelled [_, _, _, _] " 'it\\'s'\t!== 007\n\u2003naïve_1".toList :=
    @Spelled.next _ _ [' '] _ ['\t'] _ (by decide) (.string (.tail _ (.head _)) writes) (by decide)
      (by decide) operator
  exact ⟨spelled, (tokenize_spelled _).2 _ spelled⟩

end BotHost.Condition
