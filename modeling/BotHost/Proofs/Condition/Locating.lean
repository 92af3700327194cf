/-
Where reading of tokens breaks off.

The text in front of the place is read by itself, because no token that was read there reached beyond it:
what follows a token does not change it, once it is left. At the place itself nothing can be read, however
much of the text is taken. A fault keeps the text that was left, and the offset is what this text lacks.
-/

import BotHost.Proofs.Condition.Spelling

namespace BotHost.Condition

variable {text rest more : List Char} {token : Token} {tokens : List Token}

/-! ### Cutting off what follows -/

/-- What is read from the longer text is read from the shorter one when it ends there, and what is wrong
with it is wrong with the shorter one. A number that is too large is another matter, since it may be its
last digits that are cut off. -/
def Shortens (more : List Char) (longer result : Except TokenFault (Token × List Char)) : Prop :=
  (∀ token left, longer = .ok (token, left ++ more) → result = .ok (token, left)) ∧
    ∀ fault, longer = .error fault → (∀ digits, fault ≠ .integerOutOfRange digits) →
      result = .error fault

section Shortens

variable {result result' longer longer' : Except TokenFault (Token × List Char)}

theorem shortens_ok (text : List Char) :
    Shortens more (.ok (token, text ++ more)) (.ok (token, text)) := by
  refine ⟨fun token' left same => ?_, nofun⟩
  obtain ⟨rfl, appended⟩ := Prod.mk.inj (Except.ok.inj same)
  obtain rfl := List.append_cancel_right appended
  rfl

theorem shortens_error {fault : TokenFault} : Shortens more (.error fault) (.error fault) :=
  ⟨nofun, fun _ same _ => same⟩

/-- Nothing is said of a token that takes some of what is cut off. -/
theorem shortens_beyond (beyond : rest.length < more.length) :
    Shortens more (.ok (token, rest)) result := by
  refine ⟨fun token' left same => ?_, nofun⟩
  obtain ⟨rfl, rfl⟩ := Prod.mk.inj (Except.ok.inj same)
  rw [List.length_append] at beyond
  omega

theorem shortens_ite {condition : Prop} [Decidable condition]
    (holds : condition → Shortens more longer result)
    (fails : ¬condition → Shortens more longer' result') :
    Shortens more (if condition then longer else longer')
      (if condition then result else result') := by
  split
  · exact holds ‹_›
  · exact fails ‹_›

end Shortens

/-- Equals signs may be cut off behind a comparison. -/
theorem shortens_skipEquals :
    Shortens more (.ok (token, skipEquals (text ++ more))) (.ok (token, skipEquals text)) := by
  cases text with
  | nil =>
    by_cases skips : skipEquals more = more
    · rw [List.nil_append, skips]
      exact shortens_ok []
    · unfold skipEquals at skips ⊢
      split at skips
      · exact shortens_beyond (by simp)
      · exact absurd rfl skips
  | cons first text =>
    by_cases same : first = '='
    · subst same
      exact shortens_ok text
    · have skips (behind : List Char) : skipEquals (first :: behind) = first :: behind := by
        simp [skipEquals, same]
      rw [List.cons_append, skips, skips]
      exact shortens_ok (first :: text)

/-- A string is read the same without what stands behind it. -/
theorem readString?_cut {quote : Char} {value left : List Char} (noBackslash : quote ≠ '\\')
    (read : readString? quote (text ++ more) = some (value, left ++ more)) :
    readString? quote text = some (value, left) := by
  obtain ⟨body, writes, split⟩ := (readString?_eq_some_iff noBackslash).mp read
  rw [← List.cons_append, ← List.append_assoc] at split
  exact (readString?_eq_some_iff noBackslash).mpr ⟨body, writes, List.append_cancel_right split⟩

/-- What stands behind a string may be cut off. -/
theorem shortens_string {quote : Char} (noBackslash : quote ≠ '\\') :
    Shortens more
      (match readString? quote (text ++ more) with
      | some (value, rest) => .ok (.string (String.ofList value), rest)
      | none => .error .unterminatedString)
      (match readString? quote text with
      | some (value, rest) => .ok (.string (String.ofList value), rest)
      | none => .error .unterminatedString) := by
  cases found : readString? quote (text ++ more) with
  | none =>
    cases again : readString? quote text with
    | none => exact shortens_error
    | some read =>
      rw [readString?_append more again] at found
      cases found
  | some read =>
    obtain ⟨value, rest⟩ := read
    refine ⟨fun token left same => ?_, nofun⟩
    obtain ⟨rfl, rfl⟩ := Prod.mk.inj (Except.ok.inj same)
    rw [readString?_cut noBackslash found]

/-- What stands behind digits may be cut off. -/
theorem shortens_digits {first : Char} :
    Shortens more
      (let digits := first :: (text ++ more).takeWhile Char.isDigit
      let value := digitsValue digits
      if value < integerBound then .ok (.integer value, (text ++ more).dropWhile Char.isDigit)
      else .error (.integerOutOfRange (String.ofList digits)))
      (let digits := first :: text.takeWhile Char.isDigit
      let value := digitsValue digits
      if value < integerBound then .ok (.integer value, text.dropWhile Char.isDigit)
      else .error (.integerOutOfRange (String.ofList digits))) := by
  dsimp only
  split
  · refine ⟨fun token left same => ?_, nofun⟩
    obtain ⟨rfl, drops⟩ := Prod.mk.inj (Except.ok.inj same)
    obtain ⟨takes, dropped⟩ := Text.takeWhile_eq_of_dropWhile_append drops
    rw [takes, dropped, if_pos ‹_›]
  · refine ⟨nofun, fun fault same located => ?_⟩
    cases same
    exact absurd rfl (located _)

theorem shortens_name {first : Char} :
    Shortens more
      (.ok (.identifier (String.ofList (first :: (text ++ more).takeWhile continuesName)),
        (text ++ more).dropWhile continuesName))
      (.ok (.identifier (String.ofList (first :: text.takeWhile continuesName)),
        text.dropWhile continuesName)) := by
  refine ⟨fun token left same => ?_, nofun⟩
  obtain ⟨rfl, drops⟩ := Prod.mk.inj (Except.ok.inj same)
  obtain ⟨takes, dropped⟩ := Text.takeWhile_eq_of_dropWhile_append drops
  rw [takes, dropped]

/-- Cutting the rest off shortens a token, at most. A second character that is cut off is a sign that the token
took from what is cut off. -/
theorem readToken_shortens (first : Char) :
    Shortens more (readToken first (text ++ more)) (readToken first text) := by
  unfold readToken
  repeat' refine shortens_ite (fun _ => ?_) fun _ => ?_
  all_goals try first
    | exact shortens_ok _
    | exact shortens_error
    | exact shortens_string (by rename_i quotes; rintro rfl; simp at quotes)
    | exact shortens_digits
    | exact shortens_name
  all_goals
    cases text with
    | nil =>
      simp only [List.nil_append]
      split
      · first
        | exact shortens_beyond (Nat.lt_succ_of_le (skipEquals_length _))
        | exact shortens_beyond (Nat.lt_succ_self _)
      · first
        | exact shortens_ok []
        | exact shortens_error
    | cons second text =>
      rw [List.cons_append]
      split
      · rename_i same
        cases same
        first
        | exact shortens_ok text
        | exact shortens_skipEquals
      · split
        · exact absurd (List.cons.inj ‹_›).1 (by simp_all)
        · first
          | exact shortens_ok (second :: text)
          | exact shortens_error

/-! ### The place of a fault -/

/-- The fault is about this character. -/
def TokenFault.About : TokenFault → Char → Prop
  | .unexpectedCharacter character, shown => character = shown
  | .unterminatedString, shown => shown ∈ quoteMarks
  | .integerOutOfRange _, _ => False

/-- A fault about a character is none about a number that is too large. -/
theorem TokenFault.About.not_range {fault : TokenFault} {character : Char}
    (about : fault.About character) (digits : String) : fault ≠ .integerOutOfRange digits := by
  rintro rfl
  exact about

/-- What is wrong with a token is its first character, or it is a number that is too large. -/
theorem about_of_readToken {first : Char} {fault : TokenFault}
    (failed : readToken first rest = .error fault) :
    fault.About first ∨ ∃ digits, fault = .integerOutOfRange digits := by
  revert failed
  unfold readToken
  dsimp only
  repeat' refine @iteInduction _ _ _ (fun result => result = Except.error fault →
    fault.About first ∨ ∃ digits, fault = .integerOutOfRange digits) _ _ (fun _ => ?_) fun _ => ?_
  all_goals try split
  all_goals
    intro failed
    cases failed
  all_goals first
    | exact .inl rfl
    | exact .inr ⟨_, rfl⟩
    | exact .inl (by simpa [TokenFault.About, quoteMarks])

/-- Where reading breaks off, the text before is read and the character there is not blank. -/
theorem readTokens_eq_error {fault : TokenFault} {unread : List Char}
    (failed : readTokens text = .error (fault, unread)) :
    ∃ before tokens first after, unread = first :: after ∧ text = before ++ first :: after ∧
      readTokens before = .ok tokens ∧ Text.isBlank first = false ∧
        readToken first after = .error fault := by
  fun_induction readTokens text generalizing unread with
  | case1 => cases failed
  | case2 blank text isBlank inductionHypothesis =>
    obtain ⟨before, tokens, first, after, rfl, rfl, read, visible, faulty⟩ :=
      inductionHypothesis failed
    refine ⟨blank :: before, tokens, first, after, rfl, rfl, ?_, visible, faulty⟩
    exact lexes_blank isBlank tokens read
  | case3 first after visible fault' faulty =>
    cases failed
    exact ⟨[], [], first, after, rfl, rfl, by unfold readTokens; rfl,
      Bool.eq_false_iff.mpr visible, faulty⟩
  | case4 initial text visible token remaining found fault' failedMore inductionHypothesis =>
    cases failed
    obtain ⟨before, tokens, first, after, rfl, rfl, read, visibleAfter, faulty⟩ :=
      inductionHypothesis failedMore
    obtain ⟨body, rfl⟩ := readToken_suffix found
    rw [← List.append_assoc] at found
    have alone := (readToken_shortens initial).1 token before found
    exact ⟨initial :: (body ++ before), token :: tokens, first, after, rfl, by simp,
      readTokens_cons (Bool.eq_false_iff.mpr visible) alone read, visibleAfter, faulty⟩
  | case5 => cases failed

/-- Whatever is wrong at a character, it is wrong however little of what follows is taken along. -/
theorem readTokens_of_faulty {first : Char} {fault : TokenFault} {near far : List Char}
    (visible : Text.isBlank first = false) (faulty : readToken first (near ++ far) = .error fault)
    (about : fault.About first) : readTokens (first :: near) = .error (fault, first :: near) := by
  have alone := (readToken_shortens first).2 fault faulty about.not_range
  unfold readTokens
  simp only [visible, Bool.false_eq_true, if_false]
  split
  · rename_i again
    cases again.symm.trans alone
    rfl
  · rename_i again
    cases again.symm.trans alone

/-! ### Offsets -/

theorem byteLength_eq_utf8ByteSize (text : List Char) :
    Text.byteLength text = (String.ofList text).utf8ByteSize := by
  induction text with
  | nil => rfl
  | cons character text inductionHypothesis =>
    rw [String.ofList_cons, String.utf8ByteSize_append, String.utf8ByteSize_singleton,
      ← inductionHypothesis]
    rfl

theorem byteLength_append (text rest : List Char) :
    Text.byteLength (text ++ rest) = Text.byteLength text + Text.byteLength rest := by
  simp only [byteLength_eq_utf8ByteSize, String.ofList_append, String.utf8ByteSize_append]

/-- The text is read up to the character at that offset, in bytes. Nothing is read of what begins there,
wherever it is made to end. -/
def BreaksOff (source : String) (offset : Nat) (character : Char) : Prop :=
  ∃ before after : String, source = before ++ String.singleton character ++ after ∧
    before.utf8ByteSize = offset ∧ (∃ tokens, tokenize before = .ok tokens) ∧
      ∀ near far, after = near ++ far → ∀ tokens,
        tokenize (String.singleton character ++ near) ≠ .ok tokens

/-- A text that is refused for a character is read up to it and no further. -/
theorem breaksOff_of_readTokens {source : String} {fault : TokenFault} {unread : List Char}
    (failed : readTokens source.toList = .error (fault, unread))
    (located : ∀ digits, fault ≠ .integerOutOfRange digits) :
    ∃ character, fault.About character ∧
      BreaksOff source (Text.byteLength source.toList - Text.byteLength unread) character := by
  obtain ⟨before, tokens, first, after, rfl, split, read, visible, faulty⟩ :=
    readTokens_eq_error failed
  have about : fault.About first := (about_of_readToken faulty).resolve_right fun ⟨digits, range⟩ =>
    located digits range
  refine ⟨first, about, String.ofList before, String.ofList after, ?_, ?_, ⟨tokens, ?_⟩, ?_⟩
  · rw [← String.toList_inj]
    simp [split]
  · rw [split, byteLength_append, byteLength_eq_utf8ByteSize, Nat.add_sub_cancel]
  · rw [tokenize_eq_ok_iff, String.toList_ofList]
    exact read
  · rintro near far same tokens lexed
    have parts : after = near.toList ++ far.toList := by
      rw [← String.toList_append, ← same, String.toList_ofList]
    rw [parts] at faulty
    rw [tokenize_eq_ok_iff, String.toList_append, String.toList_singleton, List.singleton_append,
      readTokens_of_faulty visible faulty about] at lexed
    cases lexed

/-- A fault that is reported with an offset points to the first place where no token can be read: to the
character that it names, or to the quote that is never closed. -/
theorem breaks_off_where_reported (source : String) (offset : Nat) :
    (∀ character, tokenize source = .error (.unexpectedCharacter character offset) →
      BreaksOff source offset character) ∧
    (tokenize source = .error (.unterminatedString offset) →
      ∃ quote ∈ quoteMarks, BreaksOff source offset quote) := by
  constructor
  · intro character failed
    unfold tokenize at failed
    split at failed
    · cases failed
    · rename_i read
      split at failed
      · cases failed
        obtain ⟨shown, rfl, breaks⟩ := breaksOff_of_readTokens read nofun
        exact breaks
      · cases failed
      · cases failed
  · intro failed
    unfold tokenize at failed
    split at failed
    · cases failed
    · rename_i read
      split at failed
      · cases failed
      · cases failed
        exact breaksOff_of_readTokens read nofun
      · cases failed

theorem eq_error_of_fault {Cause Value : Type} {outcome : Except Cause Value} {cause : Cause}
    (same : (match outcome with | .ok _ => none | .error fault => some fault) = some cause) :
    outcome = .error cause := by
  cases outcome with
  | ok => cases same
  | error => cases same; rfl

theorem breaks_off_where_reported_behindString :
    tokenize "'ü' & x" = .error (.unexpectedCharacter '&' 5) ∧ BreaksOff "'ü' & x" 5 '&' ∧
      tokenize "('ü\\'" = .error (.unterminatedString 1) ∧
        ∃ quote ∈ quoteMarks, BreaksOff "('ü\\'" 1 quote :=
  have unexpected : tokenize "'ü' & x" = .error (.unexpectedCharacter '&' 5) :=
    eq_error_of_fault (by decide +kernel)
  have unterminated : tokenize "('ü\\'" = .error (.unterminatedString 1) :=
    eq_error_of_fault (by decide +kernel)
  ⟨unexpected, (breaks_off_where_reported _ _).1 _ unexpected, unterminated,
    (breaks_off_where_reported _ _).2 unterminated⟩

end BotHost.Condition
