/-
What a trigger fires on.

A trigger is matched character by character, each against one character of the text that folds to the
same. So whether it fires can be read off the foldings of the two alone: the folded trigger stands in
the folded text. Everything else about triggers comes from that. No character of one has a meaning of
its own, characters may be exchanged for others with the same folding, and more text around never
hurts.
-/

import BotHost.Proofs.Handler.Making
import BotHost.Proofs.Json.Numbers

namespace BotHost

namespace Text

/-- The two characters have the same simple case folding. -/
def Alike (first second : Char) : Prop := foldCase first = foldCase second

instance (first second : Char) : Decidable (Alike first second) :=
  inferInstanceAs (Decidable (foldCase first = foldCase second))

variable {pattern text other : List Char}

/-- Texts are alike character by character exactly when they fold to the same. -/
theorem forall₂_alike_iff :
    List.Forall₂ Alike text other ↔ text.map foldCase = other.map foldCase := by
  rw [← List.forall₂_eq_eq_eq, List.forall₂_map_left_iff, List.forall₂_map_right_iff]
  rfl

/-- A pattern occurs where the text has a part that is alike. -/
theorem occursFolded_iff_alike :
    OccursFolded pattern text ↔ ∃ before middle after, text = before ++ middle ++ after ∧
      List.Forall₂ Alike pattern middle := by
  simp only [OccursFolded, forall₂_alike_iff, eq_comm (a := pattern.map foldCase)]

/-- A pattern occurs exactly when its folded form stands in the folded text. -/
theorem occursFolded_iff_map :
    OccursFolded pattern text ↔ pattern.map foldCase <:+: text.map foldCase := by
  constructor
  · rintro ⟨before, middle, after, rfl, folded⟩
    rw [List.map_append, List.map_append, folded]
    exact List.infix_append ..
  · rintro ⟨before, after, split⟩
    obtain ⟨start, after, rfl, split, -⟩ := List.map_eq_append_iff.mp split.symm
    obtain ⟨before, middle, rfl, -, folded⟩ := List.map_eq_append_iff.mp split
    exact ⟨before, middle, after, rfl, folded⟩

/-- Whether a pattern stands in a text does not change with the case of either. -/
theorem occursFolded_congr {pattern' : List Char} (patterns : List.Forall₂ Alike pattern pattern')
    (texts : List.Forall₂ Alike text other) :
    OccursFolded pattern text ↔ OccursFolded pattern' other := by
  rw [occursFolded_iff_map, occursFolded_iff_map, forall₂_alike_iff.mp patterns,
    forall₂_alike_iff.mp texts]

/-- What occurs in a text occurs in every text around it. -/
theorem OccursFolded.surround (occurs : OccursFolded pattern text) (before after : List Char) :
    OccursFolded pattern (before ++ text ++ after) := by
  rw [occursFolded_iff_map] at occurs ⊢
  rw [List.map_append, List.map_append]
  exact occurs.trans (List.infix_append ..)

/-- In a text that is no longer than it a pattern stands only as the whole text. -/
theorem occursFolded_iff_of_length_le (short : text.length ≤ pattern.length) :
    OccursFolded pattern text ↔ List.Forall₂ Alike pattern text := by
  rw [occursFolded_iff_map, forall₂_alike_iff]
  constructor
  · exact fun among => among.eq_of_length_le (by simpa using short)
  · exact fun folded => folded ▸ List.infix_rfl

end Text

/-! ### Triggers of blocks -/

theorem Block.filled_of_text? {block : Block} {key value : String} (found : block.text? key = some value) :
    value ≠ "" := by
  unfold Block.text? at found
  split at found
  next text there =>
    split at found
    · cases found
    · cases found
      rwa [String.isEmpty_iff] at *
  next number there =>
    cases found
    exact number.write_ne_empty
  next flag there =>
    cases found
    cases flag <;> decide
  next => cases found

namespace Compilation

/-- The handler was made of a block that reacts to text and has this trigger. -/
def TriggeredBy [PatternEngine] (trigger : String) (handler : Handler) : Prop :=
  ∃ scope block, ReactsToText block ∧ block.text? "trigger" = some trigger ∧
    handler? scope block = .ok (some handler)

section Rule

variable [PatternEngine]

theorem ofTrigger_eq_ok {trigger : String} {matcher : Matcher}
    (accepted : Matcher.ofTrigger trigger = .ok matcher) : matcher = .trigger trigger := by
  unfold Matcher.ofTrigger at accepted
  split at accepted <;> cases accepted
  rfl

variable {trigger : String} {handler : Handler}

theorem TriggeredBy.filled (triggered : TriggeredBy trigger handler) : trigger ≠ "" := by
  obtain ⟨scope, block, -, set, -⟩ := triggered
  exact block.filled_of_text? set

theorem TriggeredBy.matcher_eq (triggered : TriggeredBy trigger handler) :
    handler.matcher = .trigger trigger := by
  obtain ⟨scope, block, reacts, set, compiled⟩ := triggered
  have ruled := (makes_of_handler? compiled).ruled_of_reactsToText reacts
  rw [textRule, set] at ruled
  exact ofTrigger_eq_ok (mapError_eq_ok.mp ruled)

/-- A triggered handler accepts the events whose text its trigger occurs in. -/
theorem TriggeredBy.accepts_iff (triggered : TriggeredBy trigger handler) (event : Event) :
    handler.matcher.accepts event = true ↔ Hears (Text.OccursFolded trigger.toList) event := by
  rw [triggered.matcher_eq]
  exact Matcher.accepts_trigger trigger event

/-- What a trigger that the engine takes fires on: the messages in whose text it stands literally,
once case is ignored. Its characters stand for themselves, so that a text no longer than the trigger
is only accepted if it is the trigger, character by character; a trigger and a text that differ from
these in case only do the same; and a text that is accepted is accepted with anything around it. -/
theorem fires_literally (triggered : TriggeredBy trigger handler) :
    trigger ≠ "" ∧
      (∀ event, handler.matcher.accepts event = true ↔
        Hears (fun text => ∃ before middle after, text = before ++ middle ++ after ∧
          List.Forall₂ Text.Alike trigger.toList middle) event) ∧
      (∀ chat id text, text.length ≤ trigger.length →
        (handler.matcher.accepts (.message ⟨chat, id, some text⟩) = true ↔
          List.Forall₂ Text.Alike trigger.toList text.toList)) ∧
      (∀ other handler', TriggeredBy other handler' →
        List.Forall₂ Text.Alike trigger.toList other.toList →
          ∀ chat id text text', List.Forall₂ Text.Alike text.toList text'.toList →
            (handler.matcher.accepts (.message ⟨chat, id, some text⟩) = true ↔
              handler'.matcher.accepts (.message ⟨chat, id, some text'⟩) = true)) ∧
      ∀ chat id before text after,
        handler.matcher.accepts (.message ⟨chat, id, some text⟩) = true →
          handler.matcher.accepts (.message ⟨chat, id, some (before ++ text ++ after)⟩) = true := by
  refine ⟨triggered.filled, fun event => ?_, fun chat id text short => ?_,
    fun other handler' triggered' patterns chat id text text' texts => ?_,
    fun chat id before text after accepts => ?_⟩
  · have literal : Text.OccursFolded trigger.toList = _ :=
      funext fun text => propext Text.occursFolded_iff_alike
    rw [triggered.accepts_iff, literal]
  · exact (triggered.accepts_iff _).trans (Text.occursFolded_iff_of_length_le short)
  · rw [triggered.accepts_iff, triggered'.accepts_iff]
    exact Text.occursFolded_congr patterns texts
  · rw [triggered.accepts_iff] at accepts ⊢
    show Text.OccursFolded trigger.toList (before ++ text ++ after).toList
    rw [String.toList_append, String.toList_append]
    exact Text.OccursFolded.surround accepts before.toList after.toList

end Rule

/-! ### A trigger with a question mark -/

attribute [local instance] PatternEngine.unlimited

/-- The question mark of a trigger is a question mark; its `k` is a Kelvin sign as well. -/
theorem fires_literally_questionMark :
    TriggeredBy "ok?" ⟨.trigger, some "poll", .trigger "ok?", .sendText defaultMessageResponse⟩ ∧
      Matcher.accepts (.trigger "ok?") (.ofText 1 "all O\u212a?!") = true ∧
      ¬Matcher.accepts (.trigger "ok?") (.ofText 1 "o") = true := by
  have triggered : TriggeredBy "ok?"
      ⟨.trigger, some "poll", .trigger "ok?", .sendText defaultMessageResponse⟩ :=
    ⟨.empty, ⟨"poll", .message, [("trigger", .text "ok?")]⟩, .inl rfl, by decide +kernel,
      by decide +kernel⟩
  obtain ⟨-, fires, short, -⟩ := fires_literally triggered
  refine ⟨triggered, (fires _).mpr ⟨"all ".toList, "O\u212a?".toList, "!".toList, ?_, ?_⟩, ?_⟩
  · decide +kernel
  · decide +kernel
  · rw [Event.ofText, short 1 none "o" (by decide)]
    decide +kernel

end Compilation

end BotHost
