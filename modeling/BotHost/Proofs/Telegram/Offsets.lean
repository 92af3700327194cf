/-
How far requests for updates get.

A request asks for the updates from its offset on. Every update that is taken moves the offset behind its
own number and never back, in whatever order the numbers of a batch come, so that no later request asks for
it again. Offsets and numbers have 64 bits with a sign, and one number has no other behind it: the greatest.
An update with that number leaves the offset where it is, and is asked for once more. It is the only
exception.
-/

import BotHost.Proofs.Telegram.Retrying

namespace BotHost.Telegram

/-! ### Numbers of 64 bits -/

/-- What 64 bits with a sign can hold. -/
def Signed (number : Int) : Prop :=
  -2 ^ 63 ≤ number ∧ number < 2 ^ 63
deriving Decidable

/-- The number that has no other behind it. -/
def lastNumber : Int := 2 ^ 63 - 1

/-- An update is behind an offset, as far as an offset can tell. -/
def Passed (offset : Int) (update : Update) : Prop :=
  update.id < offset ↔ update.id ≠ lastNumber

/-- A number that is read fits 64 bits with its sign. -/
theorem signed_of_asSigned? {value : Json} {number : Int} (read : value.asSigned? = some number) :
    Signed number := by
  unfold Json.asSigned? Json.asInteger? at read
  split at read
  · split at read
    next within =>
      cases read
      unfold Signed
      omega
    next => cases read
  · cases read

/-- Whatever an update is read from, its number has 64 bits. -/
theorem signed_of_ofJson? {value : Json} {update : Update} (read : Update.ofJson? value = some update) :
    Signed update.id := by
  unfold Update.ofJson? at read
  simp only [Option.bind_eq_bind, Option.bind_eq_some_iff] at read
  obtain ⟨fields, -, read⟩ := read
  split at read
  next number message callback =>
    simp only [Option.bind_eq_some_iff, Option.some.injEq] at read
    obtain ⟨id, idRead, _, -, _, -, rfl⟩ := read
    cases number with
    | none => cases idRead
    | some number => exact signed_of_asSigned? idRead
  next => cases read

/-- The numbers of updates that are read fit 64 bits with their sign. -/
theorem signed_of_updatesOfJson? {value : Json} {updates : List Update}
    (read : updatesOfJson? value = some updates) : ∀ update ∈ updates, Signed update.id := by
  simp only [updatesOfJson?, Json.asListOf?, Option.bind_eq_bind, Option.bind_eq_some_iff] at read
  obtain ⟨items, -, read⟩ := read
  induction items generalizing updates with
  | nil =>
    cases read
    nofun
  | cons item items inductionHypothesis =>
    rw [List.mapM_cons, Option.bind_eq_bind, Option.bind_eq_some_iff] at read
    obtain ⟨first, firstRead, read⟩ := read
    obtain ⟨rest, restRead, same⟩ := Option.bind_eq_some_iff.mp read
    cases same
    exact List.forall_mem_cons.mpr ⟨signed_of_ofJson? firstRead, inductionHypothesis restRead⟩

/-- The numbers of a batch have 64 bits. -/
theorem signed_of_batch {reply : Reply} : ∀ update ∈ reply.batch, Signed update.id := by
  unfold Reply.batch
  split
  next updates told =>
    obtain ⟨part, read⟩ := Reply.decoded_of_granted? (Reply.outcome_eq_ok_iff.mp told)
    exact signed_of_updatesOfJson? read
  next => nofun

theorem signed_successor (number : Int) : Signed (Polling.successor number) := by
  have least := Int.le_bmod (x := number + 1) (m := 0x10000000000000000) (by decide)
  have greatest := Int.bmod_lt (x := number + 1) (m := 0x10000000000000000) (by decide)
  unfold Polling.successor Signed
  omega

/-- Only the greatest number has none behind it. -/
theorem successor_eq_iff {number : Int} (signed : Signed number) :
    Polling.successor number = number + 1 ↔ number ≠ lastNumber := by
  obtain ⟨least, greatest⟩ := signed
  unfold lastNumber
  constructor
  · intro same last
    have bounded := (signed_successor number).2
    omega
  · intro other
    unfold Polling.successor
    rw [Int.bmod_eq_of_le] <;> omega

/-! ### Taking an update -/

namespace Polling

variable {polling : Polling} {update : Update}

theorem offset_le_take (polling : Polling) (update : Update) :
    polling.offset ≤ (polling.take update).offset :=
  Int.le_max_left ..

theorem signed_take (signed : Signed polling.offset) (update : Update) :
    Signed (polling.take update).offset := by
  have next := signed_successor update.id
  unfold Signed at signed next ⊢
  unfold take
  dsimp only
  omega

/-- The offset moves behind an update that is taken, unless nothing is behind that. -/
theorem lt_offset_take (polling : Polling) (signed : Signed update.id) (other : update.id ≠ lastNumber) :
    update.id < (polling.take update).offset := by
  unfold take
  rw [(successor_eq_iff signed).mpr other]
  dsimp only
  omega

end Polling

/-! ### A batch -/

variable {Listener : Type} {start : Int} {updates : List Update}

/-- How far a batch has got since it came, when the offset was `start`: what has been taken of it is
behind the offset, and the rest is being handed over. -/
structure Underway (start : Int) (updates : List Update) (session : Session Listener) : Prop where
  raised : start ≤ session.polling.offset
  signed : Signed session.polling.offset
  halves : ∃ taken rest, updates = taken ++ rest ∧ (rest = [] ∨ session.remaining = rest) ∧
    ∀ update ∈ taken, update.id ≠ lastNumber → update.id < session.polling.offset

/-- A batch that has come is handed over from its beginning. -/
theorem Underway.brought {session : Session Listener} (signed : Signed session.polling.offset)
    (delivering : session.state = .delivering updates) :
    Underway session.polling.offset updates session where
  raised := le_refl _
  signed := signed
  halves := ⟨[], updates, rfl, .inr (by rw [Session.remaining, delivering]), nofun⟩

/-- Whatever comes next, the batch goes on. -/
theorem Underway.progress {session next : Session Listener} {handed : Option (Listener × Event)}
    {brought : List Update} (bounded : ∀ update ∈ updates, Signed update.id)
    (underway : Underway start updates session)
    (progress : Exchange.Progress session next handed brought) : Underway start updates next := by
  obtain ⟨taken, rest, whole, going, behind⟩ := underway.halves
  cases progress with
  | keeps offset remaining =>
    refine ⟨offset ▸ underway.raised, offset ▸ underway.signed, taken, rest, whole, ?_, offset ▸ behind⟩
    rwa [remaining]
  | brings requesting _ _ offset =>
    have done : rest = [] := by
      refine going.elim id fun remaining => ?_
      rw [← remaining, Session.remaining, requesting]
    exact ⟨offset ▸ underway.raised, offset ▸ underway.signed, taken, rest, whole, .inl done,
      offset ▸ behind⟩
  | @takes update others delivering went =>
    subst went
    have higher := session.polling.offset_le_take update
    have kept : ∀ earlier ∈ taken, earlier.id ≠ lastNumber →
        earlier.id < (session.polling.take update).offset :=
      fun earlier member other => (behind earlier member other).trans_le higher
    refine ⟨underway.raised.trans higher, Polling.signed_take underway.signed update, ?_⟩
    rcases going with done | remaining
    · exact ⟨taken, rest, whole, .inl done, kept⟩
    · obtain rfl : update :: others = rest := by
        rw [← remaining, Session.remaining, delivering]
      refine ⟨taken ++ [update], others, by rw [whole, List.append_assoc]; rfl, .inr rfl, ?_⟩
      intro earlier member other
      rcases List.mem_append.mp member with before | last
      · exact kept earlier before other
      · obtain rfl := List.mem_singleton.mp last
        refine Polling.lt_offset_take _ (bounded earlier ?_) other
        rw [whole]
        exact List.mem_append_right _ List.mem_cons_self

/-- No offset is behind the greatest number. -/
theorem passed_of_lt {offset : Int} {update : Update} (signed : Signed offset)
    (behind : update.id ≠ lastNumber → update.id < offset) : Passed offset update := by
  refine ⟨fun below last => ?_, behind⟩
  have bounded := signed.2
  unfold lastNumber at last
  omega

/-- While a request is made nothing of a batch is left. -/
theorem Underway.passed {session : Session Listener} (underway : Underway start updates session)
    (idle : session.remaining = []) : ∀ update ∈ updates, Passed session.polling.offset update := by
  obtain ⟨taken, rest, rfl, going, behind⟩ := underway.halves
  obtain rfl : rest = [] := going.elim id fun remaining => remaining.symm.trans idle
  intro update member
  rw [List.append_nil] at member
  exact passed_of_lt underway.signed (behind update member)

/-- What is left of a batch is being handed over. -/
theorem Session.state_of_remaining {session : Session Listener} {rest : List Update}
    (remaining : session.remaining = rest) : rest = [] ∨ session.state = .delivering rest := by
  unfold Session.remaining at remaining
  split at remaining
  next updates delivering => exact .inr (remaining ▸ delivering)
  next => exact .inl remaining.symm

namespace Conduct

variable {conduct delivering later : Conduct Listener} {reply : Reply}

/-- A batch begins as the updates of the reply that has brought it, and does not move the offset. -/
theorem received_cases (received : conduct.after? (.receive reply) = some delivering)
    (batch : delivering.session.state = .delivering updates) :
    updates = reply.batch ∧ delivering.session.polling.offset = conduct.session.polling.offset := by
  simp only [after?] at received
  split at received <;> cases received
  next requesting =>
    unfold Session.receive at batch ⊢
    rw [requesting] at batch ⊢
    dsimp only at batch ⊢
    split at batch
    next => cases batch
    next going =>
      rw [if_neg going]
      unfold Polling.react Reply.batch at *
      cases told : reply.outcome updatesOfJson? with
      | ok given =>
        rw [told] at batch
        cases batch
        exact ⟨rfl, rfl⟩
      | error fault =>
        rw [told] at batch
        cases fault <;> cases batch

/-- A batch that is being handed over can be handed over to its end, whatever is in it. -/
theorem delivers (updates : List Update) (conduct : Conduct Listener)
    (delivering : conduct.session.state = .delivering updates) :
    ∃ done, Leads after? conduct done ∧ done.session.state = .requesting ∧
      done.session.polling.offset =
        (updates.map fun update => Polling.successor update.id).foldl max conduct.session.polling.offset := by
  induction updates generalizing conduct with
  | nil =>
    refine ⟨{ conduct with session := { conduct.session with state := .requesting } },
      .single ⟨.advance, ?_⟩, rfl, rfl⟩
    simp only [after?, Session.advance, delivering, Option.map_some]
  | cons update rest inductionHypothesis =>
    obtain ⟨done, leads, requesting, offset⟩ := inductionHypothesis
      { conduct with session := { conduct.session with
          polling := conduct.session.polling.take update, state := .delivering rest } } rfl
    refine ⟨done, .head ⟨.advance, ?_⟩ leads, requesting, offset⟩
    simp only [after?, Session.advance, delivering]
    split <;> rfl

/-- From the moment a batch has come, the offset is never lowered and stays within 64 bits. Whatever has
been taken of the batch is behind the offset, and so is the whole batch whenever a request is made, but for
updates with the greatest number: those are the only ones with no number behind their own. -/
theorem batch_passed (signed : Signed conduct.session.polling.offset)
    (received : conduct.after? (.receive reply) = some delivering)
    (batch : delivering.session.state = .delivering updates) :
    (∀ update ∈ updates, Signed update.id ∧
      (Polling.successor update.id = update.id + 1 ↔ update.id ≠ lastNumber)) ∧
    (∃ done, Leads after? delivering done ∧ done.session.state = .requesting ∧
      done.session.polling.offset = (updates.map fun update => Polling.successor update.id).foldl max
        conduct.session.polling.offset) ∧
    ∀ later, Leads after? delivering later →
      conduct.session.polling.offset ≤ later.session.polling.offset ∧
      Signed later.session.polling.offset ∧
      (∃ taken rest, updates = taken ++ rest ∧ (rest = [] ∨ later.session.state = .delivering rest) ∧
        ∀ update ∈ taken, Passed later.session.polling.offset update) ∧
      ∀ request, later.session.request? = some request →
        request = .getUpdates later.session.polling.offset later.session.pollTimeout ∧
          ∀ update ∈ updates, Passed later.session.polling.offset update := by
  obtain ⟨rfl, offset⟩ := received_cases received batch
  have bounded : ∀ update ∈ reply.batch, Signed update.id := signed_of_batch
  rw [← offset] at signed ⊢
  refine ⟨fun update member => ⟨bounded update member, successor_eq_iff (bounded update member)⟩,
    delivers reply.batch delivering batch, fun later leads => ?_⟩
  have underway : Underway delivering.session.polling.offset reply.batch later.session := by
    refine leads.keeps (fun later => Underway _ reply.batch later.session) ?_ (.brought signed batch)
    exact fun underway made => underway.progress bounded (Exchange.progress_of_after made)
  obtain ⟨taken, rest, whole, going, behind⟩ := underway.halves
  refine ⟨underway.raised, underway.signed, ⟨taken, rest, whole, ?_, ?_⟩, fun request asked => ?_⟩
  · exact going.elim .inl Session.state_of_remaining
  · exact fun update member => passed_of_lt underway.signed (behind update member)
  · obtain ⟨requesting, -, same⟩ := Session.request?_eq_some asked
    exact ⟨same, underway.passed (by rw [Session.remaining, requesting])⟩

/-- A session that waits for its first reply, what the reply makes of it, and what it comes to when it
goes on by itself for so many steps. -/
def firstBatch (reply : Reply) (steps : Nat) : Option (Conduct Nat × Conduct Nat × Conduct Nat) := do
  let conduct ← [.listen 1, .advance].foldlM after? (begun Nat)
  let delivering ← conduct.after? (.receive reply)
  let later ← (List.replicate steps .advance).foldlM after? delivering
  some (conduct, delivering, later)

/-- What is played is a reply and then the session's own moves. -/
theorem firstBatch_eq_some {steps : Nat} {conduct delivering later : Conduct Nat}
    (played : firstBatch reply steps = some (conduct, delivering, later)) :
    conduct.after? (.receive reply) = some delivering ∧ Leads after? delivering later := by
  simp only [firstBatch, Option.bind_eq_bind, Option.bind_eq_some_iff, Option.some.injEq,
    Prod.mk.injEq] at played
  obtain ⟨_, -, _, received, _, made, rfl, rfl, rfl⟩ := played
  exact ⟨received, .of_foldlM made⟩

theorem batch_passed_greeting : ∃ (conduct delivering later : Conduct Nat) (updates : List Update),
    Signed conduct.session.polling.offset ∧
      conduct.after? (.receive Exchange.greetingReply) = some delivering ∧
      delivering.session.state = .delivering updates ∧ updates.map Update.id = [3, 5] ∧
      Leads after? delivering later ∧ later.session.request? = some (.getUpdates 6 30) ∧
      ∀ update ∈ updates, Passed later.session.polling.offset update := by
  have played : (firstBatch Exchange.greetingReply 3).map (fun (conduct, delivering, later) =>
      (conduct.session.polling.offset, delivering.session.state, later.session.request?)) =
      some (0, .delivering [⟨3, some (.message ⟨7, some 9, some "hi"⟩)⟩, ⟨5, none⟩],
        some (.getUpdates 6 30)) := by decide +kernel
  simp only [Option.map_eq_some_iff, Prod.mk.injEq] at played
  obtain ⟨⟨conduct, delivering, later⟩, played, offset, batch, asked⟩ := played
  obtain ⟨received, leads⟩ := firstBatch_eq_some played
  have signed : Signed conduct.session.polling.offset := by
    rw [offset]
    decide +kernel
  have passed := ((batch_passed signed received batch).2.2 later leads).2.2.2 _ asked
  exact ⟨conduct, delivering, later, _, signed, received, batch, rfl, leads, asked, passed.2⟩

/-- A reply with an update of the greatest number. -/
def lastReply : Reply :=
  .received 200
    "\x7b\"ok\":true,\"result\":[\x7b\"update_id\":9223372036854775807\x7d]\x7d"

/-- The sum behind the greatest number does not fit, and the update is asked for again. -/
theorem asked_again_lastNumber : ∃ conduct delivering later : Conduct Nat,
    conduct.session.request? = some (.getUpdates 0 30) ∧
      conduct.after? (.receive lastReply) = some delivering ∧
      delivering.session.state = .delivering [⟨lastNumber, none⟩] ∧ Leads after? delivering later ∧
      Polling.successor lastNumber = -2 ^ 63 ∧ ¬lastNumber < later.session.polling.offset ∧
      later.session.request? = some (.getUpdates 0 30) := by
  have played : (firstBatch lastReply 2).map (fun (conduct, delivering, later) =>
      (conduct.session.request?, delivering.session.state, later.session.polling.offset,
        later.session.request?)) =
      some (some (.getUpdates 0 30), .delivering [⟨lastNumber, none⟩], 0,
        some (.getUpdates 0 30)) := by decide +kernel
  simp only [Option.map_eq_some_iff, Prod.mk.injEq] at played
  obtain ⟨⟨conduct, delivering, later⟩, played, asks, batch, offset, asked⟩ := played
  obtain ⟨received, leads⟩ := firstBatch_eq_some played
  refine ⟨conduct, delivering, later, asks, received, batch, leads, by decide +kernel, ?_, asked⟩
  rw [offset]
  decide +kernel

end Conduct

end BotHost.Telegram
