/-
What comes of polling.

The service keeps the news that it has for a bot, and answers a request with some of the news that the
request asks for, beginning with the first. Between two requests the offset stands right behind the last
news received, so the next batch begins where the last one ended, whatever failed in between: taken one
after another, the batches are a beginning of all that the service has had. What is handed over is what
the bot is to react to in the news received, one after another, but for the rest of the last batch.
-/

import BotHost.Proofs.Telegram.Conduct
import BotHost.Proofs.Telegram.News
import Mathlib

namespace BotHost.Telegram

/-! ### Asking, and receiving a reply -/

variable {Listener : Type}

theorem Request.getUpdates_inj {offset other : Int} {seconds time : Nat}
    (same : getUpdates offset seconds = getUpdates other time) : offset = other := by
  simp [getUpdates, Json.ofInt] at same
  exact same.1

/-- A request is made while polling waits for a reply and nobody closes the session. -/
theorem Session.request?_eq_some {session : Session Listener} {request : Request}
    (asked : session.request? = some request) : session.state = .requesting ∧
      session.cancelled = false ∧ request = .getUpdates session.polling.offset session.pollTimeout := by
  unfold Session.request? at asked
  split at asked
  next requesting =>
    split at asked
    next => cases asked
    next going =>
      cases asked
      exact ⟨requesting, by simpa using going, rfl⟩
  next => cases asked

section

variable {session : Session Listener} {reply : Reply} (requesting : session.state = .requesting)
  (going : session.cancelled = false)

include requesting going

/-- Updates that a reply grants are delivered next. -/
theorem Session.receive_of_granted {updates : List Update}
    (granted : reply.granted? updatesOfJson? = some updates) :
    session.receive reply =
      { session with polling := session.polling.reset, state := .delivering updates } := by
  have told := Reply.outcome_eq_ok_iff.mpr granted
  unfold Session.receive Polling.react
  rw [requesting, going, told]
  rfl

/-- After a reply that fails the session waits for its delay. -/
theorem Session.receive_of_fails (fails : reply.fails updatesOfJson? = true) :
    session.receive reply =
      { session with polling := session.polling.fail, state := .pausing session.polling.delay } := by
  unfold Session.receive Polling.react
  rw [requesting, going]
  rcases reply.outcome_cases updatesOfJson? with
    ⟨rejects, -⟩ | ⟨updates, granted, -⟩ | ⟨-, fault, told, other⟩
  · cases rejects.symm.trans (Reply.fails_eq_true_iff.mp fails).1
  · cases granted.symm.trans (Reply.fails_eq_true_iff.mp fails).2
  · rw [told]
    cases fault with
    | unauthorized reason => exact absurd rfl (other reason)
    | unanswered | refused => rfl

theorem Session.receive_of_rejects (rejects : reply.rejects updatesOfJson? = true) :
    session.receive reply = session.endBySelf := by
  obtain ⟨reason, told⟩ := Reply.outcome_eq_unauthorized_iff.mpr rejects
  unfold Session.receive Polling.react Session.endBySelf
  rw [requesting, going, told]
  rfl

end

/-! ### Batches -/

/-- The updates in a reply. -/
def Reply.batch (reply : Reply) : List Update :=
  match reply.outcome updatesOfJson? with
  | .ok updates => updates
  | .error _ => []

/-- A reply that grants nothing has no updates. -/
theorem Reply.batch_of_not_granted {reply : Reply} (granted : reply.granted? updatesOfJson? = none) :
    reply.batch = [] := by
  unfold batch
  split
  next updates told => cases granted.symm.trans (outcome_eq_ok_iff.mp told)
  next => rfl

/-- The updates of the last batch that are still to be handed over. -/
def Session.remaining (session : Session Listener) : List Update :=
  match session.state with
  | .delivering updates => updates
  | _ => []

/-- The updates that a move brings. A session that is being closed does not look at replies. -/
def Conduct.brought (conduct : Conduct Listener) :
    ConductMove Listener → List Update
  | .receive reply => if conduct.session.cancelled then [] else reply.batch
  | _ => []

/-- A session and the service: the news that the service has had, what of it has come to the session in
replies, and the events that the session has handed over, each in the order in which they came. -/
structure Exchange (Listener : Type) where
  conduct : Conduct Listener
  news : List News := []
  received : List News := []
  handed : List (Listener × Event) := []

/-- News that is served is what a session has to hand over next. -/
theorem Conduct.after?_of_carries {conduct : Conduct Listener} {reply : Reply} {batch : List News}
    (requesting : conduct.session.state = .requesting) (going : conduct.session.cancelled = false)
    (carries : reply.Carries batch) :
    conduct.after? (.receive reply) = some { conduct with
      session := { conduct.session with
        polling := conduct.session.polling.reset
        state := .delivering (batch.map News.update) } } := by
  rw [← Session.receive_of_granted requesting going (granted?_of_carries carries)]
  simp only [after?, requesting]

namespace Exchange

/-- The news that a request for that from `offset` on asks for. -/
def pending (exchange : Exchange Listener) (offset : Int) : List News :=
  exchange.news.filter (offset ≤ ·.number)

/-- What can happen while a session is polling. The service gives news ascending numbers that have a
successor in 64 bits, and serves the first of the news that a request asks for, or none of it; meanwhile
more may happen. Replies may be lost, tell of any failure, or come when the session does not ask any
more. -/
inductive Step : Exchange Listener → Exchange Listener → Prop
  | happens {exchange : Exchange Listener} (news : News)
      (bounds : 0 ≤ news.number ∧ news.number < 2 ^ 63 - 1)
      (newest : ∀ earlier ∈ exchange.news, earlier.number < news.number) :
      Step exchange { exchange with news := exchange.news ++ [news] }
  | serves {exchange : Exchange Listener} {offset : Int} {seconds : Nat} {batch : List News}
      {reply : Reply} {conduct : Conduct Listener}
      (asked : exchange.conduct.session.request? = some (.getUpdates offset seconds))
      (first : batch <+: exchange.pending offset) (carries : reply.Carries batch)
      (made : exchange.conduct.after? (.receive reply) = some conduct) :
      Step exchange { exchange with conduct, received := exchange.received ++ batch }
  | fails {exchange : Exchange Listener} (reply : Reply) {conduct : Conduct Listener}
      (failed : exchange.conduct.session.request? = none ∨ reply.granted? updatesOfJson? = none)
      (made : exchange.conduct.after? (.receive reply) = some conduct) :
      Step exchange { exchange with conduct }
  | acts {exchange : Exchange Listener} (move : ConductMove Listener) {conduct : Conduct Listener}
      (other : ∀ reply, move ≠ .receive reply)
      (made : exchange.conduct.after? move = some conduct) :
      Step exchange { exchange with
        conduct
        handed := exchange.handed ++ (exchange.conduct.handed? move).toList }

/-- An exchange that has begun with a session just opened. -/
def Reachable (exchange : Exchange Listener) : Prop :=
  ∃ conduct : Conduct Listener, conduct.Opened ∧ Relation.ReflTransGen Step { conduct } exchange

variable {exchange next : Exchange Listener}

/-- What can happen leads from one reachable exchange to another. -/
theorem Reachable.step (reachable : exchange.Reachable) (step : Step exchange next) :
    next.Reachable := by
  obtain ⟨conduct, opened, steps⟩ := reachable
  exact ⟨conduct, opened, steps.tail step⟩

/-! ### What the service has -/

/-- News has ascending numbers within the bounds. -/
structure Numbered (news : List News) : Prop where
  ascending : news.Pairwise (·.number < ·.number)
  bounded : ∀ each ∈ news, 0 ≤ each.number ∧ each.number < 2 ^ 63 - 1

/-- News with a greater number than all before keeps the numbers ascending. -/
theorem Numbered.concat {earlier : List News} {news : News} (numbered : Numbered earlier)
    (bounds : 0 ≤ news.number ∧ news.number < 2 ^ 63 - 1)
    (newest : ∀ each ∈ earlier, each.number < news.number) : Numbered (earlier ++ [news]) where
  ascending := by
    rw [List.pairwise_append]
    exact ⟨numbered.ascending, List.pairwise_singleton _ _, fun each before last member =>
      List.mem_singleton.mp member ▸ newest each before⟩
  bounded := by
    simpa only [List.forall_mem_append, List.forall_mem_singleton] using ⟨numbered.bounded, bounds⟩

/-- The offset stands right behind the last of the news that has been taken. -/
structure Behind (offset : Int) (taken : List News) : Prop where
  above : ∀ news ∈ taken, news.number < offset
  least : offset = 0 ∨ ∃ news ∈ taken, offset = news.number + 1

/-- Within the bounds, the successor of a number is the next one. -/
theorem successor_eq {number : Int} (positive : 0 ≤ number) (bounded : number < 2 ^ 63 - 1) :
    Polling.successor number = number + 1 := by
  unfold Polling.successor
  rw [Int.bmod_eq_of_le] <;> omega

/-- The offset moves behind the next news when that is taken. -/
theorem Behind.take {polling : Polling} {taken : List News} {news : News}
    (behind : Behind polling.offset taken) (positive : 0 ≤ news.number)
    (bounded : news.number < 2 ^ 63 - 1) (next : ∀ earlier ∈ taken, earlier.number < news.number) :
    Behind (polling.take news.update).offset (taken ++ [news]) := by
  have below : polling.offset ≤ news.number := by
    rcases behind.least with zero | ⟨last, member, last_offset⟩
    · omega
    · have := next last member
      omega
  have moved : (polling.take news.update).offset = news.number + 1 := by
    rw [Polling.take, News.update, successor_eq positive bounded]
    exact Int.max_eq_right (by omega)
  rw [moved]
  constructor
  · intro other member
    rcases List.mem_append.mp member with before | last
    · have := next other before
      omega
    · rw [List.mem_singleton.mp last]
      omega
  · exact .inr ⟨news, by simp, rfl⟩

/-- A request from this offset on asks for the news that has not been taken. -/
theorem Behind.filter_eq {offset : Int} {taken rest : List News} (behind : Behind offset taken)
    (numbered : Numbered (taken ++ rest)) :
    (taken ++ rest).filter (offset ≤ ·.number) = rest := by
  have apart := (List.pairwise_append.mp numbered.ascending).2.2
  rw [List.filter_append]
  have none : taken.filter (offset ≤ ·.number) = [] := by
    rw [List.filter_eq_nil_iff]
    intro news member
    have := behind.above news member
    simpa using this
  have all : rest.filter (offset ≤ ·.number) = rest := by
    rw [List.filter_eq_self]
    intro news member
    have positive := (numbered.bounded news (List.mem_append_right _ member)).1
    rcases behind.least with zero | ⟨last, before, last_offset⟩
    · simpa [zero] using positive
    · have := apart last before news member
      simp only [decide_eq_true_eq]
      omega
  rw [none, all, List.nil_append]

/-! ### What a session does with updates -/

/-- What becomes of the updates when a session goes on: nothing, or the next one is taken and its event
handed over, or a batch comes. -/
inductive Progress (session next : Session Listener) :
    Option (Listener × Event) → List Update → Prop
  | keeps (offset : next.polling.offset = session.polling.offset)
      (remaining : next.remaining = session.remaining) : Progress session next none []
  | takes {update : Update} {rest : List Update}
      (delivering : session.state = .delivering (update :: rest))
      (taken : next = { session with
        polling := session.polling.take update, state := .delivering rest }) :
      Progress session next
        (session.listener.bind fun listener => update.event.map (listener, ·)) []
  | brings {batch : List Update} (requesting : session.state = .requesting)
      (going : session.cancelled = false) (remaining : next.remaining = batch)
      (offset : next.polling.offset = session.polling.offset) : Progress session next none batch

/-- A step of its own lets a session keep what it has or take the next update. -/
theorem progress_of_advance {session next : Session Listener} {handed : Option (Listener × Event)}
    (stepped : session.advance = some (handed, next)) : Progress session next handed [] := by
  unfold Session.advance at stepped
  split at stepped
  next unheard =>
    have empty : session.remaining = [] := by rw [Session.remaining, unheard]
    split at stepped
    · cases stepped
      exact .keeps rfl empty.symm
    · split at stepped <;> cases stepped
      exact .keeps rfl empty.symm
  next requesting =>
    split at stepped <;> cases stepped
    exact .keeps rfl (by rw [Session.remaining, Session.remaining, requesting])
  next pausing =>
    split at stepped <;> cases stepped
    exact .keeps rfl (by rw [Session.remaining, Session.remaining, pausing])
  next delivered =>
    cases stepped
    exact .keeps rfl (by rw [Session.remaining, Session.remaining, delivered])
  next update rest delivering =>
    have takes := Progress.takes delivering rfl
    split at stepped
    next listener event heard told =>
      cases stepped
      have some : (session.listener.bind fun listener => update.event.map (listener, ·)) =
          some (listener, event) := by
        rw [heard, told]
        rfl
      rwa [some] at takes
    next silent =>
      cases stepped
      have none : (session.listener.bind fun listener => update.event.map (listener, ·)) = none := by
        cases heard : session.listener with
        | none => rfl
        | some listener =>
          cases told : update.event with
          | none => rfl
          | some event => exact absurd told (silent listener event heard)
      rwa [none] at takes
  next => cases stepped

/-- A reply brings its batch, unless the session is being closed. -/
theorem progress_of_receive {session : Session Listener} (requesting : session.state = .requesting)
    (reply : Reply) : Progress session (session.receive reply) none
      (if session.cancelled then [] else reply.batch) := by
  have empty : session.remaining = [] := by rw [Session.remaining, requesting]
  unfold Session.receive
  rw [requesting]
  dsimp only
  split
  · exact .keeps rfl empty.symm
  next going =>
    have going : session.cancelled = false := by simpa using going
    unfold Polling.react Reply.batch
    cases outcome : reply.outcome updatesOfJson? with
    | ok updates => exact .brings requesting going rfl rfl
    | error fault =>
      cases fault <;> exact .brings requesting going rfl rfl

/-- Every move is progress of one of the three kinds. -/
theorem progress_of_after {conduct next : Conduct Listener} {move : ConductMove Listener}
    (made : conduct.after? move = some next) :
    Progress conduct.session next.session (conduct.handed? move) (conduct.brought move) := by
  cases move with
  | listen listener =>
    cases made
    show Progress conduct.session (conduct.session.listen listener) none []
    unfold Session.listen
    split <;> exact .keeps rfl rfl
  | advance =>
    obtain ⟨⟨handed, session⟩, stepped, rfl⟩ := Option.map_eq_some_iff.mp made
    show Progress conduct.session session (conduct.session.advance.bind Prod.fst) []
    rw [stepped]
    exact progress_of_advance stepped
  | receive reply =>
    simp only [Conduct.after?] at made
    split at made <;> cases made
    next requesting => exact progress_of_receive requesting reply
  | wake =>
    simp only [Conduct.after?] at made
    split at made <;> cases made
    next pausing =>
      show Progress conduct.session conduct.session.wake none []
      have empty : conduct.session.remaining = [] := by rw [Session.remaining, pausing]
      unfold Session.wake
      rw [pausing]
      dsimp only
      refine .keeps rfl ?_
      rw [empty, Session.remaining]
      split
      next delivering =>
        dsimp only at delivering
        split at delivering <;> cases delivering
      next => rfl
  | beginClose =>
    cases made
    exact .keeps rfl rfl
  | endClose closing =>
    obtain ⟨_, _, _, rfl⟩ := Conduct.endClose_cases made
    exact .keeps rfl rfl
  | beginSend call =>
    simp only [Conduct.after?] at made
    split at made <;> cases made <;> exact .keeps rfl rfl
  | endSend sending reply =>
    simp only [Conduct.after?] at made
    split at made <;> cases made
    exact .keeps rfl rfl

/-! ### Who listens -/

/-- Polling does not begin before somebody listens, and who listens stays until the session ends or is
being closed. -/
structure Attended (session : Session Listener) : Prop where
  notified : session.notified = true → session.cancelled = false → session.ended = false →
    session.listener.isSome = true
  ended : session.ended = true → session.state = .finished
  polling : session.state ≠ .unheard → session.state ≠ .finished → session.notified = true

namespace Attended

variable {session : Session Listener} (attended : Attended session)

include attended

/-- A session that polls has been listened to. -/
theorem began {state : PollState} (there : session.state = state) (heard : state ≠ .unheard)
    (going : state ≠ .finished) : session.notified = true :=
  attended.polling (there ▸ heard) (there ▸ going)

/-- Somebody listens as long as a batch is handed over and nobody closes the session. -/
theorem heard {updates : List Update} (delivering : session.state = .delivering updates)
    (going : session.cancelled = false) : session.listener.isSome = true := by
  refine attended.notified (attended.began delivering nofun nofun) going ?_
  cases ended : session.ended with
  | false => rfl
  | true => cases delivering.symm.trans (attended.ended ended)

/-- Polling goes on from one state to another. -/
theorem goOn {state next : PollState} (there : session.state = state) (going : state ≠ .finished)
    (began : session.notified = true) (polling : Polling) :
    Attended { session with state := next, polling } where
  notified := attended.notified
  ended ended := absurd (there.symm.trans (attended.ended ended)) going
  polling _ _ := began

/-- A session that is done polling needs nobody who listens. -/
theorem stop (polling : Polling) : Attended { session with state := .finished, polling } where
  notified := attended.notified
  ended _ := rfl
  polling _ unfinished := absurd rfl unfinished

theorem advance {next : Session Listener} {handed : Option (Listener × Event)}
    (stepped : session.advance = some (handed, next)) : Attended next := by
  unfold Session.advance at stepped
  split at stepped
  next unheard =>
    split at stepped
    · cases stepped
      exact attended.stop _
    · split at stepped <;> cases stepped
      next notified => exact attended.goOn unheard nofun notified _
  next =>
    split at stepped <;> cases stepped
    exact attended.stop _
  next =>
    split at stepped <;> cases stepped
    exact attended.stop _
  next delivered =>
    cases stepped
    exact attended.goOn delivered nofun (attended.began delivered nofun nofun) _
  next update rest delivering =>
    have began := attended.began delivering nofun nofun
    split at stepped <;> cases stepped <;> exact attended.goOn delivering nofun began _
  next => cases stepped

theorem receive (requesting : session.state = .requesting) (reply : Reply) :
    Attended (session.receive reply) := by
  have began := attended.began requesting nofun nofun
  unfold Session.receive
  rw [requesting]
  dsimp only
  split
  · exact attended.stop _
  · split
    · exact attended.goOn requesting nofun began _
    · exact attended.goOn requesting nofun began _
    · exact ⟨fun _ _ => nofun, fun _ => rfl, fun _ unfinished => absurd rfl unfinished⟩

theorem wake : Attended session.wake := by
  unfold Session.wake
  split
  next pausing =>
    split
    · exact attended.stop _
    · exact attended.goOn pausing nofun (attended.began pausing nofun nofun) _
  next => exact attended

theorem listen (listener : Listener) : Attended (session.listen listener) := by
  unfold Session.listen
  split
  · exact attended
  · exact ⟨fun _ _ _ => rfl, attended.ended, fun _ _ => rfl⟩

end Attended

/-- Every move keeps a session listened to. -/
theorem Attended.after {conduct next : Conduct Listener} {move : ConductMove Listener}
    (attended : Attended conduct.session) (orderly : conduct.Orderly)
    (made : conduct.after? move = some next) : Attended next.session := by
  cases move with
  | listen listener =>
    cases made
    exact attended.listen listener
  | advance =>
    obtain ⟨⟨handed, session⟩, stepped, rfl⟩ := Option.map_eq_some_iff.mp made
    exact attended.advance stepped
  | receive reply =>
    simp only [Conduct.after?] at made
    split at made <;> cases made
    next requesting => exact attended.receive requesting reply
  | wake =>
    simp only [Conduct.after?] at made
    split at made <;> cases made
    exact attended.wake
  | beginClose =>
    cases made
    exact ⟨by rintro _ ⟨⟩, attended.ended, attended.polling⟩
  | endClose closing =>
    obtain ⟨begun, _, _, rfl⟩ := Conduct.endClose_cases made
    have cancelled := (orderly.closing begun).2
    refine ⟨fun _ going => ?_, attended.ended, attended.polling⟩
    cases cancelled.symm.trans going
  | beginSend call =>
    simp only [Conduct.after?] at made
    split at made <;> cases made <;> exact attended
  | endSend sending reply =>
    simp only [Conduct.after?] at made
    split at made <;> cases made
    exact attended

/-! ### What always holds -/

/-- How far the session has got with what it has received: some of that has been taken, and the rest of
the last batch is left. What has been handed over are the events of what has been taken, but for what
came when the listener had been dropped by a close. -/
structure Got (exchange : Exchange Listener) (taken left : List News) : Prop where
  received : exchange.received = taken ++ left
  remaining : exchange.conduct.session.remaining = left.map News.update
  behind : Behind exchange.conduct.session.polling.offset taken
  handed : exchange.handed.map Prod.snd = taken.filterMap News.event? ∨
    (exchange.conduct.session.cancelled = true ∧ exchange.conduct.session.listener = none) ∧
      exchange.handed.map Prod.snd <+: taken.filterMap News.event?

/-- The service and the session agree on what has been received. -/
structure Consistent (exchange : Exchange Listener) : Prop where
  orderly : exchange.conduct.Orderly
  attended : Attended exchange.conduct.session
  numbered : Numbered exchange.news
  begins : exchange.received <+: exchange.news
  got : ∃ taken left, exchange.Got taken left

namespace Got

variable {taken left : List News} {conduct : Conduct Listener}

/-- What is asked for is what has not been received. -/
theorem pending_eq {rest : List News} (got : exchange.Got taken [])
    (numbered : Numbered exchange.news) (whole : exchange.received ++ rest = exchange.news) :
    exchange.pending exchange.conduct.session.polling.offset = rest := by
  rw [got.received, List.append_nil] at whole
  rw [pending, ← whole, got.behind.filter_eq (whole ▸ numbered)]

/-- A move that keeps the offset and what is left keeps how far the session has got. -/
theorem keeps (got : exchange.Got taken left)
    (goes : Conduct.Goes exchange.conduct.session conduct.session)
    (offset : conduct.session.polling.offset = exchange.conduct.session.polling.offset)
    (remaining : conduct.session.remaining = exchange.conduct.session.remaining) :
    { exchange with conduct }.Got taken left where
  received := got.received
  remaining := remaining.trans got.remaining
  behind := offset ▸ got.behind
  handed := got.handed.imp_right (And.imp_left (Conduct.dropped_of_goes goes))

/-- The event of the next news is handed over, unless it has none or a close that has not waited has
dropped the listener meanwhile. -/
theorem takes {news : News} (got : exchange.Got taken (news :: left))
    (attended : Attended exchange.conduct.session) (numbered : Numbered exchange.received)
    (goes : Conduct.Goes exchange.conduct.session conduct.session)
    (delivering : exchange.conduct.session.state =
      .delivering (news.update :: left.map News.update))
    (went : conduct.session = { exchange.conduct.session with
      polling := exchange.conduct.session.polling.take news.update
      state := .delivering (left.map News.update) }) :
    { exchange with
      conduct
      handed := exchange.handed ++ (exchange.conduct.session.listener.bind fun listener =>
        news.event?.map (listener, ·)).toList }.Got (taken ++ [news]) left where
  received := by
    rw [List.append_assoc]
    exact got.received
  remaining := by
    rw [went]
    rfl
  behind := by
    rw [got.received] at numbered
    obtain ⟨positive, bounded⟩ := numbered.bounded news (by simp)
    have apart := (List.pairwise_append.mp numbered.ascending).2.2
    rw [went]
    exact got.behind.take positive bounded fun earlier before =>
      apart earlier before news List.mem_cons_self
  handed := by
    rcases got.handed with all | ⟨dropped, before⟩
    · cases heard : exchange.conduct.session.listener with
      | some listener =>
        left
        cases told : news.event? <;> simp [all, told]
      | none =>
        right
        have cancelled : exchange.conduct.session.cancelled = true := by
          by_contra going
          have listens := attended.heard delivering (Bool.eq_false_of_not_eq_true going)
          rw [heard] at listens
          cases listens
        refine ⟨Conduct.dropped_of_goes goes ⟨cancelled, heard⟩, ?_⟩
        simp [all]
    · right
      refine ⟨Conduct.dropped_of_goes goes dropped, ?_⟩
      rw [dropped.2]
      simpa using before.trans (List.prefix_append _ _)

/-- Whatever moves the session makes without a reply that brings news, it gets on with what it has. -/
theorem progress (got : exchange.Got taken left) (attended : Attended exchange.conduct.session)
    (numbered : Numbered exchange.received)
    (goes : Conduct.Goes exchange.conduct.session conduct.session)
    {handed : Option (Listener × Event)}
    (progress : Progress exchange.conduct.session conduct.session handed []) :
    ∃ taken left, { exchange with conduct, handed := exchange.handed ++ handed.toList }.Got taken left := by
  cases progress with
  | keeps offset remaining =>
    rw [Option.toList_none, List.append_nil]
    exact ⟨taken, left, got.keeps goes offset remaining⟩
  | @takes update rest delivering went =>
    have remaining := got.remaining
    rw [Session.remaining, delivering] at remaining
    obtain ⟨news, left, rfl, rfl, rfl⟩ := List.map_eq_cons_iff.mp remaining.symm
    exact ⟨taken ++ [news], left, got.takes attended numbered goes delivering went⟩
  | brings requesting going remaining offset =>
    rw [Option.toList_none, List.append_nil]
    refine ⟨taken, left, got.keeps goes offset ?_⟩
    rw [remaining, Session.remaining, requesting]

/-- Nothing is left of the last batch when the next one is asked for. -/
theorem left_eq_nil (got : exchange.Got taken left)
    (requesting : exchange.conduct.session.state = .requesting) : left = [] := by
  have remaining := got.remaining
  rw [Session.remaining, requesting] at remaining
  exact List.map_eq_nil_iff.mp remaining.symm

/-- A session that had nothing left has all of a batch left when it comes. -/
theorem serves (got : exchange.Got taken [])
    (goes : Conduct.Goes exchange.conduct.session conduct.session) {batch : List News}
    (remaining : conduct.session.remaining = batch.map News.update)
    (offset : conduct.session.polling.offset = exchange.conduct.session.polling.offset) :
    { exchange with conduct, received := exchange.received ++ batch }.Got taken batch where
  received := by rw [got.received, List.append_nil]
  remaining := remaining
  behind := offset ▸ got.behind
  handed := got.handed.imp_right (And.imp_left (Conduct.dropped_of_goes goes))

end Got

namespace Consistent

/-- News that happens is news the session has not received. -/
theorem happens (consistent : exchange.Consistent) {news : News}
    (bounds : 0 ≤ news.number ∧ news.number < 2 ^ 63 - 1)
    (newest : ∀ earlier ∈ exchange.news, earlier.number < news.number) :
    { exchange with news := exchange.news ++ [news] }.Consistent where
  orderly := consistent.orderly
  attended := consistent.attended
  numbered := consistent.numbered.concat bounds newest
  begins := consistent.begins.trans (List.prefix_append ..)
  got := by
    obtain ⟨taken, left, received, remaining, behind, handed⟩ := consistent.got
    exact ⟨taken, left, received, remaining, behind, handed⟩

theorem received_numbered (consistent : exchange.Consistent) : Numbered exchange.received where
  ascending := consistent.numbered.ascending.sublist consistent.begins.sublist
  bounded news member := consistent.numbered.bounded news (consistent.begins.subset member)

/-- Whatever the session does, exchange and service go on to agree, if it is not served any news. -/
theorem acts (consistent : exchange.Consistent) {move : ConductMove Listener}
    {conduct : Conduct Listener} (nothing : exchange.conduct.brought move = [])
    (made : exchange.conduct.after? move = some conduct) :
    { exchange with
      conduct
      handed := exchange.handed ++ (exchange.conduct.handed? move).toList }.Consistent where
  orderly := consistent.orderly.after made
  attended := consistent.attended.after consistent.orderly made
  numbered := consistent.numbered
  begins := consistent.begins
  got := by
    obtain ⟨taken, left, got⟩ := consistent.got
    have progress := progress_of_after made
    rw [nothing] at progress
    exact got.progress consistent.attended consistent.received_numbered (Conduct.goes_of_after made)
      progress

/-- A batch of what was asked for is received behind all that was. -/
theorem serves (consistent : exchange.Consistent) {offset : Int} {seconds : Nat} {batch : List News}
    {reply : Reply} {conduct : Conduct Listener}
    (asked : exchange.conduct.session.request? = some (.getUpdates offset seconds))
    (first : batch <+: exchange.pending offset) (carries : reply.Carries batch)
    (made : exchange.conduct.after? (.receive reply) = some conduct) :
    { exchange with conduct, received := exchange.received ++ batch }.Consistent := by
  obtain ⟨requesting, going, same⟩ := Session.request?_eq_some asked
  obtain rfl := Request.getUpdates_inj same
  obtain ⟨taken, left, got⟩ := consistent.got
  obtain rfl := got.left_eq_nil requesting
  obtain ⟨rest, whole⟩ := consistent.begins
  rw [got.pending_eq consistent.numbered whole] at first
  obtain rfl := Option.some.inj
    ((Conduct.after?_of_carries requesting going carries).symm.trans made)
  exact {
    orderly := consistent.orderly.after made
    attended := consistent.attended.after consistent.orderly made
    numbered := consistent.numbered
    begins := by
      rw [← whole]
      exact (List.prefix_append_right_inj _).mpr first
    got := ⟨taken, batch, got.serves (Conduct.goes_of_after made) rfl rfl⟩ }

/-- A reply that fails, or that nobody asked for, brings nothing. -/
theorem fails (consistent : exchange.Consistent) {reply : Reply} {conduct : Conduct Listener}
    (failed : exchange.conduct.session.request? = none ∨ reply.granted? updatesOfJson? = none)
    (made : exchange.conduct.after? (.receive reply) = some conduct) :
    { exchange with conduct }.Consistent := by
  have nothing : exchange.conduct.brought (.receive reply) = [] := by
    rw [Conduct.brought]
    split
    next => rfl
    next going =>
      refine Reply.batch_of_not_granted (failed.resolve_left fun unasked => ?_)
      simp only [Conduct.after?] at made
      split at made
      next requesting => simp [Session.request?, requesting, going] at unasked
      next => cases made
  simpa [Conduct.handed?] using consistent.acts nothing made

/-- Service and session agree on what has been received, whatever happens. -/
theorem after (consistent : exchange.Consistent) (step : Step exchange next) : next.Consistent := by
  cases step with
  | happens news bounds newest => exact consistent.happens bounds newest
  | serves asked first carries made => exact consistent.serves asked first carries made
  | fails reply failed made => exact consistent.fails failed made
  | acts move other made =>
    refine consistent.acts ?_ made
    cases move with
    | receive reply => exact absurd rfl (other reply)
    | _ => rfl

/-- When a session has just been opened nothing has been received. -/
theorem opened {conduct : Conduct Listener} (opened : conduct.Opened) :
    { conduct : Exchange Listener }.Consistent := by
  have orderly := Conduct.orderly_of_opened opened
  obtain ⟨id, base, pollTimeout, rfl⟩ := opened.fresh
  exact {
    orderly
    attended := ⟨nofun, nofun, fun unheard => absurd rfl unheard⟩
    numbered := ⟨.nil, nofun⟩
    begins := List.nil_prefix
    got := ⟨[], [], rfl, rfl, ⟨nofun, .inl rfl⟩, .inl rfl⟩ }

end Consistent

/-- What has been received is a beginning of all the news that the service has had, with ascending
numbers. The session has taken some of it and has the rest of the last batch before it, and what it has
handed over is what the bot is to react to in the news taken, one after another. What is left out when a
close drops the listener is at the end. -/
theorem Reachable.delivered (reachable : exchange.Reachable) :
    exchange.received <+: exchange.news ∧ exchange.received.Pairwise (·.number < ·.number) ∧
      ∃ taken left, exchange.received = taken ++ left ∧
        exchange.conduct.session.remaining.map Update.id = left.map News.number ∧
        (exchange.conduct.session.cancelled = false →
          exchange.handed.map Prod.snd = taken.filterMap News.event?) ∧
        exchange.handed.map Prod.snd <+: taken.filterMap News.event? := by
  obtain ⟨conduct, opened, steps⟩ := reachable
  have consistent : exchange.Consistent := by
    induction steps with
    | refl => exact .opened opened
    | tail _ step consistent => exact consistent.after step
  obtain ⟨taken, left, got⟩ := consistent.got
  refine ⟨consistent.begins, consistent.received_numbered.ascending, taken, left, got.received, ?_,
    fun going => ?_, ?_⟩
  · rw [got.remaining, List.map_map]
    rfl
  · refine got.handed.resolve_right ?_
    rintro ⟨⟨cancelled, -⟩, -⟩
    cases cancelled.symm.trans going
  · rcases got.handed with all | ⟨-, before⟩
    · rw [all]
    · exact before

/-- A message, and something else. -/
def greeting : List News := [⟨3, .posted ⟨7, 9, some "hi"⟩⟩, ⟨5, .other⟩]

/-- A reply with both of them. -/
def greetingReply : Reply :=
  .received 200 ("\x7b\"ok\":true,\"result\":[" ++
    "\x7b\"update_id\":3,\"message\":" ++
      "\x7b\"message_id\":9,\"chat\":\x7b\"id\":7\x7d,\"text\":\"hi\"\x7d\x7d," ++
    "\x7b\"update_id\":5\x7d]\x7d")

/-- The message in it. -/
def greetingPost : Json :=
  .object [("message_id", .number (.integer 9)), ("chat", .object [("id", .number (.integer 7))]),
    ("text", .text "hi")]

theorem toldBy_greetingPost : Post.ToldBy ⟨7, 9, some "hi"⟩ greetingPost where
  id := ⟨_, rfl, rfl, by decide⟩
  chat := ⟨_, rfl, _, rfl, rfl, by decide⟩
  text := ⟨_, rfl, rfl⟩

theorem carries_greetingReply : greetingReply.Carries greeting := by
  have posted : News.ToldBy ⟨3, .posted ⟨7, 9, some "hi"⟩⟩
      (.object [("update_id", .number (.integer 3)), ("message", greetingPost)]) :=
    ⟨⟨_, rfl, rfl, by decide⟩, ⟨_, rfl, toldBy_greetingPost⟩, .inl rfl⟩
  have other : News.ToldBy ⟨5, .other⟩ (.object [("update_id", .number (.integer 5))]) :=
    ⟨⟨_, rfl, rfl, by decide⟩, .inl rfl, .inl rfl⟩
  exact .served
    (.object [("ok", .boolean true), ("result", .list
      [.object [("update_id", .number (.integer 3)), ("message", greetingPost)],
        .object [("update_id", .number (.integer 5))]])])
    (by decide) (by decide +kernel) ⟨_, rfl, rfl⟩ ⟨_, rfl, _, rfl, .cons posted (.cons other .nil)⟩
    ⟨none, .inl rfl⟩ (.inl rfl)

/-- A session that somebody listens to, when polling has come to this. -/
def polled (state : PollState) (polling : Polling) : Conduct Nat where
  session := { (Conduct.begun Nat).session with listener := some 1, notified := true, state, polling }

/-- The first reply is lost, the second one has the two of them, and more happens while they are handed
over. -/
theorem delivered_greeting : ∃ exchange : Exchange Nat, exchange.Reachable ∧
    exchange.news.map News.number = [3, 5, 8] ∧ exchange.received = greeting ∧
      exchange.handed.map Prod.snd = [.message ⟨7, some 9, some "hi"⟩] := by
  have begun : Reachable { conduct := Conduct.begun Nat } := ⟨_, Conduct.begun_opened, .refl⟩
  have happened : Reachable { conduct := Conduct.begun Nat, news := greeting } :=
    (begun.step (.happens ⟨3, .posted ⟨7, 9, some "hi"⟩⟩ (by decide) nofun)).step
      (.happens ⟨5, .other⟩ (by decide) (by decide))
  have asking : Reachable { conduct := polled .requesting {}, news := greeting } :=
    (happened.step (.acts (.listen 1) nofun rfl)).step (.acts .advance nofun rfl)
  have again : Reachable { conduct := polled .requesting (Polling.fail {}), news := greeting } :=
    (asking.step (.fails .lost (.inr rfl) rfl)).step (.acts .wake nofun rfl)
  have served : Reachable {
      conduct := polled (.delivering (greeting.map News.update)) {}
      news := greeting
      received := greeting } :=
    again.step (.serves rfl (by decide) carries_greetingReply
      (Conduct.after?_of_carries rfl rfl carries_greetingReply))
  have handing := (served.step (.acts .advance nofun rfl)).step
    (.happens ⟨8, .posted ⟨7, 10, some "again"⟩⟩ (by decide) (by decide))
  have handed := (handing.step (.acts .advance nofun rfl)).step
    (.acts .advance nofun rfl)
  obtain ⟨-, -, taken, left, received, remaining, all, -⟩ := handed.delivered
  obtain rfl := List.map_eq_nil_iff.mp remaining.symm
  rw [List.append_nil] at received
  exact ⟨_, handed, by decide, rfl, (all rfl).trans (by rw [← received]; decide)⟩

end Exchange

end BotHost.Telegram
