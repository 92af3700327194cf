/-
Everything in its place.

Between two operations a bot can be in the registry and not be stored as running, or have a session
and not be in the registry. This is over when the host comes to rest: then a bot is in the registry
just in case it is stored as running, has a loop that waits for events and a session that brings them,
and no session is open besides.
-/

import BotHost.Proofs.Manager.Holding
import BotHost.Proofs.Manager.Ledger
import BotHost.Proofs.Manager.Reaping
import BotHost.Proofs.Manager.Rest
import BotHost.Proofs.Manager.Transport

namespace BotHost

namespace Host

variable {host next : Host}

/-! ### At rest -/

/-- The registry, the stored statuses, the loops and the sessions agree. -/
structure Settled (host : Host) : Prop where
  recorded : ∀ {bot : String}, host.isRunning bot = true ↔
    ∃ stored, host.store.find? bot = some stored ∧ stored.status = .running
  alive : ∀ {bot : String} {running : Instance}, host.running? bot = some running →
    ∃ loop session, host.loop? running.generation = some loop ∧ loop.bot = bot ∧
      loop.session = running.session ∧ loop.state = .idle ∧ loop.waiting = [] ∧
      loop.cancelled = false ∧ loop.aborted = false ∧
      host.transport.session? running.session = some session ∧ session.ended = false ∧
      session.closed = false ∧ session.listener = some running.generation
  distinct : (host.registry.map Instance.bot).Nodup
  counted : host.transport.openedCount = host.transport.closedCount + host.registry.length

theorem AtRest.alive (rest : host.AtRest) (reachable : host.Reachable) {bot : String}
    {running : Instance} (registered : host.running? bot = some running) :
    ∃ loop session, host.loop? running.generation = some loop ∧ loop.bot = bot ∧
      loop.session = running.session ∧ loop.state = .idle ∧ loop.waiting = [] ∧
      loop.cancelled = false ∧ loop.aborted = false ∧
      host.transport.session? running.session = some session ∧ session.ended = false ∧
      session.closed = false ∧ session.listener = some running.generation := by
  have orderly := reachable.orderly
  have custody := reachable.custody
  have ofBot := host.running?_bot registered
  obtain ⟨loop, there, ofLoop, same, _⟩ := custody.registered registered
  have unfinished : loop.state ≠ .finished := by
    intro finished
    have present : host.Present running := .inl (by rw [ofBot]; exact registered)
    obtain ⟨number, task, found, _, _, early⟩ := reachable.attended.pending present there finished
    obtain ⟨result, ended⟩ := rest.finished orderly custody found
    rw [ended] at early
    cases early
  obtain ⟨idle, empty, active, whole, hears⟩ := rest.idle there unfinished
  have listens : host.transport.listener? loop.session = some running.generation :=
    beq_iff_eq.mp hears
  obtain ⟨session, open', listener⟩ := Option.bind_eq_some_iff.mp listens
  obtain ⟨unclosed, unended⟩ := reachable.sound.listening open' (by rw [listener]; rfl)
  exact ⟨loop, session, there, ofLoop.trans ofBot, same, idle, empty, active, whole, same ▸ open',
    unended, unclosed, listener⟩

/-- At rest the open sessions are those of the registered instances. -/
theorem AtRest.open_iff (rest : host.AtRest) (reachable : host.Reachable) (housed : host.Housed)
    {number : Nat} {session : MemorySession Nat}
    (there : host.transport.session? number = some session) :
    session.closed = false ↔ ∃ running ∈ host.registry, running.session = number := by
  rw [housed.open_iff there]
  constructor
  · rintro (⟨bot, running, registered, same⟩ | ⟨other, holds⟩)
    · exact ⟨running, List.mem_of_find?_eq_some registered, same⟩
    · obtain ⟨task, found, holds⟩ := Option.bind_eq_some_iff.mp holds
      obtain ⟨result, ended⟩ := rest.finished reachable.orderly reachable.custody found
      rw [ended] at holds
      cases holds
  · rintro ⟨running, member, same⟩
    exact .inl ⟨running.bot, running, reachable.distinct.running?_of_mem member, same⟩

theorem AtRest.counted (rest : host.AtRest) (reachable : host.Reachable) (housed : host.Housed) :
    host.transport.openedCount = host.transport.closedCount + host.registry.length := by
  have distinct := reachable.distinct
  have session_lt {running : Instance} (member : running ∈ host.registry) :
      ∃ loop, host.loop? running.generation = some loop ∧ loop.bot = running.bot ∧
        loop.session = running.session := by
    obtain ⟨loop, there, ofLoop, same, _⟩ :=
      reachable.custody.registered (distinct.running?_of_mem member)
    exact ⟨loop, there, ofLoop, same⟩
  have nodup : (host.registry.map Instance.session).Nodup := by
    refine List.Nodup.map_on ?_ (List.Nodup.of_map Instance.bot distinct)
    intro running member other member' shared
    obtain ⟨loop, there, ofLoop, same⟩ := session_lt member
    obtain ⟨loop', there', ofLoop', same'⟩ := session_lt member'
    have generation := reachable.paired.single there there' (by rw [same, same', shared])
    rw [← generation, there] at there'
    obtain rfl := Option.some.inj there'
    exact List.inj_on_of_nodup_map distinct member member' (ofLoop.symm.trans ofLoop')
  have open' (number : Nat) : number ∈ host.registry.map Instance.session ↔
      ∃ session, host.transport.sessions[number]? = some session ∧ (!session.closed) = true := by
    rw [List.mem_map]
    constructor
    · rintro ⟨running, member, rfl⟩
      obtain ⟨loop, there, _, same⟩ := session_lt member
      have bound : running.session < host.transport.sessions.length :=
        same ▸ reachable.paired.opened there
      refine ⟨_, List.getElem?_eq_getElem bound, ?_⟩
      have unclosed := (rest.open_iff reachable housed (List.getElem?_eq_getElem bound)).mpr
        ⟨running, member, rfl⟩
      rw [unclosed]
      rfl
    · rintro ⟨session, there, unclosed⟩
      exact (rest.open_iff reachable housed there).mp (by simpa using unclosed)
  have open_count := length_eq_countP nodup open'
  have all := host.transport.sessions.length_eq_countP_add_countP MemorySession.closed
  have counted := reachable.sound.counted
  rw [List.length_map] at open_count
  rw [MemoryTransport.openedCount, all, counted, open_count]
  simp

/-- As long as no call to the store fails and sessions close in time, a host that starts without
running bots is settled whenever it comes to rest. -/
theorem Run.settled {patterns : PatternEngine} {settings : ManagerSettings} {bots : List Bot} {moves : List Move}
    (run : Run (seeded patterns settings bots) moves host)
    (stopped : ∀ bot ∈ bots, bot.status ≠ .running)
    (reliable : Throughout Reliable (seeded patterns settings bots) moves)
    (patient : Throughout Patient (seeded patterns settings bots) moves) (rest : host.AtRest) :
    host.Settled := by
  have first : (seeded patterns settings bots).Reachable := ⟨patterns, settings, bots, [], .rest _⟩
  have reachable : host.Reachable := ⟨patterns, settings, bots, moves, run⟩
  have ledger : host.Ledger := by
    refine run.keeps_throughout ?_ first reliable (Ledger.seeded patterns settings stopped)
    exact fun reachable reliable ledger made => ledger.move reachable reliable made
  have housed : host.Housed := by
    refine run.keeps_throughout ?_ first patient (Housed.seeded patterns settings bots)
    exact fun reachable patient housed made => housed.move reachable patient made
  refine ⟨?_, fun registered => rest.alive reachable registered, reachable.distinct,
    rest.counted reachable housed⟩
  intro bot
  rw [isRunning_iff]
  constructor
  · rintro ⟨running, registered⟩
    exact Option.map_eq_some_iff.mp (ledger.recorded registered)
  · intro stored
    rcases ledger.explained (Option.map_eq_some_iff.mpr stored) with registered |
      ⟨number, task, found, _, owes⟩
    · exact registered
    · have outside := rest.not_inside reachable.custody found
      rw [inside_of_owes owes] at outside
      cases outside

/-- The session of a bot ends and its instance is reaped, and the bot is started again. -/
def startEndStart : List Move :=
  .begin .start "bot" :: .replicate 9 (.step (.task 0)) ++
    [.endSession "token", .step (.loop 1)] ++ .replicate 9 (.step (.task 1)) ++
    .begin .start "bot" :: .replicate 9 (.step (.task 2))

theorem settled_startEndStart : ∃ host,
    Run (seeded .unlimited {} [.plain "bot" "token"]) startEndStart host ∧ host.Settled := by
  have played : ((seeded .unlimited {} [.plain "bot" "token"]).play startEndStart).any
      (fun host => decide host.AtRest) = true := by rfl
  obtain ⟨host, played, rest⟩ := (Option.any_eq_true _ _).mp played
  have run := run_iff.mpr played
  exact ⟨host, run, run.settled (by decide) (by decide +kernel) (by decide +kernel)
    (of_decide_eq_true rest)⟩

end Host

end BotHost
