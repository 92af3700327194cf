/-
What a reply says.

A reply rejects the token by its status, or by the error code of a body that can be decoded. If it does
not, it grants what was asked for when its body can be decoded, says that the call succeeded and has a
result. Any other reply, and none, is a failure that may pass. These three are read off the status and the
body alone, and they are what the outcome of a request tells apart.
-/

import BotHost.Telegram.Update

namespace BotHost.Telegram

variable {Result : Type} {decode : Json → Option Result}

namespace Reply

/-- The status of a reply, if one has come. -/
def status? : Reply → Option Nat
  | .lost => none
  | .received status _ => some status

/-- The envelope in the body of a reply, if that can be decoded. -/
def envelope? (decode : Json → Option Result) : Reply → Option (Envelope Result)
  | .lost => none
  | .received _ body => (Json.readAsWritten? body).bind (Envelope.ofJson? decode)

/-- The reply rejects the token. -/
def rejects (decode : Json → Option Result) (reply : Reply) : Bool :=
  reply.status? == some 401 || (reply.envelope? decode).bind Envelope.code == some 401

/-- What the reply grants, unless it rejects the token. -/
def granted? (decode : Json → Option Result) (reply : Reply) : Option Result :=
  if reply.rejects decode then none
  else (reply.envelope? decode).bind fun envelope =>
    if envelope.succeeded then envelope.result else none

/-- The reply neither rejects the token nor grants anything. -/
def fails (decode : Json → Option Result) (reply : Reply) : Bool :=
  !reply.rejects decode && (reply.granted? decode).isNone

variable {reply : Reply}

/-- A reply that rejects the token grants nothing. -/
theorem granted?_of_rejects (rejects : reply.rejects decode = true) : reply.granted? decode = none :=
  if_pos rejects

end Reply

/-- The outcome of an envelope that came with another status. -/
theorem Envelope.outcome_cases (envelope : Envelope Result) {status : Nat} (other : status ≠ 401) :
    (envelope.code = some 401 ∧
      envelope.outcome status = .error (.unauthorized (envelope.description.getD ""))) ∨
    envelope.code ≠ some 401 ∧
      ((∃ result, envelope.succeeded = true ∧ envelope.result = some result ∧
        envelope.outcome status = .ok result) ∨
      (envelope.succeeded = true → envelope.result = none) ∧
        ∃ code description, envelope.outcome status = .error (.refused code description)) := by
  obtain ⟨succeeded, result, description, code⟩ := envelope
  have coded : code.getD status = 401 ↔ code = some 401 := by
    cases code with
    | none =>
      simp only [Option.getD_none, reduceCtorEq, iff_false]
      omega
    | some code => simp
  unfold outcome
  dsimp only
  simp only [coded, other, or_false]
  by_cases rejected : code = some 401
  · exact .inl ⟨rejected, if_pos rejected⟩
  · refine .inr ⟨rejected, ?_⟩
    rw [if_neg rejected]
    match succeeded, result with
    | true, some result => exact .inl ⟨result, rfl, rfl, rfl⟩
    | true, none => exact .inr ⟨fun _ => rfl, _, _, rfl⟩
    | false, _ => exact .inr ⟨nofun, _, _, rfl⟩

namespace Reply

/-- A reply that can be decoded has the outcome its envelope tells. -/
theorem outcome_of_decoded {status : Nat} {body : String} {envelope : Envelope Result}
    (other : status ≠ 401)
    (there : (received status body).envelope? decode = some envelope) :
    (received status body).outcome decode = envelope.outcome status := by
  have read : (Json.readAsWritten? body).bind (Envelope.ofJson? decode) = some envelope := there
  rw [outcome, if_neg other, read]

/-- A reply that cannot be decoded leaves the request unanswered. -/
theorem outcome_of_undecoded {status : Nat} {body : String} (other : status ≠ 401)
    (none : (received status body).envelope? decode = none) :
    ∃ reason, (received status body).outcome decode = .error (.unanswered reason) := by
  have unread : (Json.readAsWritten? body).bind (Envelope.ofJson? decode) = .none := none
  rw [outcome, if_neg other, unread]
  exact ⟨_, rfl⟩

/-- The outcome of a request is what its reply says. -/
theorem outcome_cases (reply : Reply) (decode : Json → Option Result) :
    (reply.rejects decode = true ∧ ∃ reason, reply.outcome decode = .error (.unauthorized reason)) ∨
    (∃ result, reply.granted? decode = some result ∧ reply.outcome decode = .ok result) ∨
    reply.fails decode = true ∧ ∃ fault, reply.outcome decode = .error fault ∧
      ∀ reason, fault ≠ .unauthorized reason := by
  cases reply with
  | lost => exact .inr (.inr ⟨rfl, _, rfl, nofun⟩)
  | received status body =>
    by_cases rejected : status = 401
    · exact .inl ⟨by simp [rejects, status?, rejected], _, if_pos rejected⟩
    rcases Option.eq_none_or_eq_some ((received status body).envelope? decode) with
      there | ⟨envelope, there⟩
    · obtain ⟨reason, told⟩ := outcome_of_undecoded rejected there
      exact .inr (.inr ⟨by simp [fails, granted?, rejects, status?, rejected, there], _, told, nofun⟩)
    have decoded := outcome_of_decoded rejected there
    rcases envelope.outcome_cases rejected with
      ⟨coded, told⟩ | ⟨other, ⟨result, succeeded, given, told⟩ | ⟨empty, code, description, told⟩⟩
    · exact .inl ⟨by simp [rejects, there, coded], _, decoded.trans told⟩
    · refine .inr (.inl ⟨result, ?_, decoded.trans told⟩)
      simp [granted?, rejects, status?, rejected, there, other, succeeded, given]
    · refine .inr (.inr ⟨?_, _, decoded.trans told, nofun⟩)
      simpa [fails, granted?, rejects, status?, rejected, there, other] using empty

variable {reply : Reply}

/-- A reply fails when it neither rejects the token nor grants anything. -/
theorem fails_eq_true_iff :
    reply.fails decode = true ↔ reply.rejects decode = false ∧ reply.granted? decode = none := by
  simp [fails]

/-- A reply with the token rejected is told from all others. -/
theorem outcome_eq_unauthorized_iff :
    (∃ reason, reply.outcome decode = .error (.unauthorized reason)) ↔
      reply.rejects decode = true := by
  rcases reply.outcome_cases decode with
    ⟨rejects, reason, told⟩ | ⟨result, granted, told⟩ | ⟨fails, fault, told, other⟩
  · exact ⟨fun _ => rejects, fun _ => ⟨reason, told⟩⟩
  · constructor
    · rintro ⟨reason, unauthorized⟩
      cases told.symm.trans unauthorized
    · intro rejects
      cases granted.symm.trans (granted?_of_rejects rejects)
  · constructor
    · rintro ⟨reason, unauthorized⟩
      exact absurd (Except.error.inj (told.symm.trans unauthorized)) (other reason)
    · intro rejects
      cases rejects.symm.trans (fails_eq_true_iff.mp fails).1

/-- The outcome is what the reply grants. -/
theorem outcome_eq_ok_iff {result : Result} :
    reply.outcome decode = .ok result ↔ reply.granted? decode = some result := by
  rcases reply.outcome_cases decode with
    ⟨rejects, reason, told⟩ | ⟨granted, there, told⟩ | ⟨fails, fault, told, other⟩
  · rw [told, granted?_of_rejects rejects]
    exact ⟨nofun, nofun⟩
  · rw [told, there]
    simp
  · rw [told, (fails_eq_true_iff.mp fails).2]
    exact ⟨nofun, nofun⟩

/-- A reply fails exactly when its outcome is a fault that is not the rejection of the token. -/
theorem outcome_eq_other_iff :
    (∃ fault, reply.outcome decode = .error fault ∧ ∀ reason, fault ≠ .unauthorized reason) ↔
      reply.fails decode = true := by
  rcases reply.outcome_cases decode with
    ⟨rejects, reason, told⟩ | ⟨result, granted, told⟩ | ⟨fails, failed⟩
  · rw [told, fails_eq_true_iff, rejects]
    refine ⟨?_, nofun⟩
    rintro ⟨_, ⟨⟩, other⟩
    exact absurd rfl (other reason)
  · rw [told, fails_eq_true_iff, granted]
    exact ⟨nofun, nofun⟩
  · exact ⟨fun _ => fails, fun _ => failed⟩

end Reply

theorem decoded_of_optional? {value : Option Json} {result : Result}
    (read : optional? decode value = some (some result)) : ∃ part, decode part = some result := by
  cases value with
  | none => cases read
  | some part =>
    cases part with
    | null => cases read
    | _ =>
      obtain ⟨_, decoded, same⟩ := Option.map_eq_some_iff.mp read
      cases same
      exact ⟨_, decoded⟩

/-- Whatever is in an envelope has been decoded. -/
theorem Envelope.decoded_of_ofJson? {value : Json} {envelope : Envelope Result} {result : Result}
    (read : Envelope.ofJson? decode value = some envelope) (given : envelope.result = some result) :
    ∃ part, decode part = some result := by
  unfold ofJson? at read
  simp only [Option.bind_eq_bind, Option.bind_eq_some_iff] at read
  obtain ⟨fields, -, read⟩ := read
  split at read
  next =>
    obtain ⟨_, -, read⟩ := Option.bind_eq_some_iff.mp read
    split at read
    next =>
      simp only [Option.bind_eq_some_iff, Option.some.injEq] at read
      obtain ⟨_, resultRead, _, -, _, -, rfl⟩ := read
      obtain rfl := given
      exact decoded_of_optional? resultRead
    next => cases read
  next => cases read

/-- Whatever a reply grants has been decoded. -/
theorem Reply.decoded_of_granted? {reply : Reply} {result : Result}
    (granted : reply.granted? decode = some result) : ∃ part, decode part = some result := by
  unfold granted? at granted
  split at granted
  next => cases granted
  next =>
    obtain ⟨envelope, there, given⟩ := Option.bind_eq_some_iff.mp granted
    split at given
    next =>
      cases reply with
      | lost => cases there
      | received status body =>
        obtain ⟨value, -, read⟩ := Option.bind_eq_some_iff.mp there
        exact Envelope.decoded_of_ofJson? read given
    next => cases given

end BotHost.Telegram
