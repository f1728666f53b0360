import Zrotext.Domain.Conduct
import Zrotext.Foundation.Table

/-!
# What the authority guarantees

Which messages have a grant, which keys name which messages, which session of a
device is current, and whether a message can be granted again once there is
evidence that it was sent.
-/

namespace Zrotext.Domain

open Foundation List Finmap

namespace MessageState

/-- States in which a message may have a grant. -/
def mayHold : MessageState → Bool
  | .accepted | .queued | .cancelled | .expired => false
  | _ => true

/-- States that a message has after evidence that it was sent. -/
def isPastSend : MessageState → Bool
  | .submitted | .delivered | .deliveryUnknown | .unknown | .failed => true
  | _ => false

variable {state : MessageState} {next : MessageState}

theorem mayHold_of_apply (holds : state.mayHold) (applies : state.apply evidence = .ok next)
    (continues : Authority.isEnding evidence = false) (notProof : evidence ≠ .provenNoSubmit) :
    next.mayHold := by
  cases state <;> cases evidence <;> cases applies <;> simp_all [mayHold, Authority.isEnding]

theorem apply_ne_accepted (applies : state.apply evidence = .ok next) : next ≠ .accepted := by
  cases state <;> cases evidence <;> cases applies <;> decide

theorem isPastSend_of_apply (isPast : state.isPastSend)
    (applies : state.apply evidence = .ok next)
    (unproven : evidence = .provenNoSubmit → state ≠ .unknown) : next.isPastSend := by
  cases state <;> cases evidence <;> cases applies <;> simp_all [isPastSend]

theorem isPastSend_of_sent (isSent : evidence = .sentCallbackOk ∨ evidence = .sentCallbackFailed)
    (applies : state.apply evidence = .ok next) : next.isPastSend := by
  rcases isSent with rfl | rfl <;> cases state <;> cases applies <;> rfl

end MessageState

namespace Authority

/-- Granted messages are under way, and no message is merely accepted. -/
structure GrantsHeld (authority : Authority) : Prop where
  held : ∀ id grant, authority.grants.lookup id = some grant →
    ∃ state, authority.messages.lookup id = some state ∧ state.mayHold = true
  underWay : ∀ id, authority.messages.lookup id ≠ some .accepted

theorem GrantsHeld.underWay_insert (grantsHeld : GrantsHeld authority) {messageId : Identifier}
    {state : MessageState} (isUnderWay : state ≠ .accepted) (id : Identifier) :
    (authority.messages.insert messageId state).lookup id ≠ some .accepted := by
  by_cases same : id = messageId
  · rw [same, lookup_insert]
    exact fun isAccepted => isUnderWay (Option.some.inj isAccepted)
  · rw [lookup_insert_of_ne _ same]
    exact grantsHeld.underWay id

/-- A message that is new leaves the states of the others. -/
theorem lookup_insert_new {authority : Authority} {id : Identifier}
    (isNew : messageId ∉ authority.messages) (isState : authority.messages.lookup id = some state) :
    (authority.messages.insert messageId first).lookup id = some state := by
  refine (lookup_insert_of_ne _ ?_).trans isState
  rintro rfl
  exact isNew (mem_of_lookup_eq_some isState)

theorem GrantsHeld.transition {after : Authority} (grantsHeld : GrantsHeld authority)
    (transition : Transition authority call answer after) :
    GrantsHeld after := by
  cases transition with
  | replayed => exact grantsHeld
  | connected => exact ⟨grantsHeld.held, grantsHeld.underWay⟩
  | accepted _ isNew =>
    refine ⟨?_, grantsHeld.underWay_insert (by decide)⟩
    intro id grant found
    obtain ⟨state, isState, holds⟩ := grantsHeld.held id grant found
    exact ⟨state, lookup_insert_new isNew isState, holds⟩
  | @granted _ messageId =>
    refine ⟨?_, grantsHeld.underWay_insert (by decide)⟩
    intro id grant found
    by_cases same : id = messageId
    · exact ⟨.claimed, by rw [same, lookup_insert], rfl⟩
    · rw [lookup_insert_of_ne _ same] at found
      obtain ⟨state, isState, holds⟩ := grantsHeld.held id grant found
      exact ⟨state, (lookup_insert_of_ne _ same).trans isState, holds⟩
  | @moved messageId evidence state next isState applies ungranted =>
    refine ⟨?_, grantsHeld.underWay_insert (MessageState.apply_ne_accepted applies)⟩
    intro id grant found
    simp only [move] at found
    by_cases same : id = messageId
    · subst same
      refine ⟨next, lookup_insert _, ?_⟩
      have notProof : evidence ≠ .provenNoSubmit := by
        rintro rfl
        rw [if_pos rfl, lookup_erase] at found
        cases found
      rw [if_neg notProof] at found
      obtain ⟨known, isKnown, holds⟩ := grantsHeld.held id grant found
      rw [isState] at isKnown
      cases isKnown
      refine MessageState.mayHold_of_apply holds applies ?_ notProof
      rw [← Bool.not_eq_true]
      exact fun ends => ungranted ends (mem_of_lookup_eq_some found)
    · have kept : authority.grants.lookup id = some grant := by
        split_ifs at found
        · rwa [lookup_erase_ne same] at found
        · exact found
      obtain ⟨known, isKnown, holds⟩ := grantsHeld.held id grant kept
      exact ⟨known, (lookup_insert_of_ne _ same).trans isKnown, holds⟩

/-- The key and the message of an accepted request. -/
def Exchange.acceptedAs (exchange : Exchange) : Option ((Identifier × Text) × Identifier) :=
  match exchange.call, exchange.answer with
  | .accept accountId key _ _, .ok (.message id) => some ((accountId, key), id)
  | _, _ => none

/-- The session that a call has returned. -/
def Exchange.session (exchange : Exchange) : Option Session :=
  match exchange.answer with
  | .ok (.session session) => some session
  | _ => none

end Authority

namespace Conduct

open Authority

/-- Keys name distinct messages that exist, and the ones that were answered. -/
structure KeysKept (conduct : Conduct) : Prop where
  known : ∀ key digest id, conduct.authority.idempotency.lookup key = some (digest, id) →
      id ∈ conduct.authority.messages
  distinct : ∀ key other digest otherDigest id,
    conduct.authority.idempotency.lookup key = some (digest, id) →
      conduct.authority.idempotency.lookup other = some (otherDigest, id) → key = other
  answered : ∀ exchange ∈ conduct.exchanges, ∀ key id, exchange.acceptedAs = some (key, id) →
      ∃ digest, conduct.authority.idempotency.lookup key = some (digest, id)

variable {after : Authority} {conduct : Conduct}

/-- A call that changes no key and keeps the messages. -/
theorem KeysKept.same (keysKept : KeysKept conduct)
    (sameKeys : after.idempotency = conduct.authority.idempotency)
    (sameMessages : ∀ id ∈ conduct.authority.messages, id ∈ after.messages)
    (isKnown : ∀ key id, exchange.acceptedAs = some (key, id) →
      ∃ digest, conduct.authority.idempotency.lookup key = some (digest, id)) :
    KeysKept ⟨after, conduct.exchanges ++ [exchange]⟩ where
  known := by
    intro key digest id found
    rw [sameKeys] at found
    exact sameMessages id (keysKept.known key digest id found)
  distinct := by
    rw [sameKeys]
    exact keysKept.distinct
  answered := by
    rw [sameKeys]
    exact Table.forall_mem_concat keysKept.answered isKnown

theorem KeysKept.accept (keysKept : KeysKept conduct)
    (isNewKey : conduct.authority.idempotency.lookup (accountId, key) = none)
    (isNew : messageId ∉ conduct.authority.messages) : KeysKept
      { authority :=
conduct.authority.queue accountId key digest messageId
        exchanges := conduct.exchanges ++
          [⟨.accept accountId key digest messageId,
            .ok (.message messageId)⟩] } where
  known := by
    intro other otherDigest id found
    by_cases same : other = (accountId, key)
    · rw [same, lookup_insert] at found
      cases found
      exact mem_insert.mpr (.inl rfl)
    · rw [lookup_insert_of_ne _ same] at found
      exact mem_insert.mpr (.inr (keysKept.known _ _ _ found))
  distinct := by
    intro first second firstDigest secondDigest id isFirst isSecond
    by_cases sameFirst : first = (accountId, key)
    · by_cases sameSecond : second = (accountId, key)
      · exact sameFirst.trans sameSecond.symm
      · rw [sameFirst, lookup_insert] at isFirst
        rw [lookup_insert_of_ne _ sameSecond] at isSecond
        cases isFirst
        exact absurd (keysKept.known _ _ _ isSecond) isNew
    · rw [lookup_insert_of_ne _ sameFirst] at isFirst
      by_cases sameSecond : second = (accountId, key)
      · rw [sameSecond, lookup_insert] at isSecond
        cases isSecond
        exact absurd (keysKept.known _ _ _ isFirst) isNew
      · rw [lookup_insert_of_ne _ sameSecond] at isSecond
        exact keysKept.distinct _ _ _ _ _ isFirst isSecond
  answered := by
    refine Table.forall_mem_concat ?_ ?_
    · intro exchange listed other id isKey
      obtain ⟨otherDigest, found⟩ := keysKept.answered exchange listed other id isKey
      refine ⟨otherDigest, (lookup_insert_of_ne _ ?_).trans found⟩
      rintro rfl
      rw [isNewKey] at found
      cases found
    · rintro _ _ ⟨⟩
      exact ⟨digest, lookup_insert _⟩

theorem KeysKept.transition (keysKept : KeysKept conduct)
    (transition : Transition conduct.authority call answer after) :
    KeysKept ⟨after, conduct.exchanges ++ [⟨call, .ok answer⟩]⟩ := by
  cases transition with
  | @replayed accountId key digest messageId existingId found =>
    refine keysKept.same rfl (fun _ => id) ?_
    intro other id isKey
    cases isKey
    exact ⟨digest, found⟩
  | accepted isNewKey isNew => exact keysKept.accept isNewKey isNew
  | connected =>
    exact keysKept.same rfl (fun _ => id) nofun
  | granted | moved =>
    exact keysKept.same rfl (fun _ known => mem_insert.mpr (.inr known))
      nofun

/-- The sessions that were returned for a device, the oldest first. -/
def sessionsOf (deviceId : Identifier) (conduct : Conduct) : List Session :=
  (conduct.exchanges.filterMap Exchange.session).filter fun session =>
    decide (session.deviceId = deviceId)

/-- The current session of a device is the one that was returned last, and the
epochs increase. -/
structure SessionsKept (conduct : Conduct) : Prop where
  latest : ∀ deviceId, (conduct.sessionsOf deviceId).getLast? =
    conduct.authority.sessions.lookup deviceId
  increasing : ∀ deviceId, ((conduct.sessionsOf deviceId).map Session.epoch).Pairwise (· < ·)

theorem sessionsOf_append_none (noSession : exchange.session = none) (deviceId : Identifier) :
    (Conduct.mk after (conduct.exchanges ++ [exchange])).sessionsOf deviceId =
      conduct.sessionsOf deviceId := by
  unfold sessionsOf
  simp [noSession]

section

variable (sessionsKept : SessionsKept conduct)

include sessionsKept

theorem SessionsKept.same (sameSessions : after.sessions = conduct.authority.sessions)
    (noSession : exchange.session = none) :
    SessionsKept ⟨after, conduct.exchanges ++ [exchange]⟩ where
  latest := by
    intro deviceId
    rw [sessionsOf_append_none noSession, sameSessions]
    exact sessionsKept.latest deviceId
  increasing := by
    intro deviceId
    rw [sessionsOf_append_none noSession]
    exact sessionsKept.increasing deviceId

/-- Every earlier epoch of a device is at most the current one. -/
theorem SessionsKept.le_current (listed : session ∈ conduct.sessionsOf deviceId)
    (isCurrent : conduct.authority.sessions.lookup deviceId = some current) :
    session.epoch ≤ current.epoch := by
  have isLast := (sessionsKept.latest deviceId).trans isCurrent
  obtain ⟨earlier, split⟩ := getLast?_eq_some_iff.mp isLast
  have increasing := sessionsKept.increasing deviceId
  rw [split] at listed increasing
  rw [map_append, pairwise_append] at increasing
  rcases mem_append.mp listed with isEarlier | isSame
  · exact le_of_lt (increasing.2.2 _ (mem_map_of_mem isEarlier) _
      (mem_map_of_mem (List.mem_singleton_self current)))
  · rw [List.mem_singleton.mp isSame]

theorem SessionsKept.connect {session : Session}
    (isDevice : session.deviceId = deviceId) (increases : ∀ prior,
      conduct.authority.sessions.lookup deviceId = some prior → prior.epoch < session.epoch) :
    SessionsKept
      { authority :=
          { conduct.authority with
            sessions := conduct.authority.sessions.insert deviceId session }
        exchanges := conduct.exchanges ++
          [⟨.connect deviceId siteId instanceId nowMs leaseMs,
            .ok (.session session)⟩] } := by
  have sessions : ∀ other, (Conduct.mk
      { conduct.authority with
        sessions := conduct.authority.sessions.insert deviceId session }
      (conduct.exchanges ++ [⟨.connect deviceId siteId instanceId nowMs leaseMs,
          .ok (.session session)⟩])).sessionsOf other =
      conduct.sessionsOf other ++
        if deviceId = other then [session] else [] := by
    intro other
    unfold sessionsOf
    rw [filterMap_append, filter_append, ← isDevice]
    congr 1
    by_cases same : session.deviceId = other <;> simp [Exchange.session, same]
  constructor
  · intro other
    rw [sessions]
    by_cases same : deviceId = other
    · rw [if_pos same, getLast?_concat, ← same, lookup_insert]
    · rw [if_neg same, append_nil, lookup_insert_of_ne _ (Ne.symm same)]
      exact sessionsKept.latest other
  · intro other
    rw [sessions]
    by_cases same : deviceId = other
    · rw [if_pos same, map_append, pairwise_append]
      refine ⟨sessionsKept.increasing other, pairwise_singleton _ _, ?_⟩
      intro epoch isEpoch last isLast
      rw [map_singleton, List.mem_singleton] at isLast
      obtain ⟨earlier, listed, rfl⟩ := mem_map.mp isEpoch
      rw [isLast]
      cases isCurrent : conduct.authority.sessions.lookup other with
      | none =>
        have isEmpty := (sessionsKept.latest other).trans isCurrent
        rw [getLast?_eq_none_iff] at isEmpty
        rw [isEmpty] at listed
        cases listed
      | some current =>
        exact lt_of_le_of_lt (sessionsKept.le_current listed isCurrent)
          (increases current (same ▸ isCurrent))
    · rw [if_neg same, append_nil]
      exact sessionsKept.increasing other

theorem SessionsKept.transition (transition : Transition conduct.authority call answer after) :
    SessionsKept ⟨after, conduct.exchanges ++ [⟨call, .ok answer⟩]⟩ := by
  cases transition with
  | replayed | accepted | granted | moved => exact sessionsKept.same rfl rfl
  | connected isDevice increases =>
    exact sessionsKept.connect isDevice increases

end

/-- Grants, keys and sessions are as they should be. -/
structure Invariant (conduct : Conduct) : Prop where
  grantsHeld : conduct.authority.GrantsHeld
  keysKept : conduct.KeysKept
  sessionsKept : conduct.SessionsKept

theorem Invariant.step {after : Conduct} (invariant : Invariant conduct)
    (steps : conduct.Steps input after) : Invariant after := by
  cases steps with
  | toggled =>
    exact ⟨⟨invariant.grantsHeld.held, invariant.grantsHeld.underWay⟩,
      ⟨invariant.keysKept.known, invariant.keysKept.distinct, invariant.keysKept.answered⟩,
      ⟨invariant.sessionsKept.latest, invariant.sessionsKept.increasing⟩⟩
  | @refused call rejection =>
    have noKey : (Exchange.mk call (.error rejection)).acceptedAs = none := by
      cases call <;> rfl
    refine ⟨invariant.grantsHeld, invariant.keysKept.same rfl (fun _ => id) ?_,
      invariant.sessionsKept.same rfl rfl⟩
    intro key id isKey
    rw [noKey] at isKey
    cases isKey
  | answered transition =>
    exact ⟨invariant.grantsHeld.transition transition, invariant.keysKept.transition transition,
      invariant.sessionsKept.transition transition⟩

theorem invariant_run (deploymentEpoch : U64) (inputs : List Input) :
    Invariant (run inputs (start deploymentEpoch)) :=
  run_keeps ⟨⟨nofun, nofun⟩, ⟨nofun, nofun, nofun⟩, ⟨fun _ => rfl, fun _ => .nil⟩⟩
    (fun _ _ _ invariant steps => invariant.step steps) inputs

/-- What holds of the authority at any moment. -/
structure Lawful (conduct : Conduct) : Prop where
  /-- Only accepted messages have a grant, and none that is queued, cancelled
  or expired. -/
  grants : ∀ id grant, conduct.authority.grants.lookup id = some grant →
    ∃ state, conduct.authority.messages.lookup id = some state ∧
      state ≠ .queued ∧ state ≠ .cancelled ∧ state ≠ .expired
  /-- Keys name existing messages, and distinct keys distinct ones. -/
  keys : ∀ key digest id, conduct.authority.idempotency.lookup key = some (digest, id) →
      id ∈ conduct.authority.messages ∧ ∀ other otherDigest otherId,
        conduct.authority.idempotency.lookup other =
          some (otherDigest, otherId) → other ≠ key → otherId ≠ id
  /-- All requests that were accepted under a key have the same message. -/
  repeated : ∀ exchange ∈ conduct.exchanges, ∀ other ∈ conduct.exchanges,
    ∀ key id otherId, exchange.acceptedAs = some (key, id) →
      other.acceptedAs = some (key, otherId) → otherId = id
  /-- The epochs of a device increase. -/
  epochs : ∀ deviceId, ((conduct.sessionsOf deviceId).map Session.epoch).Pairwise (· < ·)
  /-- Only the session that a device was given last can obtain a grant, and the
  grant has the current epoch of the device. -/
  current : ∀ session messageId attemptId generation recipientDigest nowMs expiresAtMs issued after,
    conduct.authority.respond (.grant session messageId attemptId generation
      recipientDigest nowMs expiresAtMs) = (.ok (.grant issued), after) →
      (conduct.sessionsOf session.deviceId).getLast? = some session ∧
      ∃ held, conduct.authority.sessions.lookup session.deviceId =
        some held ∧ issued.sessionEpoch = held.epoch
  /-- A refused call leaves the authority as it is. -/
  refused : ∀ call rejection after, conduct.authority.respond call = (.error rejection, after) →
      after = conduct.authority

theorem Invariant.lawful (invariant : Invariant conduct) : Lawful conduct where
  grants := by
    intro id grant found
    obtain ⟨state, isState, holds⟩ := invariant.grantsHeld.held id grant found
    refine ⟨state, isState, ?_, ?_, ?_⟩ <;>
      · rintro rfl
        cases holds
  keys := by
    intro key digest id found
    refine ⟨invariant.keysKept.known key digest id found, ?_⟩
    rintro other otherDigest otherId otherFound different rfl
    exact different (invariant.keysKept.distinct _ _ _ _ _ otherFound found)
  repeated := by
    intro exchange listed other otherListed key id otherId isKey otherKey
    obtain ⟨digest, found⟩ := invariant.keysKept.answered exchange listed key id isKey
    obtain ⟨otherDigest, otherFound⟩ :=
      invariant.keysKept.answered other otherListed key otherId otherKey
    rw [found] at otherFound
    cases otherFound
    rfl
  epochs := invariant.sessionsKept.increasing
  current := by
    intro session messageId attemptId generation recipientDigest nowMs
      expiresAtMs issued after result
    have spec := conduct.authority.respond_spec
      (.grant session messageId attemptId generation recipientDigest nowMs expiresAtMs)
    rw [result] at spec
    cases spec with
    | granted isSession _ _ isEpoch =>
      exact ⟨(invariant.sessionsKept.latest session.deviceId).trans
        isSession, session, isSession, isEpoch⟩
  refused := by
    intro call rejection after result
    have spec := conduct.authority.respond_spec call
    rw [result] at spec
    exact spec

/-- The authority is lawful after every sequence of calls and changes of its
public fields. -/
theorem authority_lawful (deploymentEpoch : U64) (inputs : List Input) :
    Lawful (run inputs (start deploymentEpoch)) :=
  (invariant_run deploymentEpoch inputs).lawful

/-! ## Grants after evidence of sending -/

end Conduct

namespace Authority

/-- A call that brought evidence that a message was sent. -/
def Exchange.Sent (id : Identifier) (exchange : Exchange) : Prop :=
  ∃ evidence answer, exchange = ⟨.event id evidence, .ok answer⟩ ∧
    (evidence = .sentCallbackOk ∨ evidence = .sentCallbackFailed)

/-- A call that granted a message. -/
def Exchange.Granted (id : Identifier) (exchange : Exchange) : Prop :=
  ∃ session attemptId generation recipientDigest nowMs expiresAtMs answer,
    exchange = ⟨.grant session id attemptId generation recipientDigest nowMs
      expiresAtMs, .ok answer⟩

end Authority

namespace Conduct

open Authority

/-- No message is granted after evidence that it was sent. -/
def NoGrantAfterSend (conduct : Conduct) : Prop :=
  conduct.exchanges.Pairwise fun earlier later => ∀ id, earlier.Sent id → ¬ later.Granted id

/-- A proof that a message was not submitted is not brought in for a message in
doubt that evidence says was sent. -/
def Consistent (conduct : Conduct) (input : Input) : Prop :=
  ∀ id, input = .call (.event id .provenNoSubmit) →
    conduct.authority.messages.lookup id = some .unknown →
      ∀ exchange ∈ conduct.exchanges, ¬ exchange.Sent id

/-- Every input of a run is consistent when it is made. -/
def AllConsistent : List Input → Conduct → Prop
  | [], _ => True
  | input :: rest, conduct =>
    conduct.Consistent input ∧ AllConsistent rest (conduct.step input)

/-- Messages that were sent stay past it, and none was granted again. -/
structure SendsKept (conduct : Conduct) : Prop where
  isPast : ∀ id, (∃ exchange ∈ conduct.exchanges, exchange.Sent id) →
    ∃ state, conduct.authority.messages.lookup id = some state ∧ state.isPastSend = true
  noGrant : conduct.NoGrantAfterSend

variable {conduct : Conduct} {after : Authority}

theorem exists_sent_append {id : Identifier}
    (isSent : ∃ exchange ∈ conduct.exchanges ++ [last], exchange.Sent id) :
    (∃ exchange ∈ conduct.exchanges, exchange.Sent id) ∨ last.Sent id := by
  obtain ⟨exchange, listed, sent⟩ := isSent
  rcases mem_append.mp listed with isOld | isLast
  · exact .inl ⟨exchange, isOld, sent⟩
  · exact .inr (List.mem_singleton.mp isLast ▸ sent)

section

variable (sendsKept : SendsKept conduct)

include sendsKept

/-- A call that leaves sent messages past it and grants none of them. -/
theorem SendsKept.append (isPast : ∀ id, ((∃ exchange ∈ conduct.exchanges, exchange.Sent id) ∨
      last.Sent id) → ∃ state, after.messages.lookup id = some state ∧ state.isPastSend)
    (noGrant : ∀ id, (∃ exchange ∈ conduct.exchanges, exchange.Sent id) → ¬ last.Granted id) :
    SendsKept ⟨after, conduct.exchanges ++ [last]⟩ where
  isPast := fun id isSent => isPast id (exists_sent_append isSent)
  noGrant := by
    unfold NoGrantAfterSend
    rw [pairwise_append]
    refine ⟨sendsKept.noGrant, pairwise_singleton _ _, ?_⟩
    intro earlier listed later isLast id sent
    rw [List.mem_singleton.mp isLast]
    exact noGrant id ⟨earlier, listed, sent⟩

/-- A call that is neither evidence of sending nor a grant, and keeps the states
of messages. -/
theorem SendsKept.quiet (notSent : ∀ id, ¬ last.Sent id) (notGranted : ∀ id, ¬ last.Granted id)
    (kept : ∀ id state, conduct.authority.messages.lookup id = some state →
      after.messages.lookup id = some state) :
    SendsKept ⟨after, conduct.exchanges ++ [last]⟩ := by
  refine sendsKept.append ?_ fun id _ => notGranted id
  rintro id (isSent | sent)
  · obtain ⟨state, isState, isPast⟩ := sendsKept.isPast id isSent
    exact ⟨state, kept id state isState, isPast⟩
  · exact absurd sent (notSent id)

theorem SendsKept.transition (consistent : conduct.Consistent (.call call))
    (transition : Transition conduct.authority call answer after) :
    SendsKept ⟨after, conduct.exchanges ++ [⟨call, .ok answer⟩]⟩ := by
  cases transition with
  | replayed | connected | accepted =>
    refine sendsKept.quiet ?_ ?_ ?_
    · rintro id ⟨_, _, impossible, _⟩
      cases impossible
    · rintro id ⟨_, _, _, _, _, _, _, impossible⟩
      cases impossible
    · intro id state isState
      first | exact isState | exact lookup_insert_new ‹_› isState
  | @granted _ messageId _ _ _ _ _ _ _ _ isQueued _ =>
    have unsent : ¬ ∃ exchange ∈ conduct.exchanges, exchange.Sent messageId := by
      intro isSent
      obtain ⟨state, isState, isPast⟩ := sendsKept.isPast messageId isSent
      rw [isQueued] at isState
      cases isState
      cases isPast
    refine sendsKept.append ?_ ?_
    · rintro id (isSent | ⟨_, _, impossible, _⟩)
      · obtain ⟨state, isState, isPast⟩ := sendsKept.isPast id isSent
        have different : id ≠ messageId := by
          rintro rfl
          exact unsent isSent
        exact ⟨state, (lookup_insert_of_ne _ different).trans isState, isPast⟩
      · cases impossible
    · rintro id isSent ⟨_, _, _, _, _, _, _, isGrant⟩
      cases isGrant
      exact unsent isSent
  | @moved messageId evidence state next isState applies _ =>
    refine sendsKept.append ?_ ?_
    · rintro id (isSent | ⟨_, _, isEvent, sent⟩)
      · obtain ⟨known, isKnown, isPast⟩ := sendsKept.isPast id isSent
        by_cases same : id = messageId
        · subst same
          rw [isState] at isKnown
          cases isKnown
          refine ⟨next, lookup_insert _, MessageState.isPastSend_of_apply isPast applies ?_⟩
          rintro rfl rfl
          obtain ⟨exchange, listed, sent⟩ := isSent
          exact consistent id rfl isState exchange listed sent
        · exact ⟨known, (lookup_insert_of_ne _ same).trans isKnown, isPast⟩
      · cases isEvent
        exact ⟨next, lookup_insert _, MessageState.isPastSend_of_sent sent applies⟩
    · rintro id _ ⟨_, _, _, _, _, _, _, impossible⟩
      cases impossible

theorem SendsKept.step {after : Conduct}
    (consistent : conduct.Consistent input) (steps : conduct.Steps input after) :
    SendsKept after := by
  cases steps with
  | toggled => exact ⟨sendsKept.isPast, sendsKept.noGrant⟩
  | refused =>
    refine sendsKept.quiet ?_ ?_ fun _ _ isState => isState
    · rintro id ⟨_, _, impossible, _⟩
      cases impossible
    · rintro id ⟨_, _, _, _, _, _, _, impossible⟩
      cases impossible
  | answered transition => exact sendsKept.transition consistent transition

theorem SendsKept.run
    (consistent : AllConsistent inputs conduct) : SendsKept (run inputs conduct) := by
  induction inputs generalizing conduct with
  | nil => exact sendsKept
  | cons input rest ih =>
    exact ih (sendsKept.step consistent.1 (steps_step conduct input)) consistent.2

end

/-- In every run whose inputs are consistent, no message is granted after
evidence that it was sent. -/
theorem no_grant_after_send (deploymentEpoch : U64) (inputs : List Input)
    (consistent : AllConsistent inputs (start deploymentEpoch)) :
    NoGrantAfterSend (run inputs (start deploymentEpoch)) := by
  have sendsKept : SendsKept (start deploymentEpoch) := ⟨nofun, .nil⟩
  exact (sendsKept.run consistent).noGrant

/-- A message is accepted and granted to a device. -/
def granting : List Input :=
  [.call (.accept 1 ['k'] ['d'] 2), .call (.connect 3 ['a'] ['h'] 0 60),
    .call (.grant ⟨3, ['a'], ['h'], 1, 60⟩ 2 4 1 ['r'] 0 100)]

/-- The message is granted again. -/
def regranting : Call := .grant ⟨3, ['a'], ['h'], 1, 60⟩ 2 5 2 ['r'] 0 100

/-- A message is proved not submitted, granted again and sent. -/
def requeued : List Input :=
  granting ++ [.call (.event 2 .provenNoSubmit), .call regranting,
    .call (.event 2 .durableSubmitIntent), .call (.event 2 .sentCallbackOk)]

/-- A message that was proved not submitted may be granted again. -/
theorem no_grant_after_send_requeued : NoGrantAfterSend (run requeued (start 1)) := by
  refine no_grant_after_send 1 requeued ⟨nofun, nofun, nofun, ?_, nofun, nofun,
    nofun, trivial⟩
  intro id isInput inDoubt
  cases isInput
  exact absurd inDoubt (by decide)

/-- A message is sent, its callbacks contradict each other, and a proof that it
was not submitted is brought in. -/
def contradicted : List Input :=
  granting ++ [.call (.event 2 .durableSubmitIntent), .call (.event 2 .sentCallbackOk),
    .call (.event 2 .callbackConflict), .call (.event 2 .provenNoSubmit), .call regranting]

/-- The message is granted again although it was sent. -/
theorem grant_after_send : ¬ NoGrantAfterSend (run contradicted (start 1)) := by
  intro noGrant
  have sent : (run contradicted (start 1)).exchanges[4]? =
      some ⟨.event 2 .sentCallbackOk, .ok (.state .submitted)⟩ := rfl
  have granted : (run contradicted (start 1)).exchanges[7]? =
      some ⟨regranting, .ok (.grant ⟨2, 5, 3, 1, 1, 2, ['r'], 100⟩)⟩ := rfl
  obtain ⟨earlier, isEarlier⟩ := List.getElem?_eq_some_iff.mp sent
  obtain ⟨later, isLater⟩ := List.getElem?_eq_some_iff.mp granted
  refine pairwise_iff_getElem.mp noGrant 4 7 earlier later (by decide) 2 ?_ ?_
  · rw [isEarlier]
    exact ⟨_, _, rfl, .inl rfl⟩
  · rw [isLater]
    exact ⟨_, _, _, _, _, _, _, rfl⟩

end Conduct
end Zrotext.Domain
