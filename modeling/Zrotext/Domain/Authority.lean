import Zrotext.Domain.MessageState
import Zrotext.Foundation.Text
import Zrotext.Foundation.Word

/-!
# The authority of one writer

A deterministic stand-in for the transactions against one writer: accounts
bring in messages, hubs connect devices, a message is granted to a session, and
evidence moves it.
-/

namespace Zrotext.Domain

open Foundation

/-- A session of a device with a hub. -/
structure Session where
  deviceId : Identifier
  (siteId instanceId : Text)
  (epoch leaseUntilMs : U64)
deriving DecidableEq

/-- A permission to send a message in a session. -/
structure Grant where
  (messageId attemptId deviceId : Identifier)
  (sessionEpoch deploymentEpoch generation : U64)
  recipientDigest : Text
  expiresAtMs : U64
deriving DecidableEq

/-- Why the authority refuses a call. -/
inductive Rejection
  | writerUnavailable | dispatchDisabled | sessionStale | leaseExpired | grantAlreadyIssued
  | deviceBusy | duplicateKeyDifferentRequest | messageIdConflict | invalidSessionRange
  | invalidState
deriving DecidableEq

/-- The state of the writer. -/
structure Authority where
  (writerAvailable dispatchEnabled : Bool)
  deploymentEpoch : U64
  sessions : Finmap fun _ : Identifier => Session
  messages : Finmap fun _ : Identifier => MessageState
  grants : Finmap fun _ : Identifier => Grant
  idempotency : Finmap fun _ : Identifier × Text => Text × Identifier

namespace Authority

/-- The writer before any call. -/
def new (deploymentEpoch : U64) : Authority :=
  { writerAvailable := true, dispatchEnabled := true, deploymentEpoch, sessions := ∅, messages := ∅
    grants := ∅, idempotency := ∅ }

variable (authority : Authority)

/-- A new message is queued under its key. -/
abbrev queue (accountId : Identifier) (key requestDigest : Text)
    (messageId : Identifier) : Authority :=
  { authority with
    idempotency := authority.idempotency.insert (accountId, key) (requestDigest, messageId)
    messages := authority.messages.insert messageId .queued }

/-- Accept a message under the key of its account. -/
def accept (accountId : Identifier) (key requestDigest : Text)
    (messageId : Identifier) : Except Rejection (Identifier × Authority) :=
  if ¬ authority.writerAvailable then
    .error .writerUnavailable
  else
    match authority.idempotency.lookup (accountId, key) with
    | some (digest, existingId) =>
      if digest = requestDigest then
        .ok (existingId, authority)
      else
        .error .duplicateKeyDifferentRequest
    | none =>
      if messageId ∈ authority.messages then
        .error .messageIdConflict
      else
        .ok (messageId, authority.queue accountId key requestDigest messageId)

/-- The epoch of the next session of a device. -/
def nextEpoch (deviceId : Identifier) : Option U64 :=
  match authority.sessions.lookup deviceId with
  | some prior => Word.checkedAdd prior.epoch 1
  | none => some 1

/-- Connect a device in a new session. -/
def connect (deviceId : Identifier) (siteId instanceId : Text)
    (nowMs leaseMs : U64) : Except Rejection (Session × Authority) :=
  if ¬ authority.writerAvailable then
    .error .writerUnavailable
  else
    match authority.nextEpoch deviceId, Word.checkedAdd nowMs leaseMs with
    | some epoch, some leaseUntilMs =>
      let session : Session :=
        { deviceId, siteId, instanceId, epoch, leaseUntilMs }
      .ok (session,
        { authority with
          sessions := authority.sessions.insert deviceId session })
    | _, _ => .error .invalidSessionRange

/-- States in which a granted message keeps its device busy. -/
def isBusy : MessageState → Bool
  | .claimed | .submitting | .unknown => true
  | _ => false

/-- Some granted message keeps a device busy. -/
def DeviceBusy (deviceId : Identifier) : Prop :=
  ∃ entry ∈ authority.grants.entries, entry.2.deviceId = deviceId ∧
    (authority.messages.lookup entry.2.messageId).any isBusy = true

instance (authority : Authority) (deviceId : Identifier) :
    Decidable (authority.DeviceBusy deviceId) :=
  Multiset.decidableExistsMultiset

/-- The grant that a session would get. -/
abbrev issue (session : Session) (messageId attemptId : Identifier) (generation : U64)
    (recipientDigest : Text) (expiresAtMs : U64) : Grant :=
  { messageId, attemptId, deviceId := session.deviceId, sessionEpoch := session.epoch
    deploymentEpoch := authority.deploymentEpoch, generation, recipientDigest, expiresAtMs }

/-- A message is claimed under a grant. -/
abbrev claim (messageId : Identifier) (grant : Grant) : Authority :=
  { authority with
    grants := authority.grants.insert messageId grant
    messages := authority.messages.insert messageId .claimed }

/-- Grant a queued message to the current session of a free device. -/
def grant (authority : Authority) (session : Session) (messageId attemptId : Identifier)
    (generation : U64) (recipientDigest : Text)
    (nowMs expiresAtMs : U64) : Except Rejection (Grant × Authority) :=
  if ¬ authority.writerAvailable then
    .error .writerUnavailable
  else if ¬ authority.dispatchEnabled then
    .error .dispatchDisabled
  else if authority.sessions.lookup session.deviceId ≠ some session then
    .error .sessionStale
  else if session.leaseUntilMs ≤ nowMs ∨ expiresAtMs ≤ nowMs then
    .error .leaseExpired
  else if messageId ∈ authority.grants then
    .error .grantAlreadyIssued
  else if authority.DeviceBusy session.deviceId then
    .error .deviceBusy
  else if authority.messages.lookup messageId ≠ some .queued then
    .error .invalidState
  else
    let grant :=
      authority.issue session messageId attemptId generation recipientDigest expiresAtMs
    .ok (grant, authority.claim messageId grant)

/-- Evidence that ends a message without a grant. -/
def isEnding : Evidence → Bool
  | .cancel | .expire => true
  | _ => false

/-- A message moves on evidence; a no-submit proof takes its grant back. -/
abbrev move (messageId : Identifier) (evidence : Evidence) (next : MessageState) : Authority :=
  { authority with
    messages := authority.messages.insert messageId next
    grants :=
      if evidence = .provenNoSubmit then authority.grants.erase messageId else authority.grants }

/-- Apply evidence to a message. -/
def event (messageId : Identifier)
    (evidence : Evidence) : Except Rejection (MessageState × Authority) :=
  if ¬ authority.writerAvailable then
    .error .writerUnavailable
  else if isEnding evidence = true ∧ messageId ∈ authority.grants then
    .error .grantAlreadyIssued
  else
    match authority.messages.lookup messageId with
    | none => .error .invalidState
    | some state =>
      match state.apply evidence with
      | .error _ => .error .invalidState
      | .ok next => .ok (next, authority.move messageId evidence next)

/-- A call. -/
inductive Call
  | accept (accountId : Identifier) (key requestDigest : Text) (messageId : Identifier)
  | connect (deviceId : Identifier) (siteId instanceId : Text) (nowMs leaseMs : U64)
  | grant (session : Session) (messageId attemptId : Identifier)
      (generation : U64) (recipientDigest : Text) (nowMs expiresAtMs : U64)
  | event (messageId : Identifier) (evidence : Evidence)

/-- The authority after a call. -/
def perform : Call → Except Rejection Authority
  | .accept accountId key requestDigest messageId =>
    (authority.accept accountId key requestDigest messageId).map Prod.snd
  | .connect deviceId siteId instanceId nowMs leaseMs =>
    (authority.connect deviceId siteId instanceId nowMs leaseMs).map Prod.snd
  | .grant session messageId attemptId generation recipientDigest nowMs expiresAtMs =>
    (authority.grant session messageId attemptId generation recipientDigest
      nowMs expiresAtMs).map Prod.snd
  | .event messageId evidence =>
    (authority.event messageId evidence).map Prod.snd

/-- The authority after some calls, none of them refused. -/
def performAll (authority : Authority) : List Call → Except Rejection Authority
  | [] => .ok authority
  | call :: rest =>
    match authority.perform call with
    | .error rejection => .error rejection
    | .ok next => next.performAll rest

theorem performAll_single {authority : Authority} (performed : authority.perform call = .ok next) :
    authority.performAll [call] = .ok next := by
  unfold performAll
  rw [performed]
  rfl

theorem performAll_append {authority : Authority} (performs : authority.performAll first = .ok next)
    (performsNext : next.performAll second = .ok after) :
    authority.performAll (first ++ second) = .ok after := by
  induction first generalizing authority with
  | nil =>
    cases performs
    exact performsNext
  | cons call rest ih =>
    rw [List.cons_append]
    unfold performAll at performs ⊢
    cases performed : authority.perform call with
    | error rejection =>
      rw [performed] at performs
      cases performs
    | ok middle =>
      rw [performed] at performs
      exact ih performs

section Accepted

variable {authority : Authority} (available : authority.writerAvailable = true)
include available

theorem perform_accept (requestDigest : Text)
    (freshKey : authority.idempotency.lookup (accountId, key) = none)
    (freshMessage : authority.messages.lookup messageId = none) :
    authority.perform (.accept accountId key requestDigest messageId) =
      .ok (authority.queue accountId key requestDigest messageId) := by
  simp only [perform, accept, available, not_true_eq_false, if_false, freshKey,
    if_neg (Finmap.lookup_eq_none.mp freshMessage)]
  rfl

theorem perform_event (isState : authority.messages.lookup messageId = some state)
    (applies : state.apply evidence = .ok next) (ungranted : isEnding evidence →
      authority.grants.lookup messageId = none) :
    authority.perform (.event messageId evidence) =
      .ok (authority.move messageId evidence next) := by
  have permitted : ¬ (isEnding evidence ∧ messageId ∈ authority.grants) := by
    rintro ⟨ends, granted⟩
    exact Finmap.lookup_eq_none.mp (ungranted ends) granted
  simp only [perform, event, available, not_true_eq_false, if_false,
    if_neg permitted, isState, applies]
  rfl

theorem perform_connect (siteId instanceId : Text)
    (isEpoch : authority.nextEpoch deviceId = some epoch)
    (isLease : Word.checkedAdd nowMs leaseMs = some leaseUntilMs) :
    authority.perform (.connect deviceId siteId instanceId nowMs leaseMs) = .ok
      { authority with
        sessions := authority.sessions.insert deviceId
          { deviceId, siteId, instanceId, epoch, leaseUntilMs } } := by
  simp only [perform, connect, available, not_true_eq_false, if_false, isEpoch, isLease]
  rfl

theorem perform_grant {session : Session} (attemptId : Identifier)
    (generation : U64) (recipientDigest : Text) (enabled : authority.dispatchEnabled)
    (isSession : authority.sessions.lookup session.deviceId = some session)
    (leased : nowMs < session.leaseUntilMs) (unexpired : nowMs < expiresAtMs)
    (ungranted : authority.grants.lookup messageId = none)
    (free : ¬ authority.DeviceBusy session.deviceId)
    (queued : authority.messages.lookup messageId = some .queued) :
    authority.perform (.grant session messageId attemptId generation
      recipientDigest nowMs expiresAtMs) = .ok (authority.claim messageId
        (authority.issue session messageId attemptId generation recipientDigest expiresAtMs)) := by
  have live : ¬ (session.leaseUntilMs ≤ nowMs ∨ expiresAtMs ≤ nowMs) :=
    not_or.mpr ⟨not_le.mpr leased, not_le.mpr unexpired⟩
  simp only [perform, grant, available, enabled, not_true_eq_false, if_false,
    isSession, ne_eq, if_neg live, if_neg (Finmap.lookup_eq_none.mp ungranted),
    if_neg free, queued]
  rfl

end Accepted

/-- A message reaches a state and a grant by at most one event. -/
inductive Reaches (state : MessageState) (grant : Option Grant) : MessageState → Option Grant → Prop
  | stays : Reaches state grant state grant
  | moves {evidence : Evidence} {next : MessageState} : state.apply evidence = .ok next →
      (isEnding evidence = true → grant = none) → Reaches state grant next
        (if evidence = .provenNoSubmit then none else grant)

/-- An event that is not a no-submit proof keeps the grant. -/
theorem Reaches.keeping {state : MessageState} {grant : Option Grant}
    (applies : state.apply evidence = .ok next)
    (ungranted : isEnding evidence → grant = none) (notProof : evidence ≠ .provenNoSubmit) :
    Reaches state grant next grant := by
  have moves := Reaches.moves applies ungranted
  rw [if_neg notProof] at moves
  exact moves

/-- Everything but messages and grants is the same. -/
structure Frames (authority after : Authority) : Prop where
  writerAvailable : after.writerAvailable = authority.writerAvailable
  dispatchEnabled : after.dispatchEnabled = authority.dispatchEnabled
  deploymentEpoch : after.deploymentEpoch = authority.deploymentEpoch
  sessions : after.sessions = authority.sessions
  idempotency : after.idempotency = authority.idempotency

/-- Two authorities agree about a message. -/
def SameMessage (after : Authority) (id : Identifier) : Prop :=
  after.messages.lookup id = authority.messages.lookup id ∧
    after.grants.lookup id = authority.grants.lookup id

theorem performAll_reaches {authority : Authority} (available : authority.writerAvailable)
    {id : Identifier} {grant : Option Grant}
    (isState : authority.messages.lookup id = some state)
    (reaches : Reaches state (authority.grants.lookup id) next grant) :
    ∃ calls after, authority.performAll calls = .ok after ∧ authority.Frames after ∧
      (∀ other, other ≠ id → authority.SameMessage after other) ∧
      after.messages.lookup id = some next ∧ after.grants.lookup id = grant := by
  cases reaches with
  | stays =>
    exact ⟨[], authority, rfl, ⟨rfl, rfl, rfl, rfl, rfl⟩, fun _ _ => ⟨rfl, rfl⟩, isState, rfl⟩
  | @moves evidence _ applies ungranted =>
    have performed := perform_event available isState applies ungranted
    refine ⟨[.event id evidence], _, performAll_single performed,
      ⟨rfl, rfl, rfl, rfl, rfl⟩, ?_, ?_, ?_⟩
    · intro other different
      refine ⟨Finmap.lookup_insert_of_ne _ different, ?_⟩
      simp only [move]
      split_ifs
      · exact Finmap.lookup_erase_ne different
      · rfl
    · exact Finmap.lookup_insert _
    · simp only [move]
      split_ifs
      · exact Finmap.lookup_erase _ _
      · rfl

/-- Messages reach their states and grants one after the other. -/
theorem performAll_reaches_all {authority : Authority}
    (available : authority.writerAvailable) {ids : List Identifier} (distinct : ids.Nodup)
    (target : Identifier → MessageState × Option Grant) (reaches : ∀ id ∈ ids, ∃ state,
      authority.messages.lookup id = some state ∧
        Reaches state (authority.grants.lookup id) (target id).1 (target id).2) :
    ∃ calls after, authority.performAll calls = .ok after ∧ authority.Frames after ∧
      (∀ other, other ∉ ids → authority.SameMessage after other) ∧
      ∀ id ∈ ids, after.messages.lookup id = some (target id).1 ∧
        after.grants.lookup id = (target id).2 := by
  induction ids generalizing authority with
  | nil =>
    exact ⟨[], authority, rfl, ⟨rfl, rfl, rfl, rfl, rfl⟩, fun _ _ => ⟨rfl, rfl⟩, nofun⟩
  | cons id rest ih =>
    rw [List.nodup_cons] at distinct
    obtain ⟨state, isState, reachesFirst⟩ := reaches id List.mem_cons_self
    obtain ⟨first, middle, performs, frames, others, isNext, isGrant⟩ :=
      performAll_reaches available isState reachesFirst
    have reachesRest : ∀ other ∈ rest, ∃ state, middle.messages.lookup other = some state ∧
          Reaches state (middle.grants.lookup other) (target other).1 (target other).2 := by
      intro other listed
      have different : other ≠ id := fun same => distinct.1 (same ▸ listed)
      rw [(others other different).1, (others other different).2]
      exact reaches other (List.mem_cons_of_mem _ listed)
    obtain ⟨second, after, performsRest, framesRest, othersRest, reached⟩ :=
      ih (frames.writerAvailable.trans available) distinct.2 reachesRest
    refine ⟨first ++ second, after, performAll_append performs performsRest,
      ⟨framesRest.writerAvailable.trans frames.writerAvailable,
        framesRest.dispatchEnabled.trans frames.dispatchEnabled,
        framesRest.deploymentEpoch.trans frames.deploymentEpoch,
        framesRest.sessions.trans frames.sessions,
        framesRest.idempotency.trans frames.idempotency⟩, ?_, ?_⟩
    · intro other unlisted
      rw [List.mem_cons, not_or] at unlisted
      exact ⟨(othersRest other unlisted.2).1.trans (others other unlisted.1).1,
        (othersRest other unlisted.2).2.trans (others other unlisted.1).2⟩
    · intro other listed
      rcases List.mem_cons.mp listed with rfl | inRest
      · rw [(othersRest other distinct.1).1, (othersRest other distinct.1).2]
        exact ⟨isNext, isGrant⟩
      · exact reached other inRest

end Authority
end Zrotext.Domain
