import Zrotext.Abuse.Counters
import Zrotext.Delivery.Dispatch
import Zrotext.Inbound.Suppression
import Zrotext.Webhook.Outbox

/-!
# Inbound events

A device uploads what it heard as a signed event.  An event that changes the
consent of a recipient is stored together with the change, in one transaction;
a transaction that fails is rolled back.
-/

namespace Zrotext.Inbound

open Foundation Delivery Fallible

/-- The session in which a device uploads. -/
structure InboundSession where
  (accountId deviceId : Uuid)
  (siteId instanceId : Text)
  (connectionEpoch deploymentEpoch : Nat)
deriving DecidableEq

/-- What the device made of a message. -/
inductive Classification
  | capturedLocal | simUnverified | sendUnverified | encryptionUnverified | optOut | optOutReview
  | optIn
deriving DecidableEq

namespace Classification

/-- The byte of a classification. -/
def code : Classification → UInt8
  | .capturedLocal => 1
  | .simUnverified => 2
  | .sendUnverified => 3
  | .encryptionUnverified => 4
  | .optOut => 5
  | .optOutReview => 6
  | .optIn => 7

/-- Whether the consent of the recipient changes. -/
def changesConsent : Classification → Bool
  | .optOut | .optOutReview | .optIn => true
  | _ => false

end Classification

/-- What an event tells of a message. -/
inductive Content
  | metadataOnly
  | opaquePilot (ciphertext : Bytes)
deriving DecidableEq

namespace Content

/-- The byte of a content. -/
def code : Content → UInt8
  | .metadataOnly => 0
  | .opaquePilot _ => 1

/-- The bytes of a content. -/
def ciphertext : Content → Bytes
  | .metadataOnly => []
  | .opaquePilot ciphertext => ciphertext

end Content

/-- An event as it is uploaded. -/
structure InboundEvent where
  eventId : Uuid
  sequence : Int
  (messageId attemptId : Uuid)
  classification : Classification
  (observedAtMs partCount : Int)
  content : Content
  signatureDer : Bytes
deriving DecidableEq

/-- The answer to an upload. -/
structure IngestOutcome where
  created : Bool
  queuedDeliveries : Nat
  suppressionCleared : Bool
deriving DecidableEq

/-- What the database refuses. -/
inductive DatabaseFailure
  | suppressions (constraint : SuppressionConstraint)
  | counters (violation : Abuse.Violation)
  | delivery (error : StoreError)
  | webhook (error : Webhook.WebhookError)
  | audit
deriving DecidableEq

/-- Why an upload fails. -/
inductive InboundError
  | invalidInput | unauthorized | invalidSignature | unknownSource | sourcePending | sourceRetired
  | eventConflict | sequenceConflict | budgetExhausted
  | database (failure : DatabaseFailure)
deriving DecidableEq

/-- A row of inbound_events. -/
structure StoredEvent where
  (id accountId deviceId messageId attemptId : Uuid)
  deviceSequence : Int
  classification : Classification
  (observedAt receivedAt : Time)
  partCount : Int
  content : Content
  (eventDigest signatureDer : Bytes)
  deviceSentAt : Option Time
deriving DecidableEq

/-- What a message that answers no attempt asks for. -/
inductive LineAction
  | stop | review
deriving DecidableEq

/-- A row of line_opt_out_events. -/
structure LineOptOutEvent where
  (id accountId deviceId lineId : Uuid)
  (bindingGeneration deviceSequence : Int)
  recipientE164 : Text
  action : LineAction
  observedAt : Time
  (eventDigest signatureDer : Bytes)
deriving DecidableEq

/-- A row of owner_recipient_holds. -/
structure OwnerHold where
  (id accountId : Uuid)
  recipientE164 : Text
  createdAt : Time
  releasedAt : Option Time
  releaseEventId : Option Uuid
deriving DecidableEq

/-- A row of owner_opt_out_audit about the release of a hold. -/
structure OwnerAudit where
  (id accountId holdId releaseEventId : Uuid)
deriving DecidableEq

/-- The tables that inbound events are read from and written to, without the
suppressions. -/
structure Records (δ : Type) where
  delivery : Delivery.Tables
  events : Keyed StoredEvent.id
  lineOptOuts : Keyed LineOptOutEvent.id
  holds : Keyed OwnerHold.id
  audit : Keyed OwnerAudit.id
  counters : Abuse.Counters δ
  outbox : Webhook.Outbox

/-- The tables of inbound events. -/
structure Tables (δ : Type) extends Records δ where
  suppressions : Suppressions

/-- The curve on which devices sign. -/
structure Curve where
  (validKey validSignature canonical : Bytes → Bool)
  /-- The key, the message and the signature. -/
  verify : Bytes → Bytes → Bytes → Bool

/-- What a transaction reads elsewhere. -/
structure Surroundings (δ : Type) where
  directory : Directory
  clock : Clock
  inRecovery : Bool
  /-- The key of a device of an account, unless it is revoked. -/
  signingKey : Uuid → Uuid → Option Bytes
  curve : Curve
  sha256 : Bytes → Bytes
  hasher : Abuse.Hasher δ
  /-- Whether the line of a session is ready in a generation, reading by
  reading. -/
  smsLineBindingReady : InboundSession → Uuid → Int → Nat → Bool
  /-- Whether a line was bound to a device in a generation before a time. -/
  lineBindingActive : Uuid → Uuid → Uuid → Int → Time → Bool
  /-- The identifier of the delivery to an endpoint. -/
  drawnDelivery : Uuid → Uuid
  /-- The identifier of the audit of a hold. -/
  drawnAudit : Uuid → Uuid

variable {δ : Type}

/-- How old an observation may be. -/
def maxAgeMs : Int := 7 * 24 * 60 * 60 * 1000

/-- How far in the future an observation may be. -/
def maxFutureMs : Int := 5 * 60 * 1000

/-- How far the clock of a device may be off. -/
def maxDeviceClockOffsetMs : Int := 24 * 60 * 60 * 1000

/-- What the device signs. -/
def signedEventBytes (sha256 : Bytes → Bytes) (session : InboundSession)
    (event : InboundEvent) : Bytes :=
  utf8 "zrotext-inbound-v1\x00".toList ++ uuidBytes session.accountId ++
    uuidBytes session.deviceId ++ uuidBytes event.eventId ++
    bigEndian 8 event.sequence ++ uuidBytes event.messageId ++
    uuidBytes event.attemptId ++ [event.classification.code] ++
    bigEndian 8 event.observedAtMs ++ bigEndian 2 event.partCount ++
    [event.content.code] ++ sha256 event.content.ciphertext

/-- Which content an event of a classification may have. -/
def Content.isValid (classification : Classification) : Content → Bool
  | .metadataOnly => true
  | .opaquePilot ciphertext =>
    decide (32 ≤ ciphertext.length ∧ ciphertext.length ≤ 8192) &&
      decide (classification = .capturedLocal)

/-- The checks of an event by itself. -/
def InboundEvent.validate (processMs : Int) (event : InboundEvent) : Except InboundError Unit := do
  require .invalidInput (decide (0 < event.sequence) &&
    decide (1 ≤ event.partCount ∧ event.partCount ≤ 6) &&
    decide (processMs - maxAgeMs ≤ event.observedAtMs) &&
    decide (event.observedAtMs ≤ processMs + maxFutureMs) &&
    decide (8 ≤ event.signatureDer.length ∧ event.signatureDer.length ≤ 80))
  require .invalidInput (event.content.isValid event.classification)
  require .invalidInput (!event.classification.changesConsent ||
    decide (event.content = .metadataOnly))

/-- The clock of the device at upload, if it is near the clock of the hub. -/
def plausibleDeviceClock (processMs : Int) (deviceSentAtMs : Option Int) : Option Time :=
  (deviceSentAtMs.filter fun sent =>
    decide ((sent - processMs).natAbs ≤ maxDeviceClockOffsetMs.toNat)).map ofMillis

namespace Records

/-- Whether the session of a device has a lease at a time. -/
def leaseLive (records : Records δ) (session : InboundSession) (time : Time) : Bool :=
  records.delivery.sessions.any fun row =>
    row.accountId == session.accountId && row.deviceId == session.deviceId &&
      decide (time < row.leaseUntil)

/-- The key of the device of a current session. -/
def currentKey (records : Records δ) (surroundings : Surroundings δ)
    (session : InboundSession) : Option Bytes :=
  if records.delivery.sessions.any (fun row =>
        row.accountId == session.accountId &&
          row.deviceId == session.deviceId && row.siteId == session.siteId &&
          row.instanceId == session.instanceId &&
          row.connectionEpoch == session.connectionEpoch &&
          row.deploymentEpoch == session.deploymentEpoch &&
          decide (surroundings.clock.reading 0 < row.leaseUntil)) &&
      surroundings.directory.deviceRevoked session.accountId session.deviceId == some false &&
      surroundings.directory.accountDisabled session.accountId == some false &&
      records.delivery.sites.any (fun site =>
        site.siteId == session.siteId && site.enabled && !site.draining) &&
      surroundings.directory.deploymentEpoch == session.deploymentEpoch &&
      !surroundings.inRecovery then
    surroundings.signingKey session.accountId session.deviceId
  else none

end Records

/-- The attempt that an event answers. -/
structure Source where
  status : AttemptStatus
  positiveSentCallback : Bool
  recipientE164 : Option Text
deriving DecidableEq

variable (records : Records δ) (surroundings : Surroundings δ) (session : InboundSession)
  (event : InboundEvent)

/-- The attempt that an event names. -/
def Records.source : Option Source := do
  let attempt ← records.delivery.attempts.find? fun attempt =>
    attempt.id == event.attemptId && attempt.accountId == session.accountId &&
      attempt.deviceId == session.deviceId &&
      attempt.messageId == event.messageId
  let message ← records.delivery.messages.find? fun message =>
    message.accountId == attempt.accountId && message.id == attempt.messageId
  return {
    status := attempt.status
    positiveSentCallback := records.delivery.events.any fun known =>
      known.attemptId == attempt.id &&
        decide (known.evidenceCode = .sentCallbackOk)
    recipientE164 := message.recipientE164 }

/-- The recipient of the message that an event answers. -/
def Records.recipientOf : Option Text := (records.source session event).bind Source.recipientE164

/-- Only a submitted attempt with a sent segment can be answered. -/
def sourceReadiness (source : Source) : Except InboundError Unit :=
  match source.status with
  | .submitted =>
    if source.positiveSentCallback then .ok () else .error .unknownSource
  | .granted | .submitting | .unknown => .error .sourcePending
  | .failed | .provedNoSubmit => .error .unknownSource

/-- The error when the recipient was erased. -/
def retiredSourceError (classification : Classification) : InboundError :=
  if classification.changesConsent then .sourceRetired else .unknownSource

/-- The checks before the event is looked up.  The result is the recipient, as
far as it is still known, and the digest of the event. -/
def Records.authorize : Except InboundError (Option Text × Bytes) := do
  event.validate surroundings.clock.processMs
  let key ← demand .unauthorized (records.currentKey surroundings session)
  require .unauthorized (surroundings.curve.validKey key)
  require .invalidSignature (surroundings.curve.validSignature event.signatureDer)
  let signed := signedEventBytes surroundings.sha256 session event
  require .invalidSignature (surroundings.curve.verify key signed event.signatureDer)
  require .unauthorized (!event.classification.changesConsent ||
    surroundings.directory.accountDisabled session.accountId == some false)
  let source ← demand .unknownSource (records.source session event)
  sourceReadiness source
  return (source.recipientE164, surroundings.sha256 signed)

/-- A stored event is repeated only as it was. -/
def StoredEvent.verifyExactReplay (digest : Bytes)
    (stored : StoredEvent) : Except InboundError Unit :=
  require .eventConflict (decide (stored.accountId = session.accountId) &&
    decide (stored.deviceId = session.deviceId) &&
    decide (stored.eventDigest = digest))

/-- The row of an event. -/
def InboundEvent.stored (digest : Bytes)
    (deviceSentAtMs : Option Int) (event : InboundEvent) : StoredEvent :=
  { id := event.eventId, accountId := session.accountId, deviceId := session.deviceId
    messageId := event.messageId, attemptId := event.attemptId, deviceSequence := event.sequence
    classification := event.classification, observedAt := ofMillis event.observedAtMs
    receivedAt := surroundings.clock.now, partCount := event.partCount, content := event.content
    eventDigest := digest, signatureDer := event.signatureDer
    deviceSentAt :=
      plausibleDeviceClock surroundings.clock.processMs deviceSentAtMs }

section Budget

variable [DecidableEq δ]

/-- Charge the budget of an event. -/
def Records.charge (records : Records δ) (surroundings : Surroundings δ) (session : InboundSession)
    (classification : Classification) : Except Abuse.Violation Bool × Abuse.Counters δ :=
  if classification.changesConsent then
    Abuse.consumeConsentBudget surroundings.hasher session.deviceId
      surroundings.clock.now records.counters
  else
    Abuse.consumeStorageBudget surroundings.hasher session.accountId
      session.deviceId surroundings.clock.now records.counters

/-- Charge the budget of an event and store the event. -/
def Records.admitEvent (records : Records δ) (surroundings : Surroundings δ)
    (session : InboundSession) (stored : StoredEvent) : Except InboundError (Records δ) := do
  let (charged, counters) := records.charge surroundings session stored.classification
  let charged ← charged.mapError (.database ∘ .counters)
  require .budgetExhausted charged
  require .sequenceConflict (!records.events.rows.any fun known =>
    decide (known.deviceId = stored.deviceId) &&
      decide (known.deviceSequence = stored.deviceSequence))
  return { records with counters, events := records.events.put stored }

end Budget

/-- The rows that a suppression may refer to. -/
def Records.references : References where
  event accountId id := (records.events.lookup id).any fun known =>
    decide (known.accountId = accountId)
  attempt id := records.delivery.attempts.any fun attempt =>
    decide (attempt.id = id)
  lineOptOut accountId recipient id := (records.lineOptOuts.lookup id).any fun known =>
    decide (known.accountId = accountId) && decide (known.recipientE164 = recipient)

/-- What an event says about a recipient. -/
def StoredEvent.reply (recipient : Text) (stored : StoredEvent) : Reply :=
  { accountId := stored.accountId, recipientE164 := recipient, eventId := stored.id
    attemptId := stored.attemptId, observedAt := stored.observedAt }

/-- The change of the suppressions.  The result says whether one was
cleared. -/
def transition (references : References) (classification : Classification) (reply : Reply)
    (now : Time) (suppressions : Suppressions) :
    Except SuppressionConstraint (Suppressions × Bool) :=
  match classification with
  | .optOut =>
    (reply.withdraw references .smsKeyword now suppressions).map (·, false)
  | .optOutReview =>
    (reply.withdraw references .smsReview now suppressions).map (·, false)
  | .optIn => reply.resume references now suppressions
  | _ => .ok (suppressions, false)

/-- Whether an event proves that a recipient consented after a hold. -/
def ownerHoldReleaseAllowed (stored : StoredEvent) (createdAt : Time) : Bool :=
  decide (createdAt + seconds 300 < stored.observedAt) && stored.deviceSentAt.all fun sentAt =>
    decide (createdAt + seconds 60 < stored.observedAt - (sentAt - stored.receivedAt))

/-- The holds that an event releases. -/
def OwnerHold.isReleased (stored : StoredEvent) (recipient : Text) (hold : OwnerHold) : Bool :=
  decide (hold.accountId = stored.accountId) &&
    decide (hold.recipientE164 = recipient) && hold.releasedAt.isNone &&
    ownerHoldReleaseAllowed stored hold.createdAt

/-- Record the release of holds. -/
def auditReleases (stored : StoredEvent) (drawn : Uuid → Uuid) (holds : List OwnerHold)
    (audit : Keyed OwnerAudit.id) : Except InboundError (Keyed OwnerAudit.id) :=
  holds.foldlM (fun audit hold => do
    require (.database .audit) (audit.lookup (drawn hold.id)).isNone
    return audit.put ⟨drawn hold.id, stored.accountId, hold.id, stored.id⟩) audit

/-- Release the holds of a recipient who has consented. -/
def Records.releaseHolds
    (stored : StoredEvent) (recipient : Text) : Except InboundError (Records δ) := do
  let released := records.holds.rows.filter (·.isReleased stored recipient)
  let audit ← auditReleases stored surroundings.drawnAudit released records.audit
  return { records with
    audit, holds := records.holds.revise (·.isReleased stored recipient)
      (fun hold => { hold with
        releasedAt := some (surroundings.clock.reading 1), releaseEventId := some stored.id })
      (fun _ => rfl) }

/-- Cancel what waits for a recipient who has withdrawn. -/
def Records.cancelPending (accountId : Uuid)
    (recipient : Text) : Except DatabaseFailure (Records δ) :=
  let outcome := (cancelPendingRecipient surroundings.directory
    surroundings.clock accountId recipient).perform records.delivery
  match outcome.1 with
  | .ok _ => .ok { records with delivery := outcome.2 }
  | .error error => .error (.delivery error)

/-- Pending messages are cancelled or holds released. -/
def Records.follow (stored : StoredEvent) (recipient : Text) : Except InboundError (Records δ) :=
  match stored.classification with
  | .optOut | .optOutReview =>
    (records.cancelPending surroundings stored.accountId recipient).mapError .database
  | .optIn => records.releaseHolds surroundings stored recipient
  | _ => .ok records

/-- What comes after the change of the suppressions: its effects on other
tables, the queueing of the event for the webhooks, and a last look at the lease
of the session. -/
def Records.complete (stored : StoredEvent)
    (recipient : Text) : Except InboundError (Records δ) := do
  let records ← records.follow surroundings stored recipient
  let outbox ← (Webhook.queueDeliveries stored.accountId stored.id
    surroundings.drawnDelivery surroundings.clock.now
    records.outbox).mapError (.database ∘ .webhook)
  require .unauthorized (records.leaseLive session (surroundings.clock.reading 3))
  return { records with outbox }

/-- How many endpoints an event is queued for. -/
def Records.queued (accountId : Uuid) : Nat :=
  records.outbox.endpoints.rows.countP fun endpoint =>
    decide (endpoint.accountId = accountId) && endpoint.enabled

/-- Whether an event cleared a suppression that was not renewed since. -/
def suppressionCleared (accountId : Uuid) (recipient : Option Text) (eventId : Uuid)
    (suppressions : Suppressions) : Bool :=
  suppressions.rows.any fun row =>
    decide (row.accountId = accountId) &&
      recipient.all (fun recipient => decide (row.recipientE164 = recipient)) &&
      !row.active && decide (row.sourceEventId = some eventId)

/-- The answer to an event that is stored already. -/
def Tables.replay (recipient : Option Text) (digest : Bytes) (stored : StoredEvent)
    (tables : Tables δ) : Except InboundError IngestOutcome := do
  stored.verifyExactReplay session digest
  require .unauthorized
    (tables.leaseLive session (surroundings.clock.reading 1))
  return {
    created := false, queuedDeliveries := 0
    suppressionCleared := suppressionCleared session.accountId recipient
      event.eventId tables.suppressions }

section Uploads

variable [DecidableEq δ]

/-- Store a new event and change the consent of its recipient. -/
def Tables.ingestNew (surroundings : Surroundings δ) (session : InboundSession)
    (stored : StoredEvent) (recipient : Option Text)
    (tables : Tables δ) : Except InboundError (IngestOutcome × Tables δ) := do
  require .sequenceConflict (!tables.events.rows.any fun known =>
    decide (known.deviceId = session.deviceId) &&
      decide (known.deviceSequence = stored.deviceSequence))
  let recipient ← demand (retiredSourceError stored.classification) recipient
  let records ← tables.toRecords.admitEvent surroundings session stored
  let (suppressions, cleared) ← (transition records.references
    stored.classification (stored.reply recipient)
    (surroundings.clock.reading 1) tables.suppressions).mapError (.database ∘ .suppressions)
  let after ← records.complete surroundings session stored recipient
  return (
    { created := true, queuedDeliveries := records.queued stored.accountId
      suppressionCleared := cleared },
    { after with suppressions })

/-- An upload of an event with the clock of the device. -/
def ingestWithClock (surroundings : Surroundings δ) (session : InboundSession)
    (event : InboundEvent) (deviceSentAtMs : Option Int)
    (tables : Tables δ) : Except InboundError (IngestOutcome × Tables δ) := do
  let (recipient, digest) ← tables.authorize surroundings session event
  match tables.events.lookup event.eventId with
  | some stored =>
    let outcome ← tables.replay surroundings session event recipient digest stored
    return (outcome, tables)
  | none =>
    tables.ingestNew surroundings session
      (event.stored surroundings session digest deviceSentAtMs) recipient

end Uploads

/-- A withdrawal as it is uploaded. -/
structure LineOptOut where
  (id lineId : Uuid)
  (bindingGeneration sequence : Int)
  recipientE164 : Text
  action : LineAction
  observedAtMs : Int
  signatureDer : Bytes
deriving DecidableEq

/-- Why a withdrawal fails. -/
inductive LineOptOutError
  | invalidInput | unauthorized | invalidSignature | eventConflict | sequenceConflict
  | budgetExhausted
  | database (failure : DatabaseFailure)
deriving DecidableEq

namespace LineAction

/-- The byte of an action. -/
def code : LineAction → UInt8
  | .stop => 1
  | .review => 2

/-- The source of the suppression. -/
def source : LineAction → SuppressionSource
  | .stop => .smsUnsolicitedKeyword
  | .review => .smsUnsolicitedReview

end LineAction

/-- A number in E.164. -/
def validE164 (value : Text) : Bool :=
  match utf8 value with
  | sign :: first :: rest =>
    decide (3 ≤ rest.length + 2 ∧ rest.length + 2 ≤ 16) &&
      decide (sign = 43) && decide (49 ≤ first ∧ first ≤ 57) &&
      rest.all fun byte => decide (48 ≤ byte ∧ byte ≤ 57)
  | _ => false

/-- The checks of a withdrawal by itself. -/
def LineOptOut.validate (processMs : Int) (event : LineOptOut) : Except LineOptOutError Unit :=
  require .invalidInput (decide (event.id ≠ 0) && decide (event.lineId ≠ 0) &&
    decide (0 < event.bindingGeneration) && decide (0 < event.sequence) &&
    validE164 event.recipientE164 &&
    decide (processMs - maxAgeMs ≤ event.observedAtMs) &&
    decide (event.observedAtMs ≤ processMs + maxFutureMs) &&
    decide (8 ≤ event.signatureDer.length ∧ event.signatureDer.length ≤ 80))

/-- What the device signs. -/
def signedLineOptOutBytes (event : LineOptOut) : Except LineOptOutError Bytes := do
  require .invalidInput (decide (session.accountId ≠ 0) &&
    decide (session.deviceId ≠ 0) && validE164 event.recipientE164 &&
    decide (event.id ≠ 0) && decide (event.lineId ≠ 0) &&
    decide (0 < event.bindingGeneration) && decide (0 < event.sequence))
  return utf8 "zrotext-line-opt-out-v1\x00".toList ++
    uuidBytes session.accountId ++ uuidBytes session.deviceId ++
    uuidBytes event.lineId ++ bigEndian 8 event.bindingGeneration ++
    uuidBytes event.id ++ bigEndian 8 event.sequence ++
    bigEndian 8 event.observedAtMs ++ [event.action.code] ++
    bigEndian 1 (utf8 event.recipientE164).length ++ utf8 event.recipientE164

/-- The row of a withdrawal. -/
def LineOptOut.stored (digest : Bytes) (event : LineOptOut) : LineOptOutEvent :=
  { id := event.id, accountId := session.accountId, deviceId := session.deviceId
    lineId := event.lineId, bindingGeneration := event.bindingGeneration
    deviceSequence := event.sequence, recipientE164 := event.recipientE164, action := event.action
    observedAt := ofMillis event.observedAtMs, eventDigest := digest
    signatureDer := event.signatureDer }

/-- What a row says about a recipient. -/
def LineOptOutEvent.withdrawal (stored : LineOptOutEvent) : LineWithdrawal :=
  { accountId := stored.accountId, recipientE164 := stored.recipientE164, id := stored.id
    observedAt := stored.observedAt }

/-- The checks before the withdrawal is looked up.  The result is its digest. -/
def authorizeLine (event : LineOptOut) : Except LineOptOutError Bytes := do
  event.validate surroundings.clock.processMs
  let statement ← signedLineOptOutBytes session event
  require .invalidSignature (surroundings.curve.validSignature event.signatureDer)
  require .invalidSignature (surroundings.curve.canonical event.signatureDer)
  require .unauthorized (surroundings.directory.accountDisabled session.accountId == some false)
  require .unauthorized (surroundings.smsLineBindingReady session event.lineId
    event.bindingGeneration 0)
  let key ← demand .unauthorized (surroundings.signingKey session.accountId session.deviceId)
  require .unauthorized (surroundings.curve.validKey key)
  require .invalidSignature (surroundings.curve.verify key statement event.signatureDer)
  require .unauthorized (surroundings.lineBindingActive session.accountId
    event.lineId session.deviceId event.bindingGeneration
    (ofMillis event.observedAtMs))
  return surroundings.sha256 (statement ++ event.signatureDer)

section Lines

variable [DecidableEq δ]

/-- Charge the budget of a withdrawal and store it. -/
def Records.admitLine (records : Records δ) (surroundings : Surroundings δ)
    (stored : LineOptOutEvent) : Except LineOptOutError (Records δ) := do
  require .sequenceConflict (!records.lineOptOuts.rows.any fun known =>
    decide (known.deviceId = stored.deviceId) &&
      decide (known.deviceSequence = stored.deviceSequence))
  let (charged, counters) := Abuse.consumeConsentBudget surroundings.hasher
    stored.deviceId surroundings.clock.now records.counters
  let charged ← charged.mapError (.database ∘ .counters)
  require .budgetExhausted charged
  return { records with
    counters, lineOptOuts := records.lineOptOuts.put stored }

/-- Store a new withdrawal and suppress its sender. -/
def Tables.ingestNewLine (surroundings : Surroundings δ) (session : InboundSession)
    (stored : LineOptOutEvent) (tables : Tables δ) : Except LineOptOutError (Tables δ) := do
  let records ← tables.toRecords.admitLine surroundings stored
  let suppressions ← (stored.withdrawal.withdraw records.references
    stored.action.source (surroundings.clock.reading 1)
    tables.suppressions).mapError (.database ∘ .suppressions)
  let after ← (records.cancelPending surroundings stored.accountId
    stored.recipientE164).mapError .database
  require .unauthorized (surroundings.smsLineBindingReady session stored.lineId
    stored.bindingGeneration 1)
  return { after with suppressions }

/-- An upload of a withdrawal that answers no attempt.  The result says whether
it was new. -/
def ingestLineOptOut (surroundings : Surroundings δ) (session : InboundSession) (event : LineOptOut)
    (tables : Tables δ) : Except LineOptOutError (Bool × Tables δ) := do
  let digest ← authorizeLine surroundings session event
  match tables.lineOptOuts.lookup event.id with
  | some known =>
    require .eventConflict (decide (known.accountId = session.accountId) &&
      decide (known.deviceId = session.deviceId) &&
      decide (known.eventDigest = digest))
    require .unauthorized (surroundings.smsLineBindingReady session
      event.lineId event.bindingGeneration 1)
    return (false, tables)
  | none =>
    let after ← tables.ingestNewLine surroundings session (event.stored session digest)
    return (true, after)

end Lines

end Zrotext.Inbound
