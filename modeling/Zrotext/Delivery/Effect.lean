import Zrotext.Delivery.RadioTransition
import Zrotext.Delivery.System

/-!
# What the transactions do

The whole list of what a committed transaction may have done to the tables,
with what it has checked before.  What every arrival and every effect preserves
holds in every run.
-/

namespace Zrotext.Delivery

open Domain Foundation Table

/-- What was checked before a message was accepted. -/
structure Accepting (tables : Tables) (key : IdempotencyKey) (row : Message) : Prop where
  owner : key.accountId = row.accountId
  named : key.messageId = row.id
  fresh : ∀ other ∈ tables.messages, other.id ≠ row.id
  freshJob : ∀ other ∈ tables.jobs, other.messageId ≠ row.id
  queued : row.state = .queued
  mode : row.transportMode = .syntheticAlpha
  content : row.recipientE164 ≠ none

/-- A request that brought in a new key: its message is created, or it was
there before. -/
inductive Arrival (clock : Clock) (key : IdempotencyKey) (tables : Tables) : Tables → Prop
  | known {keys : List IdempotencyKey} : insertedKeys clock key tables.keys = (.inserted, keys) →
      (∃ message ∈ tables.messages, message.id = key.messageId) →
      Arrival clock key tables { tables with keys }
  | created {keys : List IdempotencyKey} {row : Message} :
      insertedKeys clock key tables.keys = (.inserted, keys) → Accepting tables key row →
      Arrival clock key tables
        { tables with
          keys, messages := tables.messages ++ [row]
          jobs := tables.jobs ++
            [newJob clock row.accountId row.deviceId row.id] }

/-- What was checked before a unit was reserved. -/
structure Reserving (deployment : Deployment) (directory : Directory) (clock : Clock)
    (tables : Tables) (entry : LedgerEntry) (periods : List UsagePeriod) : Prop where
  kind : entry.entryKind = .reserve
  month : entry.periodStart = deployment.monthStart clock.now
  period : ∃ billed limit invoiceBound,
    quotaLimit (directory.billing entry.accountId) billed (clock.reading 0) =
      .ok (limit, invoiceBound) ∧
    reservePeriod entry.accountId entry.periodStart limit invoiceBound tables.periods = some periods
  free : ∀ other ∈ tables.ledger, other.accountId = entry.accountId →
    other.messageId = entry.messageId → other.entryKind ≠ .reserve
  queued : ∃ message ∈ tables.messages, message.accountId = entry.accountId ∧
    message.id = entry.messageId ∧ message.state = .queued

/-- What was checked before a job was leased. -/
structure Claiming (tables : Tables) (job : DispatchJob) (message : Message) : Prop where
  listed : job ∈ tables.jobs
  stored : message ∈ tables.messages
  joined : message.id = job.messageId
  ungranted : job.grantIssuedAt = none
  pending : isPending message.state = true

/-- The tables after a lease of a job. -/
def Tables.lease (tables : Tables) (clock : Clock) (workerId : Text) (job : DispatchJob) : Tables :=
  { tables with
    jobs := update (·.messageId == job.messageId)
      (DispatchJob.lease workerId (clock.now + seconds 30)) tables.jobs
    messages := update
      (fun row => row.accountId == job.accountId && row.id == job.messageId && isPending row.state)
      (Message.moveTo .claimed clock.now) tables.messages }

/-- A message that may end: it has no grant. -/
structure Closable (tables : Tables) (accountId messageId : Uuid) : Prop where
  job : ∃ job ∈ tables.jobs, job.accountId = accountId ∧
    job.messageId = messageId ∧ job.grantIssuedAt = none
  message : ∃ message ∈ tables.messages, message.accountId = accountId ∧
    message.id = messageId ∧ isPending message.state = true

/-- Some messages end before any grant, and their reservations are refunded. -/
def Tables.close (tables : Tables) (selects : Uuid → Uuid → Bool) (state : MessageState)
    (messageAt jobAt : Time) : Tables :=
  let refunds := pendingRefunds (fun entry => selects entry.accountId entry.messageId) tables.ledger
  { tables with
    messages := update
      (fun message => selects message.accountId message.id)
      (Message.moveTo state messageAt) tables.messages
    jobs := update (fun job => selects job.accountId job.messageId)
      (DispatchJob.finish jobAt) tables.jobs
    ledger := tables.ledger ++ refunds, periods := refundPeriods refunds tables.periods }

/-- What was checked before a grant was issued. -/
structure Granting (deployment : Deployment) (directory : Directory) (clock : Clock)
    (tables : Tables) (claim : Claim) (session : SessionRecord)
    (attemptId : Uuid) (recipientDigest : Bytes) (grantExpiresAt : Time) : Prop where
  entered : deployment.hostedEntry = true
  enabled : directory.dispatchEnabled = true
  device : claim.deviceId = session.deviceId
  live : ∃ row ∈ tables.sessions, row.deviceId = session.deviceId ∧
    row.connectionEpoch = session.epoch
  job : ∃ job ∈ tables.jobs, job.accountId = claim.accountId ∧
    job.messageId = claim.messageId ∧ job.deviceId = claim.deviceId ∧
    job.grantIssuedAt = none
  message : ∃ message ∈ tables.messages, message.id = claim.messageId ∧ message.state = .claimed
  attemptFree : ∀ index ∈ attemptIndexes, ∀ other ∈ tables.attempts,
    index.clashes (grantedAttempt directory clock claim session attemptId) other = false
  fenceFree : ∀ index ∈ fenceIndexes, ∀ other ∈ tables.fences, index.clashes
    (grantedFence directory claim session attemptId recipientDigest grantExpiresAt) other = false

/-- The tables after a grant. -/
def Tables.grant (tables : Tables) (directory : Directory) (clock : Clock) (claim : Claim)
    (session : SessionRecord) (attemptId : Uuid) (recipientDigest : Bytes)
    (grantExpiresAt : Time) : Tables :=
  { tables with
    attempts := tables.attempts ++ [grantedAttempt directory clock claim session attemptId]
    fences := tables.fences ++
      [grantedFence directory claim session attemptId recipientDigest grantExpiresAt]
    jobs := update (·.messageId == claim.messageId) (DispatchJob.grant clock.now) tables.jobs }

/-- What was checked before a report was recorded. -/
structure Recording (deployment : Deployment) (tables : Tables) (event : RadioEvent)
    (code : EvidenceCode) (current next : MessageState) : Prop where
  isCode : evidenceCode event.evidence = some code
  wellFormed : malformedRadioEvent event = false
  message : ∃ message ∈ tables.messages, message.accountId = event.accountId ∧
    message.id = event.messageId ∧ message.state = current
  attempt : ∃ attempt ∈ tables.attempts, attempt.id = event.attemptId ∧
    attempt.messageId = event.messageId
  fence : ∃ fence ∈ tables.fences, fence.attemptId = event.attemptId ∧
    fence.messageId = event.messageId
  transition : radioState current event
    (priorAttemptEvidence tables event.attemptId event.segmentCount) = .ok next
  free : ∀ index ∈ eventIndexes, ∀ other ∈ tables.events,
    index.clashes (eventRow deployment event code next) other = false

/-- The message and the events with one more report. -/
def Tables.report (tables : Tables) (deployment : Deployment) (clock : Clock) (event : RadioEvent)
    (code : EvidenceCode) (next : MessageState) : Tables :=
  { tables with
    messages := update
      (fun message => message.accountId == event.accountId &&
        message.id == event.messageId)
      (Message.moveTo next clock.now) tables.messages
    events := tables.events ++ [eventRow deployment event code next] }

/-- The tables after a proof that nothing was submitted. -/
def Tables.release (tables : Tables) (deployment : Deployment) (clock : Clock) (event : RadioEvent)
    (code : EvidenceCode) (next : MessageState) : Tables :=
  { tables.report deployment clock event code next with
    attempts := update (·.id == event.attemptId)
      (MessageAttempt.become .provedNoSubmit clock.now) tables.attempts
    fences := delete (·.attemptId == event.attemptId) tables.fences
    jobs := update (·.messageId == event.messageId) (DispatchJob.requeue clock.now) tables.jobs }

/-- The tables after a report that the message follows. -/
def Tables.follow (tables : Tables) (deployment : Deployment) (clock : Clock) (event : RadioEvent)
    (code : EvidenceCode) (next : MessageState) (status : AttemptStatus) : Tables :=
  { tables.report deployment clock event code next with
    attempts := update (·.id == event.attemptId)
      (MessageAttempt.become status clock.now) tables.attempts
    fences := update (·.attemptId == event.attemptId)
      (DispatchFence.record status) tables.fences }

/-- What was checked before a sweep wrote its events. -/
structure Sweeping (tables : Tables) (selects : FencedAttempt → Bool) (rows : List FencedAttempt)
    (events : List MessageEvent) : Prop where
  rowOf : ∀ row ∈ rows, row ∈ tables.fencedAttempts ∧ selects row = true
  distinct : (rows.map (·.message.id)).Nodup
  unique : ∀ index ∈ eventIndexes, Table.Unique index tables.events →
    Table.Unique index (tables.events ++ events)

/-- The messages and the events after a sweep. -/
def Tables.swept (tables : Tables) (clock : Clock) (state : MessageState)
    (rows : List FencedAttempt) (events : List MessageEvent) : Tables :=
  { tables with
    messages := update
      (fun message => rows.any fun row =>
        row.message.accountId == message.accountId &&
          row.message.id == message.id)
      (Message.moveTo state clock.now) tables.messages
    events := tables.events ++ events }

/-- The tables after a sweep of silent attempts. -/
def Tables.silence (tables : Tables) (deployment : Deployment) (clock : Clock)
    (fresh : Nat → Uuid) (rows : List FencedAttempt) : Tables :=
  { tables.swept clock .unknown rows
      (sweepEvents deployment clock fresh silenceCode .unknown rows) with
    attempts := update (fun attempt => rows.any (·.attempt.id == attempt.id))
      (MessageAttempt.become .unknown clock.now) tables.attempts
    fences := update (fun fence => rows.any (·.attempt.id == fence.attemptId))
      (DispatchFence.record .unknown) tables.fences }

/-- The effect of a transaction on the tables. -/
inductive Effect (deployment : Deployment) (directory : Directory) (tables : Tables) : Tables → Prop
  | reserved {clock : Clock} {entry : LedgerEntry} {periods : List UsagePeriod} :
      Reserving deployment directory clock tables entry periods → Effect deployment directory tables
        { tables with periods, ledger := tables.ledger ++ [entry] }
  | connected {siteId : Text} {session : DeviceSession} : session.connectionEpoch = 1 →
      (upsertSession session tables.sessions).2 ≤ bigintMax → Effect deployment directory tables
        { tables with
          sites := insertSite siteId tables.sites
          sessions := (upsertSession session tables.sessions).1 }
  | claimed {clock : Clock} {workerId : Text} {job : DispatchJob} {message : Message} :
      Claiming tables job message →
      Effect deployment directory tables (tables.lease clock workerId job)
  | closed {selects : Uuid → Uuid → Bool} {state : MessageState} {messageAt jobAt : Time} :
      state = .cancelled ∨ state = .expired →
      (∀ accountId messageId, selects accountId messageId = true →
        Closable tables accountId messageId) →
      Effect deployment directory tables (tables.close selects state messageAt jobAt)
  | granted {clock : Clock} {claim : Claim} {session : SessionRecord}
      {attemptId : Uuid} {recipientDigest : Bytes} {grantExpiresAt : Time} :
      Granting deployment directory clock tables claim session attemptId recipientDigest
        grantExpiresAt →
      Effect deployment directory tables
        (tables.grant directory clock claim session attemptId recipientDigest grantExpiresAt)
  | released {clock : Clock} {event : RadioEvent} {code : EvidenceCode}
      {current next : MessageState} : Recording deployment tables event code current next →
      event.evidence = .provenNoSubmit →
      Effect deployment directory tables (tables.release deployment clock event code next)
  | followed {clock : Clock} {event : RadioEvent} {code : EvidenceCode}
      {current next : MessageState} {status : AttemptStatus} :
      Recording deployment tables event code current next → event.evidence ≠ .provenNoSubmit →
      attemptStatus next = some status →
      (∀ index ∈ fenceIndexes, Table.Unique index
        (tables.follow deployment clock event code next status).fences) →
      Effect deployment directory tables (tables.follow deployment clock event code next status)
  | silenced {clock : Clock} {rows : List FencedAttempt} {fresh : Nat → Uuid} :
      Sweeping tables (isSilent clock) rows
        (sweepEvents deployment clock fresh silenceCode .unknown rows) →
      (∀ index ∈ fenceIndexes, Table.Unique index
        (tables.silence deployment clock fresh rows).fences) →
      Effect deployment directory tables (tables.silence deployment clock fresh rows)
  | timedOut {clock : Clock} {rows : List FencedAttempt} {fresh : Nat → Uuid} :
      Sweeping tables (lacksReceipt clock) rows
        (sweepEvents deployment clock fresh (fun _ => .deliveryTimeout) .deliveryUnknown rows) →
      Effect deployment directory tables (tables.swept clock .deliveryUnknown rows
          (sweepEvents deployment clock fresh (fun _ => .deliveryTimeout) .deliveryUnknown rows))

/-- A sequence of effects. -/
abbrev Effects (deployment : Deployment) (directory : Directory) : Tables → Tables → Prop :=
  Relation.ReflTransGen (Effect deployment directory)

end Zrotext.Delivery
