import Zrotext.Domain.MessageState
import Zrotext.Foundation.Table
import Zrotext.Foundation.Text
import Zrotext.Foundation.Transaction
import Zrotext.Foundation.Word

/-!
# The tables of the delivery store

The rows that the delivery transactions read and write, the unique indexes that
the migrations put on them, and what the transactions read from the rest of the
database.
-/

namespace Zrotext.Delivery

open Domain Foundation Table

/-- An identifier. -/
abbrev Uuid := Fin (2 ^ 128)

/-- A moment of the database clock, in microseconds since the epoch. -/
abbrev Time := Int

/-- Raw bytes. -/
abbrev Bytes := List UInt8

/-- An interval of seconds. -/
def seconds (count : Int) : Time := count * 1000000

/-- A moment given in milliseconds. -/
def ofMillis (millis : Int) : Time := millis * 1000

/-- The milliseconds of a moment, rounded to the nearest. -/
def toMillis (time : Time) : Int :=
  if 0 ≤ time then (time + 500) / 1000 else -((500 - time) / 1000)

/-- How the content of a message is carried. -/
inductive TransportMode
  | syntheticAlpha | sealedCandidate02 | sealedProfile03
deriving DecidableEq

/-- The status of an attempt, and the outcome that its fence records. -/
inductive AttemptStatus
  | granted | submitting | submitted | unknown | failed | provedNoSubmit
deriving DecidableEq

/-- The code under which an event is stored. -/
inductive EvidenceCode
  | durableIntent | provedNoSubmit | sentCallbackOk | sentCallbackFailed | partialSentCallbacks
  | deliveryCallbackOk | deliveryTimeout | crashNoCallback | callbackConflict | grantTimeout
  | sentCallbackTimeout
deriving DecidableEq

/-- The sign of an entry of the usage ledger. -/
inductive EntryKind
  | reserve | refund
deriving DecidableEq

/-- A row of messages. -/
structure Message where
  (id accountId deviceId : Uuid)
  recipientE164 : Option Text
  recipientDigest : Bytes
  transportMode : TransportMode
  transportPayload : Option Bytes
  requestDigest : Bytes
  state : MessageState
  stateVersion : Nat
  (expiresAt updatedAt : Time)
  lineId : Option Uuid
deriving DecidableEq

/-- A message moves to a state. -/
def Message.moveTo (state : MessageState) (time : Time) (message : Message) : Message :=
  { message with
    state, stateVersion := message.stateVersion + 1
    updatedAt := time }

/-- A row of dispatch_jobs. -/
structure DispatchJob where
  (messageId accountId deviceId : Uuid)
  nextAttemptAt : Time
  generation : Nat
  leaseOwner : Option Text
  (leaseUntil grantIssuedAt finishedAt : Option Time)
deriving DecidableEq

/-- A worker leases a job. -/
def DispatchJob.lease (workerId : Text) (leaseUntil : Time) (job : DispatchJob) : DispatchJob :=
  { job with
    leaseOwner := some workerId, leaseUntil := some leaseUntil, generation := job.generation + 1 }

/-- A grant is issued for a job. -/
def DispatchJob.grant (time : Time) (job : DispatchJob) : DispatchJob :=
  { job with grantIssuedAt := some time }

/-- A job goes back into the queue. -/
def DispatchJob.requeue (time : Time) (job : DispatchJob) : DispatchJob :=
  { job with
    grantIssuedAt := none, leaseOwner := none, leaseUntil := none, finishedAt := none
    nextAttemptAt := time }

/-- A job whose message ended before any grant. -/
def DispatchJob.finish (time : Time) (job : DispatchJob) : DispatchJob :=
  { job with
    leaseOwner := none, leaseUntil := none, finishedAt := some time }

/-- A row of dispatch_fences. -/
structure DispatchFence where
  (messageId accountId deviceId attemptId : Uuid)
  (generation sessionEpoch deploymentEpoch : Nat)
  recipientDigest : Bytes
  grantExpiresAt : Time
  outcome : AttemptStatus
deriving DecidableEq

/-- A fence records an outcome. -/
def DispatchFence.record (outcome : AttemptStatus) (fence : DispatchFence) : DispatchFence :=
  { fence with outcome }

/-- A row of message_attempts. -/
structure MessageAttempt where
  (id accountId messageId deviceId : Uuid)
  (generation sessionEpoch deploymentEpoch : Nat)
  status : AttemptStatus
  (createdAt updatedAt : Time)
deriving DecidableEq

/-- An attempt takes a status. -/
def MessageAttempt.become (status : AttemptStatus) (time : Time)
    (attempt : MessageAttempt) : MessageAttempt :=
  { attempt with status, updatedAt := time }

/-- A row of message_events. -/
structure MessageEvent where
  (id accountId messageId attemptId : Uuid)
  evidenceCode : EvidenceCode
  eventDigest : Bytes
  observedAt : Time
  resultingState : MessageState
  (segmentIndex segmentCount : Option Int)
deriving DecidableEq

/-- A row of idempotency_keys. -/
structure IdempotencyKey where
  accountId : Uuid
  key : Text
  requestDigest : Bytes
  messageId : Uuid
  expiresAt : Time
deriving DecidableEq

/-- A row of device_sessions. -/
structure DeviceSession where
  (deviceId accountId : Uuid)
  (siteId instanceId : Text)
  connectionEpoch : Nat
  leaseUntil : Time
  deploymentEpoch : Nat
deriving DecidableEq

/-- A row of sites. -/
structure Site where
  siteId : Text
  (enabled draining : Bool)
deriving DecidableEq

/-- A row of usage_periods, which count outbound messages month by month. -/
structure UsagePeriod where
  accountId : Uuid
  (periodStart limitUnits reservedUnits refundedUnits : Int)
deriving DecidableEq

/-- A row of usage_ledger. -/
structure LedgerEntry where
  (accountId messageId : Uuid)
  periodStart : Int
  entryKind : EntryKind
deriving DecidableEq

/-- The tables that the delivery transactions write. -/
structure Tables where
  messages : List Message
  jobs : List DispatchJob
  fences : List DispatchFence
  attempts : List MessageAttempt
  events : List MessageEvent
  keys : List IdempotencyKey
  sessions : List DeviceSession
  sites : List Site
  periods : List UsagePeriod
  ledger : List LedgerEntry
deriving DecidableEq

/-- An empty database. -/
def Tables.empty : Tables :=
  { messages := [], jobs := [], fences := [], attempts := [], events := []
    keys := [], sessions := [], sites := [], periods := [], ledger := [] }

/-- The unique indexes of the written tables. -/
inductive UniqueIndex
  | messages | jobs | fences | fencesAttempt | dispatchFencesActiveDevice | attempts
  | attemptsGeneration | events | messageEventsSentSegment | idempotencyMessageId | ledger
deriving DecidableEq

/-- Why the database refuses a statement. -/
inductive DatabaseError
  | missingRow
  | uniqueViolation (index : UniqueIndex)
  | foreignKeyViolation | checkViolation | numericOutOfRange | raised
deriving DecidableEq

/-- Why a transaction fails. -/
inductive StoreError
  | database (error : DatabaseError)
  | invalidInput | idempotencyConflict | messageIdConflict | notFound | revoked | dispatchDisabled
  | staleFence | deviceBusy | queueFull | invalidTransition | policyCorrupt
  | lineNotReady (code : Text) (label : Option Text)
  | eventIdConflict | quotaNotConfigured | quotaExceeded | paymentHold | recipientSuppressed
  | runtimeIdentityUnavailable
deriving DecidableEq

/-- The quota policy of an account. -/
structure QuotaPolicy where
  limitUnits : Int
  (stripeTest invoiceBound : Bool)
deriving DecidableEq

/-- What billing says about an account. -/
structure BillingAccount where
  /-- Whether the hosted runtime admits the account, and whether it is bound to
  a billing customer. -/
  scope : Except StoreError (Bool × Bool)
  /-- Whether the binding is there when it is read again under the account
  lock. -/
  (boundAfterLock riskHeld : Bool)
  (reconciliations processedReconciliations pastDueSubscriptions : Nat)
  graceElapsed : Time → Bool
  policy : Option QuotaPolicy
  (invoiceTriggersInstalled invoiceBudgetAvailable : Bool)

/-- A request for a line by its label. -/
structure RouteRequest where
  (accountId deviceId : Uuid)
  label : Text
  fallbackForbidden : Bool
  allowedDevice : Option Uuid
deriving DecidableEq

/-- The line and the device that a request was routed to, or its refusal. -/
inductive RouteOutcome
  | admitted (lineId : Uuid) (label : Option Text) (deviceId : Uuid)
  | refused (code : Text) (label : Option Text)
deriving DecidableEq

/-- The rest of the database, as the delivery transactions read it. -/
structure Directory where
  /-- Whether an account exists, and whether it is disabled. -/
  accountDisabled : Uuid → Option Bool
  /-- Whether an account has a device, and whether it is revoked. -/
  deviceRevoked : Uuid → Uuid → Option Bool
  deploymentEpoch : Nat
  dispatchEnabled : Bool
  /-- Whether an account has an active suppression or hold of a recipient. -/
  suppressed : Uuid → Text → Bool
  billing : Uuid → BillingAccount
  routeLine : RouteRequest → Except StoreError RouteOutcome
  lineLabel : Uuid → Uuid → Option Text
  /-- Whether a line of an account is ready on a device at a time. -/
  lineReady : Uuid → Uuid → Uuid → Time → Bool
  /-- Whether the identity behind a sealed attempt could be locked. -/
  sealedIdentityLocked : Uuid → Uuid → Uuid → Uuid → Bool
  agentActionLive : Uuid → Uuid → Bool
  sealedGrantCurrent : Uuid → Bool

/-- What stays the same over the life of a deployment. -/
structure Deployment where
  /-- Whether the hosted runtime lets transactions enter. -/
  hostedEntry : Bool
  sha256 : Bytes → Bytes
  /-- The month that a moment lies in. -/
  monthStart : Time → Int
  idempotencyDays : Int

/-- The clocks that a transaction reads: the start of the transaction, the
advancing database clock, reading by reading, and the clock of the process. -/
structure Clock where
  now : Time
  reading : Nat → Time
  processMs : Int

/-- A transaction of the delivery store. -/
abbrev StoreTransaction := Transaction StoreError Tables

/-- Fences that keep their device busy. -/
def AttemptStatus.isActive : AttemptStatus → Bool
  | .granted | .submitting | .unknown => true
  | .submitted | .failed | .provedNoSubmit => false

/-- Callbacks of the sending of one segment. -/
def EvidenceCode.isSentCallback : EvidenceCode → Bool
  | .sentCallbackOk | .sentCallbackFailed => true
  | _ => false

/-- The unique indexes of the messages. -/
def messageIndexes : List (Table.Index Message UniqueIndex) :=
  [.on .messages fun row => some row.id]

/-- The unique indexes of the jobs. -/
def jobIndexes : List (Table.Index DispatchJob UniqueIndex) :=
  [.on .jobs fun row => some row.messageId]

/-- The index of the devices that are busy. -/
abbrev activeDeviceIndex : Table.Index DispatchFence UniqueIndex :=
  .on .dispatchFencesActiveDevice fun row =>
    if row.outcome.isActive then some row.deviceId else none

/-- The unique indexes of the fences. -/
def fenceIndexes : List (Table.Index DispatchFence UniqueIndex) :=
  [.on .fences fun row => some row.messageId, .on .fencesAttempt fun row => some row.attemptId,
    activeDeviceIndex]

/-- The unique indexes of the attempts. -/
def attemptIndexes : List (Table.Index MessageAttempt UniqueIndex) :=
  [.on .attempts fun row => some row.id,
    .on .attemptsGeneration fun row => some (row.messageId, row.generation)]

/-- The index under which callbacks of one segment are unique. -/
abbrev sentSegmentIndex : Table.Index MessageEvent UniqueIndex :=
  .on .messageEventsSentSegment fun row =>
    if row.evidenceCode.isSentCallback then
      row.segmentIndex.map fun segment => (row.attemptId, segment)
    else
      none

/-- The unique indexes of the events. -/
def eventIndexes : List (Table.Index MessageEvent UniqueIndex) :=
  [.on .events fun row => some row.id, sentSegmentIndex]

/-- The unique indexes of the ledger. -/
def ledgerIndexes : List (Table.Index LedgerEntry UniqueIndex) :=
  [.on .ledger fun row => some (row.accountId, row.messageId, row.entryKind)]

/-- The rows after a statement that the unique indexes allow. -/
def checked {ρ : Type} (rows : Except UniqueIndex (List ρ)) : StoreTransaction (List ρ) :=
  Transaction.compute (rows.mapError fun index => .database (.uniqueViolation index))

/-- A row that a query must find. -/
def expectRow {α : Type} (row : Option α) : StoreTransaction α :=
  Transaction.demand (.database .missingRow) row

/-- Insert a message unless its identifier is taken. -/
def insertMessage (message : Message) : StoreTransaction Bool := do
  let tables ← get
  match insert messageIndexes message tables.messages with
  | .ok messages => do
    set { tables with messages }
    pure true
  | .error _ => pure false

/-- Insert a job. -/
def insertJob (job : DispatchJob) : StoreTransaction PUnit := do
  let tables ← get
  let jobs ← checked (insert jobIndexes job tables.jobs)
  set { tables with jobs }

/-- Insert a fence. -/
def insertFence (fence : DispatchFence) : StoreTransaction PUnit := do
  let tables ← get
  let fences ← checked (insert fenceIndexes fence tables.fences)
  set { tables with fences }

/-- Insert an attempt. -/
def insertAttempt (attempt : MessageAttempt) : StoreTransaction PUnit := do
  let tables ← get
  let attempts ← checked (insert attemptIndexes attempt tables.attempts)
  set { tables with attempts }

/-- Insert an event. -/
def insertEvent (event : MessageEvent) : StoreTransaction PUnit := do
  let tables ← get
  let events ← checked (insert eventIndexes event tables.events)
  set { tables with events }

/-- Insert a row of the ledger. -/
def insertLedgerEntry (entry : LedgerEntry) : StoreTransaction PUnit := do
  let tables ← get
  let ledger ← checked (insert ledgerIndexes entry tables.ledger)
  set { tables with ledger }

/-- Change the selected messages. -/
def updateMessages (selects : Message → Bool)
    (change : Message → Message) : StoreTransaction PUnit :=
  modify fun tables =>
    { tables with messages := update selects change tables.messages }

/-- Change the selected jobs. -/
def updateJobs (selects : DispatchJob → Bool)
    (change : DispatchJob → DispatchJob) : StoreTransaction PUnit :=
  modify fun tables =>
    { tables with jobs := update selects change tables.jobs }

/-- Change the selected attempts. -/
def updateAttempts (selects : MessageAttempt → Bool)
    (change : MessageAttempt → MessageAttempt) : StoreTransaction PUnit :=
  modify fun tables =>
    { tables with attempts := update selects change tables.attempts }

/-- Fences change their outcome, which the index of active devices watches. -/
def updateFences (selects : DispatchFence → Bool)
    (change : DispatchFence → DispatchFence) : StoreTransaction PUnit := do
  let tables ← get
  let fences ← checked (rewrite fenceIndexes selects change tables.fences)
  set { tables with fences }

/-- Delete the selected fences. -/
def deleteFences (selects : DispatchFence → Bool) : StoreTransaction PUnit :=
  modify fun tables =>
    { tables with fences := delete selects tables.fences }

/-- Enter the hosted runtime, first thing in every transaction. -/
def enterHostedTransaction (deployment : Deployment) : StoreTransaction PUnit :=
  Transaction.refuse .runtimeIdentityUnavailable (!deployment.hostedEntry)

end Zrotext.Delivery
