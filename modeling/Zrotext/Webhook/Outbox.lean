import Zrotext.Delivery.Request
import Zrotext.Foundation.Fallible
import Zrotext.Foundation.Keyed

/-!
# The webhook outbox

The tables of webhook deliveries and the transactions that lease, finish, defer,
recover and replay them.  A transaction that fails is rolled back.
-/

namespace Zrotext.Webhook

open Foundation Delivery Fallible

inductive Status
  | pending | leased | succeeded | dead
deriving DecidableEq

inductive TerminalReason
  | failed | policyRejected | retired | legacy
deriving DecidableEq

inductive WebhookOutcome
  | ack | timeout | httpError | networkError | policyRejected
deriving DecidableEq

structure Endpoint where
  (id accountId : Uuid)
  enabled : Bool
  lastClaimSeq : Int
  (failureStartedAt pausedAt : Option Time)
deriving DecidableEq

/-- The place of an account in the order of claims. -/
structure DispatchAccount where
  accountId : Uuid
  lastClaimSeq : Int
deriving DecidableEq

structure WebhookDelivery where
  (id accountId endpointId eventId : Uuid)
  status : Status
  (generation attemptCount : Int)
  nextAttemptAt : Time
  leaseOwner : Option Text
  leaseUntil : Option Time
  terminalReason : Option TerminalReason
  keyFailureCount : Int
deriving DecidableEq

structure WebhookAttempt where
  (id deliveryId : Uuid)
  (generation attemptNumber : Int)
  completedAt : Option Time
  outcome : Option WebhookOutcome
  httpStatus : Option Int
deriving DecidableEq

structure ReplayRequest where
  (accountId requestId deliveryId : Uuid)
  generation : Int
deriving DecidableEq

def ReplayRequest.key (request : ReplayRequest) : Uuid × Uuid :=
  (request.accountId, request.requestId)

structure Outbox where
  endpoints : Keyed Endpoint.id
  accounts : Keyed DispatchAccount.accountId
  deliveries : Keyed WebhookDelivery.id
  attempts : Keyed WebhookAttempt.id
  replays : Keyed ReplayRequest.key
  claimSequence : Int
deriving DecidableEq

inductive WebhookError
  | invalidInput | staleLease | notFound | replayConflict | replayLimit | database
deriving DecidableEq

/-- What a worker holds of a delivery. -/
structure WebhookLease where
  (deliveryId accountId endpointId eventId attemptId : Uuid)
  (generation attemptNumber : Int)
  workerId : Text
deriving DecidableEq

/-- The rows of a query in an order, the first one only. -/
def firstBy {ρ : Type} (before : ρ → ρ → Prop) [DecidableRel before] (rows : List ρ) : Option ρ :=
  (rows.insertionSort before).head?

theorem mem_of_firstBy {ρ : Type} {before : ρ → ρ → Prop} [DecidableRel before] {rows : List ρ}
    {row : ρ} (isFirst : firstBy before rows = some row) : row ∈ rows :=
  (List.mem_insertionSort before).mp (List.mem_of_mem_head? isFirst)

/-- A delivery as it is inserted. -/
def WebhookDelivery.queued (id : Uuid) (endpoint : Endpoint) (eventId : Uuid)
    (now : Time) : WebhookDelivery :=
  { id, accountId := endpoint.accountId, endpointId := endpoint.id, eventId
    status := .pending, generation := 1, attemptCount := 0
    nextAttemptAt := now, leaseOwner := none, leaseUntil := none
    terminalReason := none, keyFailureCount := 0 }

variable (outcome : WebhookOutcome) (delivery : WebhookDelivery) (outbox : Outbox) (now : Time)

/-- Insert a delivery if its identifier and its event are new to the
endpoint. -/
def insertDelivery : Except WebhookError Outbox := do
  require .database (outbox.deliveries.lookup delivery.id).isNone
  require .database (!outbox.deliveries.rows.any fun known =>
    decide (known.endpointId = delivery.endpointId) && decide (known.eventId = delivery.eventId))
  return { outbox with deliveries := outbox.deliveries.put delivery }

/-- Queue an event for the enabled endpoints of an account. -/
def queueDeliveries (accountId eventId : Uuid) (drawn : Uuid → Uuid) (now : Time)
    (outbox : Outbox) : Except WebhookError Outbox :=
  (outbox.endpoints.rows.filter fun endpoint =>
    decide (endpoint.accountId = accountId) && endpoint.enabled).foldlM (fun outbox endpoint =>
        insertDelivery (.queued (drawn endpoint.id) endpoint eventId now) outbox)
      outbox

def maxAttempts : Int := 7

variable (account : DispatchAccount) (endpoint : Endpoint) (attemptId : Uuid)
  (attempt : WebhookAttempt)

/-- The delivery waits at an endpoint and is due. -/
def WebhookDelivery.isDue (now : Time) (delivery : WebhookDelivery) : Bool :=
  decide (delivery.endpointId = endpoint.id) &&
    decide (delivery.status = .pending) &&
    decide (delivery.nextAttemptAt ≤ now) &&
    decide (delivery.attemptCount < maxAttempts)

/-- The endpoint takes deliveries and none is leased. -/
def Outbox.isOpen : Bool :=
  endpoint.enabled && endpoint.pausedAt.isNone && !outbox.deliveries.rows.any fun delivery =>
      decide (delivery.endpointId = endpoint.id) &&
        decide (delivery.status = .leased)

def Outbox.accountHasWork : Bool := outbox.endpoints.rows.any fun endpoint =>
    decide (endpoint.accountId = account.accountId) &&
      outbox.isOpen endpoint && outbox.deliveries.rows.any (·.isDue endpoint now)

def DispatchAccount.before (other : DispatchAccount) : Prop :=
  account.lastClaimSeq < other.lastClaimSeq ∨ account.lastClaimSeq = other.lastClaimSeq ∧
      account.accountId ≤ other.accountId

instance : DecidableRel DispatchAccount.before := fun _ _ =>
  inferInstanceAs (Decidable (_ ∨ _))

def Endpoint.before (endpoint other : Endpoint × WebhookDelivery) : Prop :=
  endpoint.1.lastClaimSeq < other.1.lastClaimSeq ∨ endpoint.1.lastClaimSeq = other.1.lastClaimSeq ∧
      endpoint.1.id ≤ other.1.id

instance : DecidableRel Endpoint.before := fun _ _ =>
  inferInstanceAs (Decidable (_ ∨ _))

def WebhookDelivery.before (other : WebhookDelivery) : Prop :=
  delivery.nextAttemptAt < other.nextAttemptAt ∨
    delivery.nextAttemptAt = other.nextAttemptAt ∧ delivery.id ≤ other.id

instance : DecidableRel WebhookDelivery.before := fun _ _ =>
  inferInstanceAs (Decidable (_ ∨ _))

/-- The account whose turn it is. -/
def Outbox.pickAccount (locked : List Uuid) (now : Time) : Option DispatchAccount :=
  firstBy DispatchAccount.before (outbox.accounts.rows.filter fun account =>
    outbox.accountHasWork now account && !locked.contains account.accountId)

/-- The endpoint of an account whose turn it is, with its earliest due
delivery. -/
def Outbox.pick (accountId : Uuid) (locked : List Uuid)
    (now : Time) : Option (Endpoint × WebhookDelivery) :=
  firstBy Endpoint.before ((outbox.endpoints.rows.filter fun endpoint =>
    decide (endpoint.accountId = accountId) && outbox.isOpen endpoint &&
      !locked.contains endpoint.id).filterMap fun endpoint =>
        (firstBy WebhookDelivery.before (outbox.deliveries.rows.filter (·.isDue endpoint now))).map
            fun delivery => (endpoint, delivery))

def leaseSeconds : Int := 30

/-- The delivery after a claim. -/
def WebhookDelivery.claimed (workerId : Text) (now : Time)
    (delivery : WebhookDelivery) : WebhookDelivery :=
  { delivery with
    status := .leased, attemptCount := delivery.attemptCount + 1, leaseOwner := some workerId
    leaseUntil := some (now + seconds leaseSeconds) }

variable (delivery : WebhookDelivery)

/-- The attempt that a claim opens. -/
def WebhookAttempt.opened : WebhookAttempt :=
  { id := attemptId, deliveryId := delivery.id, generation := delivery.generation
    attemptNumber := delivery.attemptCount + 1
    completedAt := none, outcome := none, httpStatus := none }

@[simp]
theorem WebhookAttempt.deliveryId_opened :
    (WebhookAttempt.opened attemptId delivery).deliveryId = delivery.id := rfl

@[simp]
theorem WebhookAttempt.generation_opened :
    (WebhookAttempt.opened attemptId delivery).generation = delivery.generation := rfl

/-- Two attempts with the same number. -/
def WebhookAttempt.clashes (other : WebhookAttempt) : Bool :=
  decide (attempt.deliveryId = other.deliveryId) &&
    decide (attempt.generation = other.generation) &&
    decide (attempt.attemptNumber = other.attemptNumber)

/-- Lease a pending delivery, open its attempt and advance the cursors. -/
def Outbox.lease (workerId : Text) (attemptId : Uuid)
    (now : Time) : Except WebhookError Outbox := do
  let attempt := WebhookAttempt.opened attemptId delivery
  require .database (!outbox.deliveries.rows.any fun known =>
    decide (known.endpointId = delivery.endpointId) &&
      decide (known.status = .leased))
  require .database (outbox.attempts.lookup attemptId).isNone
  require .database (!outbox.attempts.rows.any attempt.clashes)
  let sequence := outbox.claimSequence + 1
  return { outbox with
    deliveries := outbox.deliveries.put (delivery.claimed workerId now)
    attempts := outbox.attempts.put attempt, claimSequence := sequence
    accounts := outbox.accounts.put { account with lastClaimSeq := sequence }
    endpoints := outbox.endpoints.put { endpoint with lastClaimSeq := sequence } }

/-- Claim one due delivery. -/
def claimWebhook (workerId : Text) (attemptId : Uuid) (lockedAccounts lockedEndpoints : List Uuid)
    (now : Time) (outbox : Outbox) : Except WebhookError (Option WebhookLease × Outbox) := do
  require .invalidInput
    (!workerId.isEmpty && decide ((utf8 workerId).length ≤ 64))
  match outbox.pickAccount lockedAccounts now with
  | none => return (none, outbox)
  | some account =>
    match outbox.pick account.accountId lockedEndpoints now with
    | none => return (none, outbox)
    | some (endpoint, delivery) =>
      let leased ← outbox.lease account endpoint delivery workerId attemptId now
      return (some
        { deliveryId := delivery.id, accountId := account.accountId
          endpointId := endpoint.id, eventId := delivery.eventId, attemptId
          generation := delivery.generation
          attemptNumber := delivery.attemptCount + 1, workerId }, leased)

def retryDelaySeconds : List Int := [60, 300, 900, 3600, 21600, 86400]

/-- How long to wait after a number of attempts. -/
def retryDelay (attemptCount : Int) : Option Int :=
  if attemptCount < 1 then none
  else retryDelaySeconds[(attemptCount - 1).toNat]?

/-- The delivery without its lease. -/
def WebhookDelivery.released (status : Status) (delivery : WebhookDelivery) : WebhookDelivery :=
  { delivery with status, leaseOwner := none, leaseUntil := none }

/-- The delivery after an attempt that failed: it waits for the next one or
dies. -/
def WebhookDelivery.failed (now : Time) (delivery : WebhookDelivery) : WebhookDelivery :=
  match retryDelay delivery.attemptCount with
  | some delay =>
    { delivery.released .pending with nextAttemptAt := now + seconds delay }
  | none => { delivery.released .dead with terminalReason := some .failed }

/-- The delivery after an attempt. -/
def WebhookDelivery.finished (delivery : WebhookDelivery) : WebhookDelivery :=
  match outcome with
  | .ack => delivery.released .succeeded
  | .policyRejected =>
    { delivery.released .dead with terminalReason := some .policyRejected }
  | .timeout | .httpError | .networkError => delivery.failed now

def WebhookAttempt.completed (httpStatus : Option Int) (now : Time)
    (attempt : WebhookAttempt) : WebhookAttempt :=
  { attempt with
    completedAt := some now, outcome := some outcome, httpStatus }

def pauseSeconds : Int := 72 * 3600

/-- The endpoint after an attempt: it is paused when it has failed for long. -/
def Endpoint.observed : Endpoint :=
  let started := endpoint.failureStartedAt.getD now
  match outcome with
  | .ack => { endpoint with failureStartedAt := none }
  | .timeout | .httpError | .networkError =>
    { endpoint with
      pausedAt :=
        if started ≤ now - seconds pauseSeconds
        then some (endpoint.pausedAt.getD now)
        else endpoint.pausedAt
      failureStartedAt := some started }
  | .policyRejected => endpoint

/-- The shapes of a transport result. -/
def validResult (httpStatus : Option Int) : Bool :=
  match outcome, httpStatus with
  | .ack, some status => decide (200 ≤ status) && decide (status ≤ 299)
  | .httpError, some status | .policyRejected, some status =>
    decide (300 ≤ status) && decide (status ≤ 599)
  | .policyRejected, none | .timeout, none | .networkError, none => true
  | _, _ => false

variable (lease : WebhookLease)

/-- The delivery of a lease. -/
def Outbox.deliveryOf : Option WebhookDelivery :=
  (outbox.deliveries.lookup lease.deliveryId).filter fun delivery =>
    decide (delivery.accountId = lease.accountId) &&
      decide (delivery.endpointId = lease.endpointId) &&
      decide (delivery.eventId = lease.eventId)

/-- The delivery is held under a lease. -/
def WebhookDelivery.isHeld (now : Time) (delivery : WebhookDelivery) : Bool :=
  decide (delivery.status = .leased) &&
    decide (delivery.generation = lease.generation) &&
    decide (delivery.attemptCount = lease.attemptNumber) &&
    decide (delivery.leaseOwner = some lease.workerId) &&
    delivery.leaseUntil.any fun deadline => decide (now < deadline)

/-- The attempt is that of a lease, and it is not completed. -/
def WebhookAttempt.isOpenFor (attempt : WebhookAttempt) : Bool :=
  decide (attempt.id = lease.attemptId) &&
    decide (attempt.deliveryId = lease.deliveryId) &&
    decide (attempt.generation = lease.generation) &&
    decide (attempt.attemptNumber = lease.attemptNumber) &&
    attempt.completedAt.isNone

/-- The payload is read only under a current lease. -/
def loadWebhookPayload (now : Time) (outbox : Outbox) : Except WebhookError Unit := do
  let delivery ← demand .staleLease (outbox.deliveryOf lease)
  require .staleLease (delivery.isHeld lease now)
  require .staleLease ((outbox.endpoints.lookup lease.endpointId).any fun endpoint =>
      decide (endpoint.accountId = lease.accountId) && endpoint.enabled)

/-- Store one transport result. -/
def finishWebhook (outcome : WebhookOutcome) (httpStatus : Option Int)
    (now : Time) (outbox : Outbox) : Except WebhookError Outbox := do
  require .invalidInput (validResult outcome httpStatus)
  let endpoint ← demand .database ((outbox.endpoints.lookup lease.endpointId).filter fun endpoint =>
      decide (endpoint.accountId = lease.accountId))
  let delivery ← demand .staleLease (outbox.deliveryOf lease)
  require .staleLease (delivery.isHeld lease now)
  require .staleLease (decide (outbox.attempts.rows.countP (·.isOpenFor lease) = 1))
  return { outbox with
    attempts := outbox.attempts.revise (·.isOpenFor lease)
      (·.completed outcome httpStatus now) (fun _ => rfl)
    deliveries := outbox.deliveries.put (delivery.finished outcome now)
    endpoints := outbox.endpoints.put (endpoint.observed outcome now) }

def keyFailureSeconds : Int := 300

def maxKeyFailures : Int := 2147483647

/-- The delivery after a failure of the key: the attempt does not count. -/
def WebhookDelivery.deferred (delivery : WebhookDelivery) : WebhookDelivery :=
  { delivery.released .pending with
    attemptCount := delivery.attemptCount - 1, keyFailureCount := delivery.keyFailureCount + 1
    nextAttemptAt := now + seconds keyFailureSeconds }

/-- Return a delivery whose key was unavailable to the queue. -/
def deferWebhookKeyFailure (now : Time) (outbox : Outbox) : Except WebhookError Outbox := do
  let delivery ← demand .staleLease (outbox.deliveryOf lease)
  require .staleLease (delivery.isHeld lease now)
  require .staleLease (decide (outbox.attempts.rows.countP (·.isOpenFor lease) = 1))
  require .database (decide (delivery.keyFailureCount < maxKeyFailures))
  return { outbox with
    attempts := outbox.attempts.remove (·.isOpenFor lease)
    deliveries := outbox.deliveries.put (delivery.deferred now) }

def recoveryLimit : Nat := 100

/-- The lease of the delivery is over. -/
def WebhookDelivery.hasExpired (delivery : WebhookDelivery) : Bool :=
  decide (delivery.status = .leased) &&
    delivery.leaseUntil.any fun deadline => decide (deadline ≤ now)

def WebhookDelivery.expiresBefore (other : WebhookDelivery) : Prop :=
  delivery.leaseUntil.getD 0 < other.leaseUntil.getD 0 ∨
    delivery.leaseUntil.getD 0 = other.leaseUntil.getD 0 ∧ delivery.id ≤ other.id

instance : DecidableRel WebhookDelivery.expiresBefore := fun _ _ =>
  inferInstanceAs (Decidable (_ ∨ _))

/-- The attempt is the last one of a delivery, and it is not completed. -/
def WebhookAttempt.isLastOf : Bool :=
  decide (attempt.deliveryId = delivery.id) &&
    decide (attempt.generation = delivery.generation) &&
    decide (attempt.attemptNumber = delivery.attemptCount) &&
    attempt.completedAt.isNone

/-- Close one lease that is over, unless another worker holds its row. -/
def recoverOne (locked : List Uuid) (now : Time) (outbox : Outbox) (deliveryId : Uuid) : Outbox :=
  match (outbox.deliveries.lookup deliveryId).filter fun delivery =>
      delivery.hasExpired now && !locked.contains deliveryId with
  | none => outbox
  | some delivery =>
    { outbox with
      attempts := outbox.attempts.revise (·.isLastOf delivery)
        (fun attempt => attempt.completed .timeout attempt.httpStatus now)
        (fun _ => rfl)
      deliveries := outbox.deliveries.put (delivery.failed now) }

/-- Close the leases that are over. -/
def recoverExpiredWebhookLeases (lockedEndpoints lockedDeliveries : List Uuid) (now : Time)
    (outbox : Outbox) : Outbox :=
  let expired := (outbox.deliveries.rows.filter fun delivery =>
    delivery.hasExpired now && (outbox.endpoints.lookup delivery.endpointId).isSome &&
      !lockedEndpoints.contains delivery.endpointId).insertionSort WebhookDelivery.expiresBefore
  ((expired.take recoveryLimit).map WebhookDelivery.id).foldl
    (recoverOne lockedDeliveries now) outbox

def maxGeneration : Int := 3

/-- The attempt is a completed failure. -/
def WebhookAttempt.isFailure : Bool := attempt.completedAt.isSome &&
    (decide (attempt.outcome = some .timeout) || decide (attempt.outcome = some .httpError) ||
      decide (attempt.outcome = some .networkError))

/-- The attempt belongs to a generation of a delivery. -/
def WebhookAttempt.isOf (deliveryId : Uuid) (generation : Int) (attempt : WebhookAttempt) : Bool :=
  decide (attempt.deliveryId = deliveryId) &&
    decide (attempt.generation = generation)

/-- The delivery at the start of its next generation. -/
def WebhookDelivery.replayed (delivery : WebhookDelivery) : WebhookDelivery :=
  { delivery with
    status := .pending, terminalReason := none, generation := delivery.generation + 1
    attemptCount := 0, nextAttemptAt := now }

/-- The delivery died after its last attempt. -/
def WebhookDelivery.isExhausted : Bool :=
  decide (delivery.status = .dead) &&
    decide (delivery.terminalReason = some .failed) &&
    decide (delivery.attemptCount = maxAttempts) &&
    delivery.leaseOwner.isNone && delivery.leaseUntil.isNone

/-- All attempts of the generation are there and failed. -/
def Outbox.allFailed (delivery : WebhookDelivery) : Bool :=
  let attempts := outbox.attempts.rows.filter (·.isOf delivery.id delivery.generation)
  decide (attempts.length = 7) && attempts.all WebhookAttempt.isFailure

/-- Start the next generation of a dead delivery, once for each request. -/
def replay (accountId endpointId deliveryId requestId : Uuid) (now : Time)
    (outbox : Outbox) : Except WebhookError Outbox := do
  let endpoint ← demand .notFound ((outbox.endpoints.lookup endpointId).filter fun endpoint =>
      decide (endpoint.accountId = accountId))
  let delivery ← demand .notFound ((outbox.deliveries.lookup deliveryId).filter fun delivery =>
      decide (delivery.accountId = accountId) &&
        decide (delivery.endpointId = endpointId))
  match outbox.replays.lookup (accountId, requestId) with
  | some prior =>
    require .replayConflict (decide (prior.deliveryId = deliveryId))
    return outbox
  | none =>
    require .replayConflict (endpoint.enabled && delivery.isExhausted)
    require .replayLimit (decide (delivery.generation < maxGeneration))
    require .replayConflict (outbox.allFailed delivery)
    require .replayConflict (!outbox.replays.rows.any fun known =>
      decide (known.deliveryId = deliveryId) &&
        decide (known.generation = delivery.generation + 1))
    return { outbox with
      replays := outbox.replays.put
        ⟨accountId, requestId, deliveryId, delivery.generation + 1⟩
      deliveries := outbox.deliveries.put (delivery.replayed now) }

end Zrotext.Webhook
