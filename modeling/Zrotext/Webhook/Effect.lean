import Zrotext.Webhook.Outbox

/-!
# What a webhook transaction does

Each transaction changes one delivery and its attempts.  The forms below say
how, with what it has checked before.
-/

namespace Zrotext.Webhook

open Foundation Delivery Fallible List

/-- A delivery is leased and an attempt is opened. -/
structure Claims (delivery : WebhookDelivery) (attemptId : Uuid)
    (outbox after : Outbox) : Prop where
  present : delivery ∈ outbox.deliveries.rows
  pending : delivery.status = .pending
  room : delivery.attemptCount < maxAttempts
  free : ∀ other ∈ outbox.deliveries.rows,
    other.endpointId = delivery.endpointId → other.status ≠ .leased
  unused : outbox.attempts.lookup attemptId = none
  deliveries : ∃ workerId now,
    after.deliveries = outbox.deliveries.put (delivery.claimed workerId now)
  attempts : after.attempts = outbox.attempts.put (.opened attemptId delivery)

theorem pick_eq_some {outbox : Outbox} (picked : outbox.pick accountId locked now =
    some (endpoint, delivery)) :
    delivery ∈ outbox.deliveries.rows ∧ delivery.isDue endpoint now := by
  have listed := mem_of_firstBy picked
  obtain ⟨candidate, _, isPair⟩ := mem_filterMap.mp listed
  obtain ⟨due, isDue, samePair⟩ := Option.map_eq_some_iff.mp isPair
  cases samePair
  exact mem_filter.mp (mem_of_firstBy isDue)

theorem claimWebhook_eq_ok {after : Outbox}
    (claimed : claimWebhook workerId attemptId lockedAccounts lockedEndpoints now
      outbox = .ok (lease, after)) :
    (lease = none ∧ after = outbox) ∨
      ∃ delivery held, lease = some held ∧ held.deliveryId = delivery.id ∧
        held.generation = delivery.generation ∧ held.attemptId = attemptId ∧
        Claims delivery attemptId outbox after := by
  obtain ⟨_, _, claimed⟩ := bind_eq_ok.mp claimed
  cases isAccount : outbox.pickAccount lockedAccounts now with
  | none =>
    rw [isAccount] at claimed
    cases claimed
    exact .inl ⟨rfl, rfl⟩
  | some account =>
    rw [isAccount] at claimed
    cases isPick : outbox.pick account.accountId lockedEndpoints now with
    | none =>
      simp only [isPick] at claimed
      cases claimed
      exact .inl ⟨rfl, rfl⟩
    | some pair =>
      obtain ⟨endpoint, delivery⟩ := pair
      simp only [isPick] at claimed
      obtain ⟨leased, isLeased, isResult⟩ := bind_eq_ok.mp claimed
      cases isResult
      obtain ⟨present, due⟩ := pick_eq_some isPick
      simp only [WebhookDelivery.isDue, Bool.and_eq_true, decide_eq_true_eq] at due
      simp only [Outbox.lease, bind_eq_ok, require_eq_ok, Bool.not_eq_true', any_eq_false,
        Option.isNone_iff_eq_none] at isLeased
      obtain ⟨_, free, _, unused, _, _, ⟨⟩⟩ := isLeased
      refine .inr ⟨delivery, _, rfl, rfl, rfl, rfl, present, due.1.1.2, due.2, ?_, unused,
        ⟨workerId, now, rfl⟩, rfl⟩
      intro other listed sameEndpoint isLeased
      exact free other listed (by simp [sameEndpoint, isLeased])

/-- The attempts of a delivery. -/
def attemptsOf (attempts : Keyed WebhookAttempt.id) (deliveryId : Uuid) : List WebhookAttempt :=
  attempts.rows.filter fun attempt => decide (attempt.deliveryId = deliveryId)

/-- The attempt is not completed. -/
def WebhookAttempt.isOpen (attempt : WebhookAttempt) : Bool := attempt.completedAt.isNone

/-- A change that completes attempts. -/
structure Completes (change : WebhookAttempt → WebhookAttempt) : Prop where
  id : ∀ attempt, (change attempt).id = attempt.id
  deliveryId : ∀ attempt, (change attempt).deliveryId = attempt.deliveryId
  generation : ∀ attempt, (change attempt).generation = attempt.generation
  closed : ∀ attempt, (change attempt).isOpen = false

theorem completes_completed (outcome : WebhookOutcome) (httpStatus : WebhookAttempt → Option Int)
    (now : Time) : Completes fun attempt =>
      attempt.completed outcome (httpStatus attempt) now :=
  ⟨fun _ => rfl, fun _ => rfl, fun _ => rfl, fun _ => rfl⟩

/-- A lease ends and its attempt is completed. -/
structure Closes (delivery next : WebhookDelivery) (outbox after : Outbox) : Prop where
  present : delivery ∈ outbox.deliveries.rows
  leased : delivery.status = .leased
  sameId : next.id = delivery.id
  sameEndpoint : next.endpointId = delivery.endpointId
  sameGeneration : next.generation = delivery.generation
  sameCount : next.attemptCount = delivery.attemptCount
  idle : next.status ≠ .leased
  deliveries : after.deliveries = outbox.deliveries.put next
  attempts : ∃ selects change, Completes change ∧
    (∀ attempt, selects attempt = true → attempt.deliveryId = delivery.id) ∧
    (∀ attempt ∈ outbox.attempts.rows, attempt.deliveryId = delivery.id →
      attempt.isOpen = true → selects attempt = true) ∧
    after.attempts.rows = Table.update selects change outbox.attempts.rows

/-- A lease ends and its attempt is removed. -/
structure Defers (delivery : WebhookDelivery) (lease : WebhookLease)
    (outbox after : Outbox) : Prop where
  present : delivery ∈ outbox.deliveries.rows
  leased : delivery.status = .leased
  isDelivery : lease.deliveryId = delivery.id
  isGeneration : lease.generation = delivery.generation
  single : outbox.attempts.rows.countP (·.isOpenFor lease) = 1
  deliveries : ∃ now, after.deliveries = outbox.deliveries.put (delivery.deferred now)
  attempts : after.attempts = outbox.attempts.remove (·.isOpenFor lease)

/-- The next generation of a delivery starts. -/
structure Replays (delivery : WebhookDelivery) (outbox after : Outbox) : Prop where
  present : delivery ∈ outbox.deliveries.rows
  dead : delivery.status = .dead
  deliveries : ∃ now, after.deliveries = outbox.deliveries.put (delivery.replayed now)
  attempts : after.attempts = outbox.attempts

/-- A delivery is queued. -/
structure Queues (delivery : WebhookDelivery) (outbox after : Outbox) : Prop where
  absent : outbox.deliveries.lookup delivery.id = none
  pending : delivery.status = .pending
  generation : delivery.generation = 1
  unattempted : delivery.attemptCount = 0
  deliveries : after.deliveries = outbox.deliveries.put delivery
  attempts : after.attempts = outbox.attempts

/-- The attempts of a delivery fit its row. -/
structure Sound (attempts : List WebhookAttempt) (delivery : WebhookDelivery) : Prop where
  counted : delivery.attemptCount = (attempts.countP fun attempt =>
    decide (attempt.generation = delivery.generation) : Nat)
  bounded : delivery.attemptCount ≤ maxAttempts
  past : ∀ attempt ∈ attempts, attempt.generation ≤ delivery.generation
  leased : delivery.status = .leased → ∃ attempt,
    attempts.filter WebhookAttempt.isOpen = [attempt] ∧ attempt.generation = delivery.generation ∧
      attempt.attemptNumber = delivery.attemptCount
  idle : delivery.status ≠ .leased → attempts.filter WebhookAttempt.isOpen = []

/-- Every delivery fits its attempts, and no endpoint has two leases. -/
structure Consistent (outbox : Outbox) : Prop where
  sound : ∀ delivery ∈ outbox.deliveries.rows,
    Sound (attemptsOf outbox.attempts delivery.id) delivery
  known : ∀ attempt ∈ outbox.attempts.rows,
    ∃ delivery ∈ outbox.deliveries.rows, delivery.id = attempt.deliveryId
  single : ∀ delivery ∈ outbox.deliveries.rows,
    ∀ other ∈ outbox.deliveries.rows, delivery.status = .leased →
      other.status = .leased → delivery.endpointId = other.endpointId →
      delivery = other

section Inversion

variable {outbox after : Outbox} {delivery : WebhookDelivery}

theorem deliveryOf_eq_some (found : outbox.deliveryOf lease = some delivery) :
    delivery ∈ outbox.deliveries.rows ∧ delivery.id = lease.deliveryId :=
  Keyed.lookup_eq_some_iff.mp (Option.filter_eq_some_iff.mp found).1

theorem isHeld_iff : delivery.isHeld lease now ↔
      delivery.status = .leased ∧ delivery.generation = lease.generation ∧
        delivery.attemptCount = lease.attemptNumber ∧ delivery.leaseOwner = some lease.workerId ∧
        (delivery.leaseUntil.any fun deadline => decide (now < deadline)) := by
  simp only [WebhookDelivery.isHeld, Bool.and_eq_true, decide_eq_true_eq, and_assoc]

theorem isOpenFor_iff {attempt : WebhookAttempt} : attempt.isOpenFor lease ↔
      attempt.id = lease.attemptId ∧ attempt.deliveryId = lease.deliveryId ∧
        attempt.generation = lease.generation ∧ attempt.attemptNumber = lease.attemptNumber ∧
        attempt.isOpen := by
  simp only [WebhookAttempt.isOpenFor, WebhookAttempt.isOpen, Bool.and_eq_true,
    decide_eq_true_eq, and_assoc]

/-- The open attempt of a leased delivery. -/
theorem Consistent.exists_last (consistent : Consistent outbox)
    (present : delivery ∈ outbox.deliveries.rows) (leased : delivery.status = .leased) :
    ∃ last : WebhookAttempt, last.generation = delivery.generation ∧
      last.attemptNumber = delivery.attemptCount ∧ ∀ attempt ∈ outbox.attempts.rows,
        attempt.deliveryId = delivery.id → attempt.isOpen → attempt = last := by
  obtain ⟨last, isLast, isGeneration, isNumber⟩ := (consistent.sound delivery present).leased leased
  refine ⟨last, isGeneration, isNumber, fun attempt listed ofDelivery isOpen => ?_⟩
  rw [← mem_singleton, ← isLast]
  exact mem_filter.mpr ⟨mem_filter.mpr ⟨listed, decide_eq_true ofDelivery⟩, isOpen⟩

theorem Consistent.isOpenFor_of_isOpen (consistent : Consistent outbox)
    (present : delivery ∈ outbox.deliveries.rows) (leased : delivery.status = .leased)
    (isDelivery : delivery.id = lease.deliveryId)
    (single : outbox.attempts.rows.countP (·.isOpenFor lease) = 1)
    (listed : attempt ∈ outbox.attempts.rows) (ofDelivery : attempt.deliveryId = delivery.id)
    (isOpen : attempt.isOpen) : attempt.isOpenFor lease := by
  obtain ⟨last, _, _, onlyOne⟩ := consistent.exists_last present leased
  obtain ⟨found, foundListed, isFound⟩ := countP_pos_iff.mp (single ▸ Nat.one_pos)
  have foundFacts := isOpenFor_iff.mp isFound
  rw [onlyOne attempt listed ofDelivery isOpen,
    ← onlyOne found foundListed (foundFacts.2.1.trans isDelivery.symm) foundFacts.2.2.2.2]
  exact isFound

/-- What becomes of a delivery whose lease ends. -/
def Released (delivery next : WebhookDelivery) : Prop :=
  next.id = delivery.id ∧ next.endpointId = delivery.endpointId ∧
    next.generation = delivery.generation ∧ next.attemptCount = delivery.attemptCount ∧
    next.status ≠ .leased

theorem failed_keeps (now : Time) (delivery : WebhookDelivery) :
    Released delivery (delivery.failed now) := by
  unfold WebhookDelivery.failed
  cases retryDelay delivery.attemptCount <;> exact ⟨rfl, rfl, rfl, rfl, nofun⟩

theorem finished_keeps (outcome : WebhookOutcome) (now : Time) (delivery : WebhookDelivery) :
    Released delivery (delivery.finished outcome now) := by
  cases outcome with
  | ack | policyRejected => exact ⟨rfl, rfl, rfl, rfl, nofun⟩
  | timeout | httpError | networkError => exact failed_keeps now delivery

theorem finishWebhook_eq_ok (consistent : Consistent outbox)
    (finished : finishWebhook lease outcome httpStatus now outbox = .ok after) :
    ∃ delivery next, Closes delivery next outbox after := by
  simp only [finishWebhook, bind_eq_ok, require_eq_ok, demand_eq_ok, decide_eq_true_eq,
    isHeld_iff] at finished
  obtain ⟨_, _, endpoint, _, delivery, isDelivery, _, ⟨leased, _⟩, _, one, ⟨⟩⟩ := finished
  obtain ⟨present, sameId⟩ := deliveryOf_eq_some isDelivery
  obtain ⟨keepsId, keepsEndpoint, keepsGeneration, keepsCount, idle⟩ :=
    finished_keeps outcome now delivery
  refine ⟨delivery, delivery.finished outcome now, present, leased, keepsId,
    keepsEndpoint, keepsGeneration, keepsCount, idle, rfl, ?_⟩
  refine ⟨(·.isOpenFor lease), (·.completed outcome httpStatus now),
    completes_completed outcome (fun _ => httpStatus) now, ?_, ?_, rfl⟩
  · intro attempt selected
    exact (isOpenFor_iff.mp selected).2.1.trans sameId.symm
  · exact fun attempt => consistent.isOpenFor_of_isOpen present leased sameId one

theorem deferWebhookKeyFailure_eq_ok
    (deferred : deferWebhookKeyFailure lease now outbox = .ok after) :
    ∃ delivery, Defers delivery lease outbox after := by
  simp only [deferWebhookKeyFailure, bind_eq_ok, require_eq_ok, demand_eq_ok, decide_eq_true_eq,
    isHeld_iff] at deferred
  obtain ⟨delivery, isDelivery, _, ⟨leased, sameGeneration, _⟩, _, single, _, _, ⟨⟩⟩ := deferred
  obtain ⟨present, sameId⟩ := deliveryOf_eq_some isDelivery
  exact ⟨delivery, present, leased, sameId.symm, sameGeneration.symm, single, ⟨now, rfl⟩, rfl⟩

theorem recoverOne_cases (consistent : Consistent outbox) (locked : List Uuid) (now : Time)
    (deliveryId : Uuid) : recoverOne locked now outbox deliveryId = outbox ∨
      ∃ delivery next, Closes delivery next outbox (recoverOne locked now outbox deliveryId) := by
  unfold recoverOne
  cases found : (outbox.deliveries.lookup deliveryId).filter fun delivery =>
      delivery.hasExpired now && !locked.contains deliveryId with
  | none => exact .inl rfl
  | some delivery =>
    obtain ⟨isRow, expired⟩ := Option.filter_eq_some_iff.mp found
    have present := (Keyed.lookup_eq_some_iff.mp isRow).1
    simp only [WebhookDelivery.hasExpired, Bool.and_eq_true, decide_eq_true_eq] at expired
    have leased := expired.1.1
    obtain ⟨keepsId, keepsEndpoint, keepsGeneration, keepsCount, idle⟩ := failed_keeps now delivery
    refine .inr ⟨delivery, delivery.failed now, present, leased, keepsId,
      keepsEndpoint, keepsGeneration, keepsCount, idle, rfl, ?_⟩
    refine ⟨(·.isLastOf delivery), _, completes_completed .timeout
      WebhookAttempt.httpStatus now, ?_, ?_, rfl⟩
    · intro attempt selected
      simp only [WebhookAttempt.isLastOf, Bool.and_eq_true, decide_eq_true_eq] at selected
      exact selected.1.1.1
    · intro attempt listed ofDelivery isOpen
      obtain ⟨last, isGeneration, isNumber, onlyOne⟩ := consistent.exists_last present leased
      rw [← onlyOne attempt listed ofDelivery isOpen] at isGeneration isNumber
      have stillOpen : attempt.completedAt.isNone := isOpen
      simp [WebhookAttempt.isLastOf, ofDelivery, isGeneration, isNumber, stillOpen]

theorem replay_eq_ok (replayed : replay accountId endpointId deliveryId requestId now outbox =
    .ok after) :
    after = outbox ∨ ∃ delivery, Replays delivery outbox after := by
  simp only [replay, bind_eq_ok] at replayed
  obtain ⟨endpoint, _, delivery, isDelivery, replayed⟩ := replayed
  cases isPrior : outbox.replays.lookup (accountId, requestId) with
  | some prior =>
    simp only [isPrior] at replayed
    obtain ⟨_, _, replayed⟩ := bind_eq_ok.mp replayed
    cases replayed
    exact .inl rfl
  | none =>
    simp only [isPrior, bind_eq_ok, require_eq_ok, WebhookDelivery.isExhausted, Bool.and_eq_true,
      decide_eq_true_eq] at replayed
    obtain ⟨_, exhausted, _, _, _, _, _, _, ⟨⟩⟩ := replayed
    have isRow := (Option.filter_eq_some_iff.mp (demand_eq_ok.mp isDelivery)).1
    exact .inr ⟨delivery, (Keyed.lookup_eq_some_iff.mp isRow).1, exhausted.2.1.1.1.1, ⟨now, rfl⟩,
      rfl⟩

theorem insertDelivery_eq_ok {id : Uuid} (inserted :
    insertDelivery (.queued id endpoint eventId now) outbox = .ok after) :
    Queues (.queued id endpoint eventId now) outbox after := by
  simp only [insertDelivery, bind_eq_ok] at inserted
  obtain ⟨_, absent, _, _, ⟨⟩⟩ := inserted
  exact ⟨Option.isNone_iff_eq_none.mp (require_eq_ok.mp absent), rfl, rfl, rfl, rfl, rfl⟩

end Inversion

end Zrotext.Webhook
