import Zrotext.Webhook.Consistency
import Zrotext.Webhook.Workers

/-!
# The discipline of the outbox

What holds in every run of workers, recoveries, replays and new deliveries:
seven attempts at most, one open attempt for each lease, and no effect of a
lease that is over.
-/

namespace Zrotext.Webhook

open Foundation Delivery Keyed

/-- The delivery will not be attempted again. -/
def WebhookDelivery.IsTerminal (delivery : WebhookDelivery) : Prop :=
  delivery.status = .succeeded ∨ delivery.status = .dead

/-- A generation of a delivery is over. -/
def WebhookDelivery.IsPast (generation : Int) (delivery : WebhookDelivery) : Prop :=
  generation < delivery.generation ∨ (delivery.generation = generation ∧ delivery.IsTerminal)

def Past (deliveryId : Uuid) (generation : Int) (outbox : Outbox) : Prop :=
  ∃ delivery ∈ outbox.deliveries.rows, delivery.id = deliveryId ∧ delivery.IsPast generation

/-- How many attempts a generation of a delivery has. -/
def attemptCount (outbox : Outbox) (deliveryId : Uuid) (generation : Int) : Nat :=
  outbox.attempts.rows.countP (·.isOf deliveryId generation)

/-- Every attempt was there before, and no attempt was opened. -/
def Descends (outbox after : Outbox) : Prop :=
  ∀ attempt ∈ after.attempts.rows, ∃ old ∈ outbox.attempts.rows,
    old.id = attempt.id ∧ old.deliveryId = attempt.deliveryId ∧
      (attempt.isOpen = true → old.isOpen = true)

/-- What a transaction that neither claims nor defers keeps. -/
structure Keeps (outbox after : Outbox) : Prop where
  consistent : Consistent after
  counts : ∀ deliveryId generation, attemptCount after deliveryId generation =
      attemptCount outbox deliveryId generation
  descends : Descends outbox after
  past : ∀ deliveryId generation, Past deliveryId generation outbox →
    Past deliveryId generation after

section Changes

variable {delivery : WebhookDelivery}

theorem not_isPast_of_active (active : ¬ delivery.IsTerminal) (past : delivery.IsPast generation) :
    generation < delivery.generation := by
  rcases past with later | ⟨_, terminal⟩
  · exact later
  · exact absurd terminal active

section

variable (past : Past deliveryId generation outbox)

include past

variable (present : delivery ∈ outbox.deliveries.rows)

include present

theorem Past.replace (sameId : next.id = delivery.id)
    (stays : delivery.IsPast generation → next.IsPast generation)
    (isAfter : after.deliveries = outbox.deliveries.put next) :
    Past deliveryId generation after := by
  obtain ⟨known, listed, isKnown, isPast⟩ := past
  by_cases same : known.id = delivery.id
  · have isDelivery : known = delivery := eq_of_key listed present same
    refine ⟨next, isAfter ▸ mem_put_iff.mpr (.inl rfl), ?_, stays (isDelivery ▸ isPast)⟩
    rw [sameId, ← same, isKnown]
  · refine ⟨known, ?_, isKnown, isPast⟩
    rw [isAfter, mem_put_iff, sameId]
    exact .inr ⟨listed, same⟩

theorem Past.replace_active (active : ¬ delivery.IsTerminal)
    (sameId : next.id = delivery.id) (sameGeneration : next.generation = delivery.generation)
    (isAfter : after.deliveries = outbox.deliveries.put next) :
    Past deliveryId generation after := by
  refine past.replace present sameId (fun isPast => .inl ?_) isAfter
  rw [sameGeneration]
  exact not_isPast_of_active active isPast

/-- No transaction claims or defers in a generation that is over. -/
theorem Past.ne_of_active (active : ¬ delivery.IsTerminal) :
    ¬ (delivery.id = deliveryId ∧ delivery.generation = generation) := by
  rintro ⟨isDelivery, isGeneration⟩
  obtain ⟨known, listed, isKnown, isPast⟩ := past
  rw [eq_of_key listed present (isKnown.trans isDelivery.symm)] at isPast
  have later := not_isPast_of_active active isPast
  omega

end

theorem active_of_pending (pending : delivery.status = .pending) : ¬ delivery.IsTerminal := by
  simp [WebhookDelivery.IsTerminal, pending]

theorem active_of_leased (leased : delivery.status = .leased) : ¬ delivery.IsTerminal := by
  simp [WebhookDelivery.IsTerminal, leased]

theorem Keeps.refl (consistent : Consistent outbox) : Keeps outbox outbox :=
  ⟨consistent, fun _ _ => rfl, fun attempt listed => ⟨attempt, listed, rfl, rfl, id⟩, fun _ _ => id⟩

theorem Keeps.trans (first : Keeps outbox after) (second : Keeps after later) :
    Keeps outbox later where
  consistent := second.consistent
  counts := fun deliveryId generation =>
    (second.counts deliveryId generation).trans (first.counts deliveryId generation)
  descends := by
    intro attempt listed
    obtain ⟨middle, middleListed, sameId, sameDelivery, wasOpen⟩ := second.descends attempt listed
    obtain ⟨old, oldListed, oldId, oldDelivery, oldOpen⟩ :=
      first.descends middle middleListed
    exact ⟨old, oldListed, oldId.trans sameId, oldDelivery.trans sameDelivery,
      fun isOpen => oldOpen (wasOpen isOpen)⟩
  past := fun deliveryId generation past =>
    second.past deliveryId generation (first.past deliveryId generation past)

theorem Closes.keeps {next : WebhookDelivery} (closes : Closes delivery next outbox after)
    (consistent : Consistent outbox) :
    Keeps outbox after where
  consistent := consistent.closes closes
  counts := by
    intro deliveryId generation
    obtain ⟨selects, change, completes, _, _, isAttempts⟩ := closes.attempts
    unfold attemptCount
    rw [isAttempts, Table.countP_update_of_keeps]
    intro attempt
    rw [WebhookAttempt.isOf, completes.deliveryId, completes.generation]
    rfl
  descends := by
    intro attempt listed
    obtain ⟨selects, change, completes, _, _, isAttempts⟩ := closes.attempts
    rw [isAttempts] at listed
    rcases Table.mem_update_iff.mp listed with old | ⟨old, present, _, rfl⟩
    · exact ⟨attempt, old.1, rfl, rfl, id⟩
    · refine ⟨old, present, (completes.id old).symm,
        (completes.deliveryId old).symm, fun isOpen => ?_⟩
      rw [completes.closed] at isOpen
      cases isOpen
  past := fun _ _ past => past.replace_active closes.present (active_of_leased closes.leased)
    closes.sameId closes.sameGeneration closes.deliveries

theorem Replays.keeps (replays : Replays delivery outbox after) (consistent : Consistent outbox) :
    Keeps outbox after where
  consistent := consistent.replays replays
  counts := by
    intro deliveryId generation
    unfold attemptCount
    rw [replays.attempts]
  descends := by
    intro attempt listed
    rw [replays.attempts] at listed
    exact ⟨attempt, listed, rfl, rfl, id⟩
  past := by
    intro deliveryId generation past
    obtain ⟨now, isAfter⟩ := replays.deliveries
    refine Past.replace past replays.present ?_ (fun isPast => .inl ?_) isAfter
    · rfl
    change generation < delivery.generation + 1
    rcases isPast with later | ⟨same, _⟩ <;> omega

theorem Queues.keeps (queues : Queues delivery outbox after) (consistent : Consistent outbox) :
    Keeps outbox after where
  consistent := consistent.queues queues
  counts := by
    intro deliveryId generation
    unfold attemptCount
    rw [queues.attempts]
  descends := by
    intro attempt listed
    rw [queues.attempts] at listed
    exact ⟨attempt, listed, rfl, rfl, id⟩
  past := by
    rintro deliveryId generation ⟨known, listed, isKnown, isPast⟩
    refine ⟨known, ?_, isKnown, isPast⟩
    rw [queues.deliveries, mem_put_iff]
    exact .inr ⟨listed, lookup_eq_none_iff.mp queues.absent known listed⟩

theorem attemptCount_claims (claims : Claims delivery attemptId outbox after) :
    attemptCount after deliveryId generation = attemptCount outbox deliveryId generation +
        if delivery.id = deliveryId ∧ delivery.generation = generation
        then 1 else 0 := by
  unfold attemptCount
  have isOf : (WebhookAttempt.opened attemptId delivery).isOf deliveryId
      generation = decide (delivery.id = deliveryId ∧ delivery.generation = generation) := by
    rw [Bool.eq_iff_iff, WebhookAttempt.isOf, Bool.and_eq_true,
      decide_eq_true_eq, decide_eq_true_eq, decide_eq_true_eq]
    exact Iff.rfl
  rw [claims.attempts, rows_put_of_none claims.unused, List.countP_append,
    List.countP_singleton, isOf]
  simp only [decide_eq_true_eq]

theorem attemptCount_defers (defers : Defers delivery lease outbox after) :
    attemptCount after deliveryId generation +
        (if lease.deliveryId = deliveryId ∧ lease.generation = generation then 1 else 0) =
      attemptCount outbox deliveryId generation := by
  have split := @Table.countP_delete _ (·.isOpenFor lease)
    (·.isOf deliveryId generation) outbox.attempts.rows
  unfold attemptCount
  rw [defers.attempts]
  rw [← split]
  congr 1
  split_ifs with isLease
  · rw [← defers.single]
    refine List.countP_congr fun attempt _ => ?_
    rw [Bool.and_eq_true]
    refine ⟨fun selected => ⟨?_, selected⟩, And.right⟩
    have facts := isOpenFor_iff.mp selected
    simp [WebhookAttempt.isOf, facts.2.1, facts.2.2.1, isLease.1, isLease.2]
  · symm
    rw [List.countP_eq_zero]
    intro attempt _ both
    rw [Bool.and_eq_true] at both
    have facts := isOpenFor_iff.mp both.2
    have isOf := both.1
    simp only [WebhookAttempt.isOf, facts.2.1, facts.2.2.1, Bool.and_eq_true,
      decide_eq_true_eq] at isOf
    exact isLease isOf

/-- The attempts of a generation are those that the row counts. -/
theorem Consistent.attemptCount_eq (consistent : Consistent outbox)
    (present : delivery ∈ outbox.deliveries.rows) : delivery.attemptCount =
      (attemptCount outbox delivery.id delivery.generation : Nat) := by
  rw [(consistent.sound delivery present).counted, attemptCount, attemptsOf, List.countP_filter]
  congr 1
  refine List.countP_congr fun attempt _ => ?_
  simp [WebhookAttempt.isOf, and_comm]

end Changes

theorem recover_keeps (consistent : Consistent outbox)
    (lockedEndpoints lockedDeliveries : List Uuid) (now : Time) :
    Keeps outbox (recoverExpiredWebhookLeases lockedEndpoints lockedDeliveries now outbox) := by
  have each : ∀ (ids : List Uuid) (current : Outbox), Consistent current →
      Keeps current (ids.foldl (recoverOne lockedDeliveries now) current) := by
    intro ids
    induction ids with
    | nil => exact fun current holds => .refl holds
    | cons id rest ih =>
      intro current holds
      have first : Keeps current (recoverOne lockedDeliveries now current id) := by
        rcases recoverOne_cases holds lockedDeliveries now id with
          same | ⟨delivery, next, closes⟩
        · rw [same]
          exact .refl holds
        · exact closes.keeps holds
      exact first.trans (ih _ first.consistent)
  exact each _ outbox consistent

theorem queue_keeps (consistent : Consistent outbox)
    (queued : queueDeliveries accountId eventId drawn now outbox = .ok after) :
    Keeps outbox after := by
  unfold queueDeliveries at queued
  generalize outbox.endpoints.rows.filter _ = endpoints at queued
  induction endpoints generalizing outbox with
  | nil =>
    cases queued
    exact .refl consistent
  | cons endpoint rest ih =>
    rw [List.foldlM_cons] at queued
    obtain ⟨middle, inserted, queued⟩ := Fallible.bind_eq_ok.mp queued
    have first := (insertDelivery_eq_ok inserted).keeps consistent
    exact first.trans (ih first.consistent queued)

theorem settle_keeps (consistent : Consistent outbox)
    (succeeds : ∀ after, result = .ok after → Keeps outbox after) :
    Keeps outbox (settle result outbox) := by
  cases result with
  | error failure => exact .refl consistent
  | ok after => exact succeeds after rfl

namespace Task

/-- The sender is called at most once, and never for a claim that is undone. -/
structure Fits (task : Task) : Prop where
  once : task.sends ≤ 1
  undone : task.undone = true → task.sends = 0 ∧ task.phase = .ended
  unsent : task.phase = .claimed ∨ task.phase = .loaded ∨
    task.phase = .refused ∨ task.phase = .keyUnavailable → task.sends = 0

/-- What the accounting of claims sees of a task. -/
def entry (task : Task) : WebhookLease × Bool := (task.lease, task.undone)

theorem Fits.end {task : Task} (fits : task.Fits) : ({ task with phase := .ended } : Task).Fits :=
  ⟨fits.once, fun undone => ⟨(fits.undone undone).1, rfl⟩, by simp⟩

theorem Fits.load {task : Task} (fits : task.Fits) (now : Time) (outbox : Outbox) :
    (task.load now outbox).Fits := by
  unfold Task.load
  split
  · rename_i isClaimed _
    refine ⟨fits.once, fun undone => ?_, fun _ => fits.unsent (.inl isClaimed)⟩
    rw [(fits.undone undone).2] at isClaimed
    cases isClaimed
  · exact fits.end
  · exact fits

theorem Fits.prepare {task : Task} (fits : task.Fits) (preparation : Preparation) :
    (task.prepare preparation).Fits := by
  have standing : task.phase = .loaded → task.undone = false := by
    intro isLoaded
    refine Bool.eq_false_iff.mpr fun undone => ?_
    rw [(fits.undone undone).2] at isLoaded
    cases isLoaded
  unfold Task.prepare
  split
  · rename_i isLoaded
    have unsent := fits.unsent (.inr (.inl isLoaded))
    exact ⟨fits.once, by simp [standing isLoaded], fun _ => unsent⟩
  · rename_i isLoaded
    have unsent := fits.unsent (.inr (.inl isLoaded))
    exact ⟨fits.once, by simp [standing isLoaded], fun _ => unsent⟩
  · rename_i isLoaded
    have unsent := fits.unsent (.inr (.inl isLoaded))
    exact ⟨by simp [unsent], by simp [standing isLoaded], by simp⟩
  · exact fits

theorem entry_load (now : Time) (outbox : Outbox) (task : Task) :
    (task.load now outbox).entry = task.entry := by
  unfold load
  split <;> rfl

theorem entry_prepare (preparation : Preparation) (task : Task) :
    (task.prepare preparation).entry = task.entry := by
  unfold prepare
  split <;> rfl

end Task

end Zrotext.Webhook
