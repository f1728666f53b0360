import Zrotext.Webhook.Effect

/-!
# Consistency of the outbox

Every transaction keeps the attempts of each delivery in step with its row.
-/

namespace Zrotext.Webhook

open Foundation Delivery List Table Keyed

namespace Sound

theorem queued (pending : delivery.status = .pending) (unattempted : delivery.attemptCount = 0) :
    Sound [] delivery where
  counted := unattempted
  bounded := by
    rw [unattempted]
    decide
  past := nofun
  leased := by
    intro leased
    rw [pending] at leased
    cases leased
  idle := fun _ => rfl

section

variable (sound : Sound attempts delivery)

include sound

theorem claim (pending : delivery.status = .pending) (room : delivery.attemptCount < maxAttempts) :
    Sound (attempts ++ [.opened attemptId delivery]) (delivery.claimed workerId now) where
  counted := by
    have counted := sound.counted
    change delivery.attemptCount + 1 = ((attempts ++
      [WebhookAttempt.opened attemptId delivery]).countP fun attempt =>
        decide (attempt.generation = delivery.generation) : Nat)
    rw [countP_append, countP_singleton,
      WebhookAttempt.generation_opened, if_pos (decide_eq_true rfl)]
    omega
  bounded := room
  past := by
    exact forall_mem_concat sound.past (le_refl _)
  leased := by
    intro _
    refine ⟨.opened attemptId delivery, ?_, rfl, rfl⟩
    rw [filter_append, sound.idle (by rw [pending]; decide)]
    rfl
  idle := fun idle => absurd rfl idle

theorem close {next : WebhookDelivery} (completes : Completes change)
    (covers : ∀ attempt ∈ attempts, attempt.isOpen → selects attempt)
    (sameGeneration : next.generation = delivery.generation)
    (sameCount : next.attemptCount = delivery.attemptCount) (idle : next.status ≠ .leased) :
    Sound (update selects change attempts) next where
  counted := by
    rw [sameCount, sameGeneration, sound.counted, countP_update_of_keeps]
    intro attempt
    rw [completes.generation]
  bounded := sameCount ▸ sound.bounded
  past := by
    intro attempt listed
    rw [sameGeneration]
    rcases mem_update_iff.mp listed with old | ⟨old, present, _, rfl⟩
    · exact sound.past attempt old.1
    · rw [completes.generation]
      exact sound.past old present
  leased := fun leased => absurd leased idle
  idle := by
    intro _
    rw [filter_eq_nil_iff]
    intro attempt listed isOpen
    rcases mem_update_iff.mp listed with ⟨old, unselected⟩ | ⟨old, _, _, rfl⟩
    · rw [covers attempt old isOpen] at unselected
      cases unselected
    · rw [completes.closed] at isOpen
      cases isOpen

theorem defer (covers : ∀ attempt ∈ attempts, attempt.isOpen → selects attempt)
    (current : ∀ attempt ∈ attempts, selects attempt →
      attempt.generation = delivery.generation)
    (single : attempts.countP selects = 1) :
    Sound (delete selects attempts) (delivery.deferred now) where
  counted := by
    have selected : attempts.countP (fun attempt =>
        decide (attempt.generation = delivery.generation) && selects attempt) = 1 := by
      rw [← single]
      refine countP_congr fun attempt listed => ?_
      rw [Bool.and_eq_true]
      exact ⟨And.right, fun isSelected =>
        ⟨decide_eq_true (current attempt listed isSelected), isSelected⟩⟩
    have split := @countP_delete _ selects (fun attempt =>
      decide (attempt.generation = delivery.generation)) attempts
    have counted := sound.counted
    change delivery.attemptCount - 1 = ((delete selects attempts).countP
      fun attempt => decide (attempt.generation = delivery.generation) : Nat)
    omega
  bounded := by
    have bounded := sound.bounded
    change delivery.attemptCount - 1 ≤ _
    omega
  past := fun attempt listed =>
    sound.past attempt (mem_filter.mp listed).1
  leased := nofun
  idle := by
    intro _
    rw [filter_eq_nil_iff]
    intro attempt listed isOpen
    obtain ⟨old, unselected⟩ := mem_filter.mp listed
    rw [covers attempt old isOpen] at unselected
    cases unselected

theorem replay (dead : delivery.status = .dead) : Sound attempts (delivery.replayed now) where
  counted := by
    rw [countP_eq_zero.mpr]
    · rfl
    · intro attempt listed isNext
      have next := of_decide_eq_true isNext
      have past := sound.past attempt listed
      change attempt.generation = delivery.generation + 1 at next
      omega
  bounded := (by decide : (0 : Int) ≤ maxAttempts)
  past := by
    intro attempt listed
    have past := sound.past attempt listed
    change attempt.generation ≤ delivery.generation + 1
    omega
  leased := nofun
  idle := fun _ => sound.idle (by rw [dead]; decide)

end

end Sound

theorem attemptsOf_put (unused : attempts.lookup attempt.id = none) (deliveryId : Uuid) :
    attemptsOf (attempts.put attempt) deliveryId = attemptsOf attempts deliveryId ++
        if attempt.deliveryId = deliveryId then [attempt] else [] := by
  unfold attemptsOf
  rw [rows_put_of_none unused, filter_append, filter_singleton]
  simp

theorem mem_attemptsOf : attempt ∈ attemptsOf attempts deliveryId ↔
      attempt ∈ attempts.rows ∧ attempt.deliveryId = deliveryId := by
  simp [attemptsOf]

namespace Consistent

variable {after : Outbox}

/-- One delivery is replaced, and only its attempts change. -/
theorem replace (delivery next : WebhookDelivery) (consistent : Consistent outbox)
    (sameId : next.id = delivery.id) (others : ∀ other ≠ delivery.id,
      attemptsOf after.attempts other = attemptsOf outbox.attempts other)
    (sound : Sound (attemptsOf after.attempts delivery.id) next)
    (single : next.status = .leased → ∀ other ∈ outbox.deliveries.rows,
      other.endpointId = next.endpointId → other.status ≠ .leased)
    (isAfter : after.deliveries = outbox.deliveries.put next) : Consistent after where
  sound := by
    intro other listed
    rw [isAfter, mem_put_iff, sameId] at listed
    rcases listed with rfl | ⟨old, different⟩
    · rw [sameId]
      exact sound
    · rw [others other.id different]
      exact consistent.sound other old
  known := by
    intro attempt listed
    by_cases same : attempt.deliveryId = delivery.id
    · exact ⟨next, isAfter ▸ mem_put_iff.mpr (.inl rfl), sameId.trans same.symm⟩
    · have old : attempt ∈ attemptsOf after.attempts attempt.deliveryId :=
        mem_attemptsOf.mpr ⟨listed, rfl⟩
      rw [others _ same] at old
      obtain ⟨known, present, isKnown⟩ := consistent.known attempt (mem_attemptsOf.mp old).1
      refine ⟨known, ?_, isKnown⟩
      rw [isAfter, mem_put_iff, sameId]
      exact .inr ⟨present, isKnown ▸ same⟩
  single := by
    intro first firstListed second secondListed firstLeased secondLeased sameEndpoint
    rw [isAfter, mem_put_iff] at firstListed secondListed
    rcases firstListed with rfl | ⟨firstOld, _⟩
    · rcases secondListed with rfl | ⟨secondOld, _⟩
      · rfl
      · exact absurd secondLeased (single firstLeased second secondOld sameEndpoint.symm)
    · rcases secondListed with rfl | ⟨secondOld, _⟩
      · exact absurd firstLeased (single secondLeased first firstOld sameEndpoint)
      · exact consistent.single first firstOld second secondOld firstLeased
          secondLeased sameEndpoint

section

variable (consistent : Consistent outbox)

include consistent

theorem claims (claims : Claims delivery attemptId outbox after) : Consistent after := by
  obtain ⟨workerId, now, isAfter⟩ := claims.deliveries
  refine consistent.replace delivery (delivery.claimed workerId now) rfl ?_ ?_ ?_ isAfter
  · intro other different
    rw [claims.attempts, attemptsOf_put claims.unused,
      WebhookAttempt.deliveryId_opened, if_neg (Ne.symm different),
      append_nil]
  · rw [claims.attempts, attemptsOf_put claims.unused, WebhookAttempt.deliveryId_opened, if_pos rfl]
    exact (consistent.sound delivery claims.present).claim claims.pending claims.room
  · exact fun _ other listed sameEndpoint =>
      claims.free other listed sameEndpoint

theorem closes {next : WebhookDelivery} (closes : Closes delivery next outbox after) :
    Consistent after := by
  obtain ⟨selects, change, completes, within, covers, isAttempts⟩ := closes.attempts
  have updated : ∀ deliveryId, attemptsOf after.attempts deliveryId =
      update selects change (attemptsOf outbox.attempts deliveryId) := by
    intro deliveryId
    unfold attemptsOf
    rw [isAttempts, filter_update]
    intro attempt
    rw [completes.deliveryId]
  refine consistent.replace delivery next closes.sameId ?_ ?_ ?_ closes.deliveries
  · intro other different
    rw [updated, update_of_unselected]
    intro attempt listed
    refine Bool.eq_false_iff.mpr fun selected => different ?_
    rw [← (mem_attemptsOf.mp listed).2]
    exact within attempt selected
  · rw [updated]
    refine (consistent.sound delivery closes.present).close completes ?_
      closes.sameGeneration closes.sameCount closes.idle
    intro attempt listed isOpen
    obtain ⟨present, ofDelivery⟩ := mem_attemptsOf.mp listed
    exact covers attempt present ofDelivery isOpen
  · exact fun leased => absurd leased closes.idle

theorem defers (defers : Defers delivery lease outbox after) : Consistent after := by
  obtain ⟨now, isAfter⟩ := defers.deliveries
  have deleted : ∀ deliveryId, attemptsOf after.attempts deliveryId =
      delete (·.isOpenFor lease) (attemptsOf outbox.attempts deliveryId) := by
    intro deliveryId
    rw [defers.attempts]
    exact filter_delete _ _
  refine consistent.replace delivery (delivery.deferred now) rfl ?_ ?_ ?_ isAfter
  · intro other different
    rw [deleted]
    refine filter_eq_self.mpr fun attempt listed => ?_
    rw [Bool.not_eq_true']
    refine Bool.eq_false_iff.mpr fun selected => different ?_
    rw [← (mem_attemptsOf.mp listed).2, (isOpenFor_iff.mp selected).2.1]
    exact defers.isDelivery
  · rw [deleted]
    refine (consistent.sound delivery defers.present).defer ?_ ?_ ?_
    · intro attempt listed isOpen
      obtain ⟨present, ofDelivery⟩ := mem_attemptsOf.mp listed
      exact consistent.isOpenFor_of_isOpen defers.present defers.leased
        defers.isDelivery.symm defers.single present ofDelivery isOpen
    · intro attempt _ selected
      rw [(isOpenFor_iff.mp selected).2.2.1]
      exact defers.isGeneration
    · unfold attemptsOf
      rw [countP_filter, ← defers.single]
      refine countP_congr fun attempt _ => ?_
      rw [Bool.and_eq_true]
      refine ⟨And.left, fun selected => ⟨selected, decide_eq_true ?_⟩⟩
      exact (isOpenFor_iff.mp selected).2.1.trans defers.isDelivery
  · exact nofun

theorem replays (replays : Replays delivery outbox after) : Consistent after := by
  obtain ⟨now, isAfter⟩ := replays.deliveries
  refine consistent.replace delivery (delivery.replayed now) rfl ?_ ?_ ?_ isAfter
  · intro other _
    rw [replays.attempts]
  · rw [replays.attempts]
    exact (consistent.sound delivery replays.present).replay replays.dead
  · exact nofun

theorem queues (queues : Queues delivery outbox after) : Consistent after := by
  refine consistent.replace delivery delivery rfl ?_ ?_ ?_ queues.deliveries
  · intro other _
    rw [queues.attempts]
  · have unattempted : attemptsOf outbox.attempts delivery.id = [] := by
      rw [attemptsOf, filter_eq_nil_iff]
      intro attempt listed ofDelivery
      obtain ⟨known, present, isKnown⟩ := consistent.known attempt listed
      exact lookup_eq_none_iff.mp queues.absent known present
        (isKnown.trans (of_decide_eq_true ofDelivery))
    rw [queues.attempts, unattempted]
    exact .queued queues.pending queues.unattempted
  · intro leased
    rw [queues.pending] at leased
    cases leased

end

end Consistent

end Zrotext.Webhook
