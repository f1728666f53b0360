import Zrotext.Webhook.Discipline

/-!
# Runs of the outbox

Every run of workers keeps the accounts of attempts, and a lease that is over
has no effect.
-/

namespace Zrotext.Webhook

open Foundation Delivery List Table

namespace System

variable {system after : System}

/-- What a step does: it leaves the claims alone, or it claims, or it undoes a
claim. -/
inductive Moves (system : System) (action : Action) : System → Prop
  | quiet {after : System} : Keeps system.outbox after.outbox →
      after.tasks.map Task.entry = system.tasks.map Task.entry → Moves system action after
  | claims {after : System} {delivery : WebhookDelivery} {lease : WebhookLease} :
      lease.deliveryId = delivery.id → lease.generation = delivery.generation →
      action.drawn = some lease.attemptId →
      Claims delivery lease.attemptId system.outbox after.outbox →
      after.tasks = system.tasks ++ [.start lease] → Moves system action after
  | defers {after : System} {delivery : WebhookDelivery} {place : Nat} {task : Task} :
      system.tasks[place]? = some task → task.phase = .keyUnavailable →
      Defers delivery task.lease system.outbox after.outbox → after.tasks = system.tasks.set place
        { task with phase := .ended, undone := true } →
      Moves system action after

section

variable (consistent : Consistent system.outbox)

include consistent

theorem moves_alter (keeps : ∀ task, (change task).entry = task.entry) :
    Moves system action (system.alter place change) := by
  unfold alter
  cases found : system.tasks[place]? with
  | none => exact .quiet (.refl consistent) rfl
  | some task =>
    exact .quiet (.refl consistent) (map_set_of_same found (keeps task))

theorem moves_finish (place : Nat) (outcome : WebhookOutcome) (httpStatus : Option Int)
    (now : Time) :
    Moves system action (system.finish place outcome httpStatus now) := by
  unfold finish
  split
  · exact .quiet (.refl consistent) rfl
  · rename_i task found
    split_ifs
    · refine .quiet (settle_keeps consistent ?_) (map_set_of_same found rfl)
      intro after finished
      obtain ⟨delivery, next, closes⟩ := finishWebhook_eq_ok consistent finished
      exact closes.keeps consistent
    · exact .quiet (.refl consistent) rfl

theorem moves_defer (place : Nat) (now : Time) : Moves system action (system.defer place now) := by
  unfold defer
  split
  · exact .quiet (.refl consistent) rfl
  · rename_i task found
    split_ifs with isPhase
    · cases result : deferWebhookKeyFailure task.lease now system.outbox with
      | error failure =>
        exact .quiet (.refl consistent) (map_set_of_same found rfl)
      | ok after =>
        obtain ⟨delivery, defers⟩ := deferWebhookKeyFailure_eq_ok result
        exact .defers found isPhase defers rfl
    · exact .quiet (.refl consistent) rfl

theorem moves_claim (workerId : Text) (attemptId : Uuid)
    (lockedAccounts lockedEndpoints : List Uuid) (now : Time) :
    Moves system (.claim workerId attemptId lockedAccounts lockedEndpoints now)
      (system.claim workerId attemptId lockedAccounts lockedEndpoints now) := by
  unfold claim
  cases result : claimWebhook workerId attemptId lockedAccounts lockedEndpoints
      now system.outbox with
  | error failure => exact .quiet (.refl consistent) rfl
  | ok pair =>
    obtain ⟨lease, after⟩ := pair
    rcases claimWebhook_eq_ok result with
      ⟨rfl, rfl⟩ | ⟨delivery, held, rfl, isDelivery, isGeneration, rfl, claims⟩
    · exact .quiet (.refl consistent) rfl
    · exact .claims isDelivery isGeneration rfl claims rfl

theorem moves_step (action : Action) : Moves system action (system.step action) := by
  cases action with
  | claim workerId attemptId lockedAccounts lockedEndpoints now =>
    exact moves_claim consistent workerId attemptId lockedAccounts lockedEndpoints now
  | load place now =>
    exact moves_alter consistent (Task.entry_load now system.outbox)
  | prepare place preparation =>
    exact moves_alter consistent (Task.entry_prepare preparation)
  | stop place => exact moves_alter consistent fun _ => rfl
  | finish place outcome httpStatus now =>
    exact moves_finish consistent place outcome httpStatus now
  | defer place now => exact moves_defer consistent place now
  | recover lockedEndpoints lockedDeliveries now =>
    exact .quiet (recover_keeps consistent lockedEndpoints lockedDeliveries now) rfl
  | queue accountId eventId drawn now =>
    exact .quiet (settle_keeps consistent fun after queued => queue_keeps consistent queued) rfl
  | replay accountId endpointId deliveryId requestId now =>
    refine .quiet (settle_keeps consistent fun after replayed => ?_) rfl
    rcases replay_eq_ok replayed with rfl | ⟨delivery, replays⟩
    · exact .refl consistent
    · exact replays.keeps consistent

end

theorem fits_step (fits : ∀ task ∈ system.tasks, task.Fits) (action : Action) :
    ∀ task ∈ (system.step action).tasks, task.Fits := by
  have replaced : ∀ place (next : Task), next.Fits →
      ∀ task ∈ system.tasks.set place next, task.Fits := by
    intro place next nextFits task listed
    rcases mem_or_eq_of_mem_set listed with old | rfl
    · exact fits task old
    · exact nextFits
  have altered : ∀ place (change : Task → Task), (∀ task, task.Fits → (change task).Fits) →
      ∀ task ∈ (system.alter place change).tasks, task.Fits := by
    intro place change keeps
    unfold alter
    cases found : system.tasks[place]? with
    | none => exact fits
    | some task =>
      exact replaced place _ (keeps task (fits task (mem_of_getElem? found)))
  cases action with
  | claim workerId attemptId lockedAccounts lockedEndpoints now =>
    change ∀ task ∈ (system.claim _ _ _ _ _).tasks, _
    unfold claim
    split
    · exact forall_mem_concat fits ⟨Nat.zero_le 1, nofun, fun _ => rfl⟩
    · exact fits
    · exact fits
  | load place now => exact altered place _ fun _ holds => holds.load _ _
  | prepare place preparation =>
    exact altered place _ fun _ holds => holds.prepare _
  | stop place => exact altered place _ fun _ holds => holds.end
  | finish place outcome httpStatus now =>
    change ∀ task ∈ (system.finish _ _ _ _).tasks, _
    unfold finish
    split
    · exact fits
    · rename_i task found
      split_ifs
      · exact replaced place _ (fits task (mem_of_getElem? found)).end
      · exact fits
  | defer place now =>
    change ∀ task ∈ (system.defer _ _).tasks, _
    unfold defer
    split
    · exact fits
    · rename_i task found
      have taskFits := fits task (mem_of_getElem? found)
      split_ifs with isPhase
      · have unsent := taskFits.unsent (.inr (.inr (.inr isPhase)))
        split
        · exact replaced place _ ⟨taskFits.once, fun _ => ⟨unsent, rfl⟩, fun _ => unsent⟩
        · exact replaced place _ taskFits.end
      · exact fits
  | recover | queue | replay => exact fits

theorem standing_eq (deliveryId : Uuid) (generation : Int) : system.standing deliveryId generation =
      (system.tasks.map Task.entry).countP fun entry =>
        decide (entry.1.deliveryId = deliveryId) &&
          decide (entry.1.generation = generation) && !entry.2 := by
  rw [countP_map]
  rfl

theorem claims_eq (deliveryId : Uuid) (generation : Int) : system.claims deliveryId generation =
      (system.tasks.map Task.entry).countP fun entry =>
        decide (entry.1.deliveryId = deliveryId) && decide (entry.1.generation = generation) := by
  rw [countP_map]
  rfl

theorem leases_eq : system.leases = (system.tasks.map Task.entry).map Prod.fst := by
  rw [map_map]
  rfl

theorem isOf_iff {task : Task} :
    task.isOf deliveryId generation ↔ task.lease.deliveryId = deliveryId ∧
        task.lease.generation = generation := by
  rw [Task.isOf, Bool.and_eq_true, decide_eq_true_eq, decide_eq_true_eq]

/-! ## The invariant -/

/-- The attempt of a lease is not open any more. -/
def Closed (lease : WebhookLease) (outbox : Outbox) : Prop :=
  ∀ attempt ∈ outbox.attempts.rows, attempt.id = lease.attemptId → attempt.isOpen = false

/-- What every run keeps, with the attempt identifiers that were drawn. -/
structure Disciplined (drawn : List Uuid) (system : System) : Prop where
  consistent : Consistent system.outbox
  fits : ∀ task ∈ system.tasks, task.Fits
  balanced : ∀ deliveryId generation, attemptCount system.outbox deliveryId generation =
      system.standing deliveryId generation
  bounded : ∀ deliveryId generation,
    (attemptCount system.outbox deliveryId generation : Int) ≤ maxAttempts
  issued : ∀ lease ∈ system.leases, lease.attemptId ∈ drawn
  owned : ∀ lease ∈ system.leases, ∀ attempt ∈ system.outbox.attempts.rows,
    attempt.id = lease.attemptId → attempt.deliveryId = lease.deliveryId
  superseded : system.leases.Pairwise fun lease later =>
    lease.deliveryId = later.deliveryId → Closed lease system.outbox

section Step

variable {lease : WebhookLease}

/-- An attempt after a step was there before, unless the step drew it. -/
theorem Moves.descends (moves : Moves system action after)
    (undrawn : action.drawn ≠ some lease.attemptId) :
    ∀ attempt ∈ after.outbox.attempts.rows, attempt.id = lease.attemptId →
      ∃ old ∈ system.outbox.attempts.rows, old.id = attempt.id ∧
        old.deliveryId = attempt.deliveryId ∧ (attempt.isOpen → old.isOpen) := by
  intro attempt listed isAttempt
  cases moves with
  | quiet keeps _ => exact keeps.descends attempt listed
  | claims _ _ isDrawn claims _ =>
    rw [claims.attempts, Keyed.mem_put_iff] at listed
    rcases listed with rfl | ⟨old, _⟩
    · rw [isDrawn] at undrawn
      exact absurd (congrArg some isAttempt) undrawn
    · exact ⟨attempt, old, rfl, rfl, id⟩
  | defers _ _ defers _ =>
    rw [defers.attempts] at listed
    exact ⟨attempt, (mem_filter.mp listed).1, rfl, rfl, id⟩

theorem Closed.step (closed : Closed lease system.outbox) (moves : Moves system action after)
    (undrawn : action.drawn ≠ some lease.attemptId) : Closed lease after.outbox := by
  intro attempt listed isAttempt
  obtain ⟨old, present, sameId, _, wasOpen⟩ := moves.descends undrawn attempt listed isAttempt
  refine Bool.eq_false_iff.mpr fun isOpen => ?_
  have isClosed := closed old present (sameId.trans isAttempt)
  rw [wasOpen isOpen] at isClosed
  cases isClosed

/-- A lease whose delivery is not leased is closed. -/
theorem Disciplined.closed_of_idle (disciplined : Disciplined drawn system)
    (listed : lease ∈ system.leases)
    (present : delivery ∈ system.outbox.deliveries.rows)
    (isDelivery : lease.deliveryId = delivery.id) (idle : delivery.status ≠ .leased) :
    Closed lease system.outbox := by
  intro attempt attemptListed isAttempt
  refine Bool.eq_false_iff.mpr fun isOpen => ?_
  have ofDelivery := disciplined.owned lease listed attempt attemptListed isAttempt
  have none := (disciplined.consistent.sound delivery present).idle idle
  rw [filter_eq_nil_iff] at none
  exact none attempt (mem_attemptsOf.mpr ⟨attemptListed, ofDelivery.trans isDelivery⟩) isOpen

theorem Disciplined.consistent_step (disciplined : Disciplined drawn system)
    (moves : Moves system action after) : Consistent after.outbox := by
  cases moves with
  | quiet keeps _ => exact keeps.consistent
  | claims _ _ _ claims _ => exact disciplined.consistent.claims claims
  | defers _ _ defers _ => exact disciplined.consistent.defers defers

theorem leases_step (moves : Moves system action after) :
    after.leases = system.leases ∨ ∃ lease delivery, after.leases = system.leases ++ [lease] ∧
        lease.deliveryId = delivery.id ∧ action.drawn = some lease.attemptId ∧
        Claims delivery lease.attemptId system.outbox after.outbox := by
  cases moves with
  | quiet _ sameEntries =>
    rw [leases_eq, leases_eq, sameEntries]
    exact .inl rfl
  | @claims delivery lease isDelivery _ isDrawn claims isAfter =>
    refine .inr ⟨lease, delivery, ?_, isDelivery, isDrawn, claims⟩
    unfold leases
    rw [isAfter, map_append]
    rfl
  | @defers delivery place task found _ _ isAfter =>
    unfold leases
    rw [isAfter]
    exact .inl (map_set_of_same found rfl)

theorem Disciplined.balanced_step (disciplined : Disciplined drawn system)
    (moves : Moves system action after) (deliveryId : Uuid) (generation : Int) :
    attemptCount after.outbox deliveryId generation = after.standing deliveryId generation ∧
      (attemptCount after.outbox deliveryId generation : Int) ≤ maxAttempts := by
  have balanced := disciplined.balanced deliveryId generation
  have bounded := disciplined.bounded deliveryId generation
  cases moves with
  | quiet keeps sameEntries =>
    rw [keeps.counts, standing_eq, sameEntries, ← standing_eq]
    exact ⟨balanced, bounded⟩
  | @claims delivery lease isDelivery isGeneration _ claims isAfter =>
    have standing : after.standing deliveryId generation = system.standing deliveryId generation +
          if delivery.id = deliveryId ∧ delivery.generation = generation
          then 1 else 0 := by
      unfold System.standing
      rw [isAfter, countP_append, countP_singleton]
      simp only [Task.start, Bool.not_false, Bool.and_true]
      rw [← isDelivery, ← isGeneration]
      congr 1
      exact if_congr isOf_iff rfl rfl
    have counted := disciplined.consistent.attemptCount_eq claims.present
    have room := claims.room
    rw [attemptCount_claims claims, standing, balanced]
    refine ⟨rfl, ?_⟩
    split_ifs with isThis
    · rw [← isThis.1, ← isThis.2, ← disciplined.balanced]
      omega
    · rw [← balanced, Nat.add_zero]
      exact bounded
  | @defers delivery place task found isPhase defers isAfter =>
    have standsYet : task.undone = false := by
      refine Bool.eq_false_iff.mpr fun undone => ?_
      have fits := disciplined.fits task (mem_of_getElem? found)
      rw [(fits.undone undone).2] at isPhase
      cases isPhase
    have standing : after.standing deliveryId generation + (if task.lease.deliveryId = deliveryId ∧
          task.lease.generation = generation then 1 else 0) =
        system.standing deliveryId generation := by
      have replaced := @Table.countP_set _
        (fun task => task.isOf deliveryId generation && !task.undone) _ _ _
        found { task with phase := .ended, undone := true }
      simp only [standsYet, Bool.not_false, Bool.and_true, Bool.not_true,
        Bool.and_false, Bool.false_eq_true, if_false, Nat.add_zero]
        at replaced
      unfold System.standing
      rw [isAfter, ← replaced]
      congr 1
      exact if_congr isOf_iff.symm rfl rfl
    have counted := @attemptCount_defers _ _ _ _ deliveryId generation defers
    refine ⟨by omega, by omega⟩

theorem Disciplined.step (disciplined : Disciplined drawn system) (action : Action)
    (undrawn : ∀ attemptId, action.drawn = some attemptId → attemptId ∉ drawn) :
    Disciplined (drawn ++ action.drawn.toList) (system.step action) := by
  have moves := moves_step disciplined.consistent action
  have undrawnFor : ∀ lease ∈ system.leases,
      action.drawn ≠ some lease.attemptId := fun lease listed isDrawn =>
    undrawn _ isDrawn (disciplined.issued lease listed)
  have issuedStill : ∀ lease ∈ system.leases, lease.attemptId ∈ drawn ++ action.drawn.toList :=
    fun lease listed => mem_append_left _ (disciplined.issued lease listed)
  have ownedStill : ∀ lease ∈ system.leases, ∀ attempt ∈ (system.step action).outbox.attempts.rows,
        attempt.id = lease.attemptId →
        attempt.deliveryId = lease.deliveryId := by
    intro lease listed attempt attemptListed isAttempt
    obtain ⟨old, present, sameId, sameDelivery, _⟩ :=
      moves.descends (undrawnFor lease listed) attempt attemptListed isAttempt
    rw [← sameDelivery]
    exact disciplined.owned lease listed old present (sameId.trans isAttempt)
  have supersededStill : system.leases.Pairwise fun lease later =>
      lease.deliveryId = later.deliveryId → Closed lease (system.step action).outbox := by
    refine disciplined.superseded.imp_of_mem ?_
    intro lease later listed _ closed same
    exact (closed same).step moves (undrawnFor lease listed)
  refine ⟨disciplined.consistent_step moves, fits_step disciplined.fits action,
    fun deliveryId generation =>
      (disciplined.balanced_step moves deliveryId generation).1,
    fun deliveryId generation =>
      (disciplined.balanced_step moves deliveryId generation).2, ?_, ?_, ?_⟩
  all_goals
    rcases leases_step moves with same | ⟨held, delivery, isAfter, isDelivery, isDrawn, claims⟩
  · rw [same]
    exact issuedStill
  · rw [isAfter]
    refine forall_mem_concat issuedStill (mem_append_right _ ?_)
    rw [isDrawn]
    exact mem_cons_self
  · rw [same]
    exact ownedStill
  · rw [isAfter]
    refine forall_mem_concat ownedStill fun attempt listed isAttempt => ?_
    rw [claims.attempts, Keyed.mem_put_iff] at listed
    rcases listed with rfl | ⟨_, different⟩
    · exact isDelivery.symm
    · exact absurd isAttempt different
  · rw [same]
    exact supersededStill
  · rw [isAfter, pairwise_append]
    refine ⟨supersededStill, pairwise_singleton _ _, ?_⟩
    intro lease listed later isNew same
    rw [mem_singleton.mp isNew] at same
    refine Closed.step ?_ moves (undrawnFor lease listed)
    refine disciplined.closed_of_idle listed claims.present (same.trans isDelivery) ?_
    rw [claims.pending]
    decide

/-- A generation that is over is not claimed again. -/
theorem past_step (past : Past deliveryId generation system.outbox)
    (moves : Moves system action after) :
    Past deliveryId generation after.outbox ∧ after.claims deliveryId generation =
        system.claims deliveryId generation := by
  cases moves with
  | quiet keeps sameEntries =>
    rw [claims_eq, claims_eq, sameEntries]
    exact ⟨keeps.past deliveryId generation past, rfl⟩
  | @claims delivery lease isDelivery isGeneration _ claims isAfter =>
    have active := active_of_pending claims.pending
    obtain ⟨workerId, now, isDeliveries⟩ := claims.deliveries
    refine ⟨past.replace_active claims.present active (by rfl) (by rfl) isDeliveries, ?_⟩
    have other := past.ne_of_active claims.present active
    rw [← isDelivery, ← isGeneration] at other
    unfold System.claims
    rw [isAfter, countP_append, countP_singleton, if_neg]
    · rfl
    · exact fun isOf => other (isOf_iff.mp isOf)
  | @defers delivery place task found _ defers isAfter =>
    have active := active_of_leased defers.leased
    obtain ⟨now, isDeliveries⟩ := defers.deliveries
    refine ⟨past.replace_active defers.present active (by rfl) (by rfl) isDeliveries, ?_⟩
    have replaced := @Table.countP_set _ (·.isOf deliveryId generation) _ _
      _ found { task with phase := .ended, undone := true }
    unfold System.claims
    rw [isAfter]
    exact Nat.add_right_cancel replaced

end Step

/-- The attempt identifiers that the claims of a run draw. -/
def drawnBy (actions : List Action) : List Uuid := actions.filterMap Action.drawn

theorem drawnBy_concat (actions : List Action) (action : Action) : drawnBy (actions ++ [action]) =
      drawnBy actions ++ action.drawn.toList := by
  unfold drawnBy
  cases isDrawn : action.drawn <;> simp [isDrawn]

theorem run_concat (actions : List Action) (action : Action) :
    run (actions ++ [action]) system = (run actions system).step action := by
  unfold run
  rw [foldl_append]
  rfl

theorem nodup_of_append (distinct : (drawnBy (earlier ++ later)).Nodup) :
    (drawnBy earlier).Nodup := by
  unfold drawnBy at distinct ⊢
  rw [filterMap_append] at distinct
  exact (nodup_append.mp distinct).1

/-- An outbox without deliveries. -/
structure IsFresh (outbox : Outbox) : Prop where
  deliveries : outbox.deliveries = .empty
  attempts : outbox.attempts = .empty

variable {outbox : Outbox}

section

variable (fresh : IsFresh outbox)

include fresh

theorem disciplined_start : Disciplined [] ⟨outbox, []⟩ where
  consistent := by
    refine ⟨?_, ?_, ?_⟩
    · rw [fresh.deliveries]
      exact nofun
    · rw [fresh.attempts]
      exact nofun
    · rw [fresh.deliveries]
      exact nofun
  fits := nofun
  balanced := by
    intro deliveryId generation
    rw [attemptCount, fresh.attempts]
    rfl
  bounded := by
    intro deliveryId generation
    rw [attemptCount, fresh.attempts]
    exact Int.natCast_nonneg 7
  issued := nofun
  owned := nofun
  superseded := .nil

/-- Every run that draws distinct attempt identifiers keeps the discipline. -/
theorem disciplined_run (distinct : (drawnBy actions).Nodup) :
    Disciplined (drawnBy actions) (run actions ⟨outbox, []⟩) := by
  induction actions using reverseRecOn with
  | nil => exact disciplined_start fresh
  | append_singleton actions action ih =>
    rw [drawnBy_concat] at distinct ⊢
    rw [run_concat]
    obtain ⟨before, _, apart⟩ := nodup_append.mp distinct
    refine (ih before).step action ?_
    intro attemptId isDrawn listed
    exact apart attemptId listed attemptId (by simp [isDrawn]) rfl

variable (distinct : (drawnBy (earlier ++ later)).Nodup)

include distinct

theorem closed_run (listed : lease ∈ (run earlier ⟨outbox, []⟩).leases)
    (closed : Closed lease (run earlier ⟨outbox, []⟩).outbox) :
    Closed lease (run (earlier ++ later) ⟨outbox, []⟩).outbox := by
  induction later using reverseRecOn with
  | nil => rwa [append_nil]
  | append_singleton later action ih =>
    rw [← append_assoc] at distinct ⊢
    have before := nodup_of_append distinct
    rw [run_concat]
    refine (ih before).step (moves_step (disciplined_run fresh before).consistent action) ?_
    intro isDrawn
    have issued := (disciplined_run fresh (nodup_of_append before)).issued lease listed
    rw [drawnBy_concat, isDrawn] at distinct
    refine (nodup_append.mp distinct).2.2 lease.attemptId ?_ lease.attemptId mem_cons_self rfl
    unfold drawnBy at issued ⊢
    rw [filterMap_append]
    exact mem_append_left _ issued

/-- A generation that is over stays over, without new claims. -/
theorem past_run (past : Past deliveryId generation (run earlier ⟨outbox, []⟩).outbox) :
    Past deliveryId generation (run (earlier ++ later) ⟨outbox, []⟩).outbox ∧
      (run (earlier ++ later) ⟨outbox, []⟩).claims deliveryId generation =
        (run earlier ⟨outbox, []⟩).claims deliveryId generation := by
  induction later using reverseRecOn with
  | nil =>
    rw [append_nil]
    exact ⟨past, rfl⟩
  | append_singleton later action ih =>
    rw [← append_assoc] at distinct ⊢
    have before := nodup_of_append distinct
    obtain ⟨stillPast, sameClaims⟩ := ih before
    rw [run_concat, ← sameClaims]
    exact past_step stillPast (moves_step (disciplined_run fresh before).consistent action)

end

/-! ## The outbox discipline -/

theorem isOpenFor_eq_zero (closed : Closed lease outbox) :
    outbox.attempts.rows.countP (·.isOpenFor lease) ≠ 1 := by
  intro isOne
  obtain ⟨attempt, listed, isOpen⟩ := countP_pos_iff.mp (isOne ▸ Nat.one_pos)
  have facts := isOpenFor_iff.mp isOpen
  rw [closed attempt listed facts.1] at facts
  exact nomatch facts.2.2.2.2

theorem settle_finish_of_closed (closed : Closed lease outbox) (outcome : WebhookOutcome)
    (httpStatus : Option Int) (now : Time) :
    settle (finishWebhook lease outcome httpStatus now outbox) outbox = outbox := by
  cases result : finishWebhook lease outcome httpStatus now outbox with
  | error failure => rfl
  | ok after =>
    simp only [finishWebhook, Fallible.bind_eq_ok] at result
    obtain ⟨_, _, _, _, _, _, _, _, _, single, _⟩ := result
    exact absurd (of_decide_eq_true (Fallible.require_eq_ok.mp single)) (isOpenFor_eq_zero closed)

theorem settle_defer_of_closed (closed : Closed lease outbox) (now : Time) :
    settle (deferWebhookKeyFailure lease now outbox) outbox = outbox := by
  cases result : deferWebhookKeyFailure lease now outbox with
  | error failure => rfl
  | ok after =>
    obtain ⟨delivery, defers⟩ := deferWebhookKeyFailure_eq_ok result
    exact absurd defers.single (isOpenFor_eq_zero closed)

theorem sends_le_standing (disciplined : Disciplined drawn system)
    (deliveryId : Uuid) (generation : Int) : system.sends deliveryId generation ≤
      system.standing deliveryId generation := by
  have fits := disciplined.fits
  unfold sends standing
  generalize system.tasks = tasks at fits
  induction tasks with
  | nil => exact le_refl 0
  | cons task rest ih =>
    have restFits := ih fun task listed => fits task (mem_cons_of_mem _ listed)
    have taskFits := fits task mem_cons_self
    rw [countP_cons, filter_cons]
    cases isOf : task.isOf deliveryId generation with
    | false => simpa using restFits
    | true =>
      have once := taskFits.once
      have undone := taskFits.undone
      simp only [if_true, map_cons, sum_cons, Bool.true_and]
      cases isUndone : task.undone with
      | true =>
        rw [(undone isUndone).1]
        simpa using restFits
      | false =>
        simp only [Bool.not_false, if_true]
        omega

/-- The lease is over: its delivery is not leased, or was claimed again. -/
def IsOver (lease : WebhookLease) (system : System) : Prop :=
  (∃ delivery ∈ system.outbox.deliveries.rows,
    delivery.id = lease.deliveryId ∧ delivery.status ≠ .leased) ∨
  ∃ before after, system.leases = before ++ lease :: after ∧
    ∃ later ∈ after, later.deliveryId = lease.deliveryId

theorem Disciplined.closed_of_isOver (disciplined : Disciplined drawn system)
    (listed : lease ∈ system.leases) (isOver : IsOver lease system) :
    Closed lease system.outbox := by
  rcases isOver with ⟨delivery, present, isDelivery, idle⟩ |
    ⟨before, after, isLeases, later, laterListed, same⟩
  · exact disciplined.closed_of_idle listed present isDelivery.symm idle
  · have superseded := disciplined.superseded
    rw [isLeases, pairwise_append] at superseded
    exact (pairwise_cons.mp superseded.2.1).1 later laterListed same.symm

/-- The discipline of the outbox in every run. -/
theorem webhook_outbox_discipline (outbox : Outbox) (fresh : IsFresh outbox) (actions : List Action)
    (distinct : (drawnBy actions).Nodup) :
    let system := run actions ⟨outbox, []⟩
    (∀ deliveryId generation, system.standing deliveryId generation ≤ 7 ∧
        system.sends deliveryId generation ≤ 7) ∧
    (∀ delivery ∈ system.outbox.deliveries.rows,
      delivery.attemptCount = (system.outbox.attempts.rows.countP
        (·.isOf delivery.id delivery.generation) : Nat)) ∧
    (∀ delivery ∈ system.outbox.deliveries.rows, delivery.status = .leased ↔ ∃ attempt,
        (attemptsOf system.outbox.attempts delivery.id).filter WebhookAttempt.isOpen = [attempt] ∧
          attempt.generation = delivery.generation ∧
          attempt.attemptNumber = delivery.attemptCount) ∧
    (∀ delivery ∈ system.outbox.deliveries.rows,
      ∀ other ∈ system.outbox.deliveries.rows, delivery.status = .leased →
        other.status = .leased → delivery.endpointId = other.endpointId →
        delivery = other) ∧
    ∀ earlier later, actions = earlier ++ later →
      let before := run earlier ⟨outbox, []⟩
      (∀ delivery ∈ before.outbox.deliveries.rows, delivery.IsTerminal →
        system.claims delivery.id delivery.generation =
          before.claims delivery.id delivery.generation) ∧
      ∀ lease ∈ before.leases, IsOver lease before → ∀ outcome httpStatus now,
          settle (finishWebhook lease outcome httpStatus now system.outbox)
              system.outbox = system.outbox ∧
            settle (deferWebhookKeyFailure lease now system.outbox)
              system.outbox = system.outbox := by
  have disciplined := disciplined_run fresh distinct
  refine ⟨?_, ?_, ?_, disciplined.consistent.single, ?_⟩
  · intro deliveryId generation
    have bounded := disciplined.bounded deliveryId generation
    rw [disciplined.balanced, maxAttempts] at bounded
    have sends := sends_le_standing disciplined deliveryId generation
    exact ⟨by omega, by omega⟩
  · intro delivery present
    exact disciplined.consistent.attemptCount_eq present
  · intro delivery present
    have sound := disciplined.consistent.sound delivery present
    refine ⟨sound.leased, ?_⟩
    rintro ⟨attempt, isOpen, _⟩
    by_contra idle
    rw [sound.idle idle] at isOpen
    cases isOpen
  · rintro earlier later rfl
    refine ⟨?_, ?_⟩
    · intro delivery present terminal
      exact (past_run fresh distinct ⟨delivery, present, rfl, .inr ⟨rfl, terminal⟩⟩).2
    · intro lease listed isOver outcome httpStatus now
      have closed := closed_run fresh distinct listed
        ((disciplined_run fresh (nodup_of_append distinct)).closed_of_isOver listed isOver)
      exact ⟨settle_finish_of_closed closed outcome httpStatus now,
        settle_defer_of_closed closed now⟩

/-- An outbox with one enabled endpoint. -/
def singleEndpoint : Outbox :=
  { endpoints := Keyed.empty.put ⟨1, 7, true, 0, none, none⟩, accounts := Keyed.empty.put ⟨7, 0⟩
    deliveries := .empty, attempts := .empty, replays := .empty, claimSequence := 0 }

/-- A worker calls the sender and stays away until its lease is recovered. -/
def lateWorker : List Action :=
  [.queue 7 40 (fun _ => 3) 0, .claim "worker".toList 11 [] [] 0, .load 0 0,
    .prepare 0 .send, .recover [] [] (seconds 31)]

/-- The delivery is claimed again under the same name. -/
def claimedAgain : List Action := lateWorker ++ [.claim "worker".toList 12 [] [] (seconds 86400)]

/-- The worker whose lease was claimed again changes nothing. -/
theorem webhook_outbox_discipline_late :
    let system := run claimedAgain ⟨singleEndpoint, []⟩
    system.sends 3 1 ≤ 7 ∧ system.leases.map WebhookLease.attemptId = [11, 12] ∧
      ∀ lease ∈ (run lateWorker ⟨singleEndpoint, []⟩).leases,
        settle (finishWebhook lease .ack (some 200) (seconds 86401)
          system.outbox) system.outbox = system.outbox := by
  have discipline := webhook_outbox_discipline singleEndpoint ⟨rfl, rfl⟩ claimedAgain (by decide)
  refine ⟨(discipline.1 3 1).2, by decide +kernel, ?_⟩
  intro lease listed
  refine ((discipline.2.2.2.2 lateWorker _ rfl).2 lease listed ?_ .ack (some 200) (seconds 86401)).1
  have isLease : ∀ lease ∈ (run lateWorker ⟨singleEndpoint, []⟩).leases,
      lease.deliveryId = 3 := by decide +kernel
  have idle : ∃ delivery ∈ (run lateWorker ⟨singleEndpoint, []⟩).outbox.deliveries.rows,
        delivery.id = 3 ∧ delivery.status ≠ .leased := by decide +kernel
  rw [← isLease lease listed] at idle
  exact .inl idle

end System

end Zrotext.Webhook
