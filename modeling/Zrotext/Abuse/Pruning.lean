import Zrotext.Abuse.Access

/-!
# Pruning of counters

A counter that is pruned has been idle for longer than every window that its
scope is charged with, so no operation could have told it from a missing one.
-/

namespace Zrotext.Abuse

open Foundation Delivery List

variable {δ : Type} [DecidableEq δ]

/-- The most counters that one prune deletes. -/
def pruneLimit : Nat := 5000

variable (locked : List (Key δ)) (now : Time) (counters : Counters δ)

/-- The counter has been idle for longer than its scope is kept. -/
def Counter.isStale (counter : Counter δ) : Bool :=
  let kept := (retained pruneRetention counter.scope).getD defaultRetentionSeconds
  decide (counter.updatedAt < now - seconds defaultRetentionSeconds) &&
    decide (counter.updatedAt < now - seconds kept)

/-- The keys of the stale counters that are not locked, the longest idle
first. -/
def staleKeys : List (Key δ) :=
  let stale := counters.rows.filter fun counter =>
    counter.isStale now && !locked.contains counter.key
  let ordered := stale.insertionSort fun counter other =>
    counter.updatedAt ≤ other.updatedAt
  (ordered.take pruneLimit).map Counter.key

/-- Remove counters that have been idle for long. -/
def prune : Counters δ := counters.remove fun counter =>
    (staleKeys locked now counters).contains counter.key

/-- A pruned counter was stale. -/
theorem lookup_prune (key : Key δ) : (prune locked now counters).lookup key = counters.lookup key ∨
      ((prune locked now counters).lookup key = none ∧
        ∃ counter, counters.lookup key = some counter ∧ counter.isStale now) := by
  unfold prune
  rw [Keyed.lookup_remove]
  cases found : counters.lookup key with
  | none => exact .inl rfl
  | some counter =>
    by_cases removed : counter.key ∈ staleKeys locked now counters
    · refine .inr ⟨by simp [removed], counter, rfl, ?_⟩
      obtain ⟨other, taken, sameKey⟩ := mem_map.mp removed
      have sorted := mem_of_mem_take taken
      rw [mem_insertionSort] at sorted
      obtain ⟨present, stale⟩ := mem_filter.mp sorted
      rw [Bool.and_eq_true] at stale
      rw [← Keyed.eq_of_key present (Keyed.lookup_eq_some_iff.mp found).1 sameKey]
      exact stale.1
    · exact .inl (by simp [removed])

omit [DecidableEq δ] in
theorem Counter.isStale_mono {counter : Counter δ} {now : Time}
    (stale : counter.isStale now) (ordered : now ≤ later) :
    counter.isStale later := by
  unfold isStale at stale ⊢
  simp only [Bool.and_eq_true, decide_eq_true_eq] at stale ⊢
  exact ⟨stale.1.trans_le (Int.sub_le_sub_right ordered _),
    stale.2.trans_le (Int.sub_le_sub_right ordered _)⟩

/-- A window that is no longer than its scope is kept. -/
def Kept (use : Key δ × Int) : Prop :=
  ∃ kept, retained pruneRetention use.1.1 = some kept ∧ use.2 ≤ kept

omit [DecidableEq δ] in
theorem Limit.kept {limit : Limit} {hash : δ} (bounded : window ≤ limit.longestWindowSeconds) :
    Kept ((limit.scope, hash), window) := by
  obtain ⟨kept, isKept, longest_le⟩ := limit.le_retained
  exact ⟨kept, isKept, bounded.trans longest_le⟩

theorem Limit.subjectSeconds_getD_le (limit : Limit) (lane : Lane) :
    ((limit.subjectPolicy lane).getD (0, 0)).2 ≤ limit.longestWindowSeconds := by
  cases isBudget : limit.subjectPolicy lane with
  | none => exact le_trans (by cases limit <;> decide) limit.globalSeconds_le
  | some budget => exact Limit.subjectSeconds_le isBudget

omit [DecidableEq δ] in
theorem kept_call {call : Call δ} (listed : (call.scope, window) ∈ windows)
    (isGlobal : call.globalSeconds = window) (isSubject : call.subjectSeconds = window) :
    ∀ use ∈ (Access.consume call).uses, Kept use := by
  intro use used
  rw [Access.uses, isGlobal, isSubject] at used
  rcases mem_cons.mp used with rfl | subject
  · exact le_retained listed
  · obtain ⟨hash, _, rfl⟩ := mem_map.mp subject
    exact le_retained listed

omit [DecidableEq δ] in
theorem kept_chargeCall (hasher : Hasher δ) (limit : Limit) (subject : Option Text) (lane : Lane) :
    ∀ use ∈ (Access.consume (chargeCall hasher limit subject lane)).uses, Kept use := by
  intro use listed
  unfold chargeCall at listed
  simp only at listed
  split at listed
  · rw [Access.uses] at listed
    simp only [Option.toList_none, map_nil, mem_singleton] at listed
    rw [listed]
    exact Limit.kept (limit.subjectSeconds_getD_le lane)
  · rw [Access.uses] at listed
    rcases mem_cons.mp listed with rfl | isSubject
    · exact Limit.kept limit.globalSeconds_le
    · obtain ⟨hash, _, rfl⟩ := mem_map.mp isSubject
      exact Limit.kept (limit.subjectSeconds_getD_le lane)

omit [DecidableEq δ] in
theorem Operation.kept (hasher : Hasher δ) (operation : Operation) :
    ∀ use ∈ (operation.access hasher).uses, Kept use := by
  cases operation with
  | consume limit subject => exact kept_chargeCall hasher limit subject _
  | consumeVerified limit | consumeVerifiedRoute limit => exact kept_chargeCall hasher limit _ _
  | consumeStorageBudget accountId deviceId =>
    exact kept_call (mem_append_right _ mem_cons_self) rfl rfl
  | consumeConsentBudget deviceId =>
    exact kept_call (mem_append_right _ (mem_cons_of_mem _ mem_cons_self)) rfl rfl
  | recordFailure limit subject | failureBudgetOpen limit subject =>
    intro use listed
    rw [mem_singleton.mp listed]
    have bounded := limit.subjectSeconds_getD_le .anonymous
    rw [show limit.subjectPolicy .anonymous = limit.policy.subjectPolicy by
      cases limit <;> rfl] at bounded
    exact Limit.kept bounded
  | subjectBudgetOpen limit subject lane =>
    intro use listed
    rw [mem_singleton.mp listed]
    exact Limit.kept (limit.subjectSeconds_getD_le lane)

/-- What happens to the table of counters. -/
inductive Event (δ : Type)
  | operation (operation : Operation)
  | prune (locked : List (Key δ))

/-- The event is an operation, not a prune. -/
def Event.isOperation : Event δ → Bool
  | .operation _ => true
  | .prune _ => false

/-- The answers that the operations of a schedule get. -/
def answers (hasher : Hasher δ) : List (Time × Event δ) → Counters δ → List Answer
  | [], _ => []
  | (now, .operation operation) :: rest, counters =>
    let performed := operation.perform hasher now counters
    performed.1 :: answers hasher rest performed.2
  | (now, .prune locked) :: rest, counters =>
    answers hasher rest (prune locked now counters)

/-- A table from which only stale counters are missing. -/
structure Pruned (now : Time) (pruned full : Counters δ) : Prop where
  missing : ∀ key, pruned.lookup key = full.lookup key ∨
    (pruned.lookup key = none ∧ ∃ counter, full.lookup key = some counter ∧
      counter.isStale now = true)
  ordered : ∀ counter ∈ full.rows,
    counter.windowStartedAt ≤ counter.updatedAt ∧ counter.updatedAt ≤ now

namespace Pruned

variable {now : Time} {full : Counters δ}

theorem later {later : Time} (related : Pruned now pruned full) (now_le : now ≤ later) :
    Pruned later pruned full where
  missing := by
    intro key
    rcases related.missing key with same | ⟨missing, counter, found, stale⟩
    · exact .inl same
    · exact .inr ⟨missing, counter, found, Counter.isStale_mono stale now_le⟩
  ordered := fun counter present =>
    ⟨(related.ordered counter present).1, (related.ordered counter present).2.trans now_le⟩

/-- The window of a stale counter is over. -/
theorem alike (related : Pruned now pruned full) (kept : Kept use) :
    Alike use.2 now (pruned.lookup use.1) (full.lookup use.1) := by
  rcases related.missing use.1 with same | ⟨missing, counter, found, stale⟩
  · exact .inl same
  · refine .inr ⟨missing, counter, found, ?_⟩
    obtain ⟨present, isKey⟩ := Keyed.lookup_eq_some_iff.mp found
    obtain ⟨kept, isKept, bounded⟩ := kept
    have isScope : counter.scope = use.1.1 := congrArg Prod.fst isKey
    unfold Counter.isStale at stale
    rw [isScope, isKept] at stale
    simp only [Option.getD_some, Bool.and_eq_true, decide_eq_true_eq] at stale
    unfold Counter.isOver
    rw [decide_eq_true_eq]
    calc counter.windowStartedAt ≤ counter.updatedAt := (related.ordered counter present).1
      _ ≤ now - seconds kept := stale.2.le
      _ ≤ now - seconds use.2 :=
        Int.sub_le_sub_left (Int.mul_le_mul_of_nonneg_right bounded (by decide)) now

theorem perform (hasher : Hasher δ) (operation : Operation) (related : Pruned now pruned full) :
    (operation.perform hasher now pruned).1 = (operation.perform hasher now full).1 ∧
      Pruned now (operation.perform hasher now pruned).2 (operation.perform hasher now full).2 := by
  rw [operation.perform_eq, operation.perform_eq]
  obtain ⟨sameAnswer, together⟩ := Access.perform_congr
    fun use listed => related.alike (operation.kept hasher use listed)
  refine ⟨sameAnswer, ?_, ?_⟩
  · intro key
    rcases together key with ⟨samePruned, sameFull⟩ | same
    · rw [samePruned, sameFull]
      exact related.missing key
    · exact .inl same
  · refine Access.forall_perform (fun _ => ⟨le_refl now, le_refl now⟩) ?_ related.ordered
    rintro window counter ⟨started, updated⟩
    refine ⟨?_, le_refl now⟩
    change (if counter.isOver window now then now else
      counter.windowStartedAt) ≤ now
    split_ifs
    · exact le_refl now
    · exact started.trans updated

theorem prune (locked : List (Key δ)) (related : Pruned now pruned full) :
    Pruned now (Abuse.prune locked now pruned) full where
  missing := by
    intro key
    rcases lookup_prune locked now pruned key with
      same | ⟨removed, counter, found, stale⟩
    · rw [same]
      exact related.missing key
    · rcases related.missing key with same | ⟨missing, _⟩
      · exact .inr ⟨removed, counter, same ▸ found, stale⟩
      · rw [found] at missing
        cases missing
  ordered := related.ordered

/-- The answers do not show which stale counters are missing. -/
theorem answers_eq (hasher : Hasher δ) {schedule : List (Time × Event δ)}
    (related : Pruned now pruned full) (forward : (now :: schedule.map Prod.fst).Pairwise (· ≤ ·)) :
    answers hasher schedule pruned =
      answers hasher (schedule.filter fun entry => entry.2.isOperation) full := by
  induction schedule generalizing now pruned full with
  | nil => rfl
  | cons entry rest ih =>
    obtain ⟨time, event⟩ := entry
    obtain ⟨now_le, later⟩ := pairwise_cons.mp forward
    have atTime := related.later (now_le time mem_cons_self)
    cases event with
    | operation operation =>
      obtain ⟨sameAnswer, after⟩ := atTime.perform hasher operation
      have sameRest := ih after later
      change _ :: _ = _ :: _
      rw [sameAnswer, sameRest]
    | prune locked => exact ih (atTime.prune locked) later

end Pruned

/-- Pruning is invisible: every operation answers as if nothing was pruned. -/
theorem prune_invisible (hasher : Hasher δ) (schedule : List (Time × Event δ))
    (forward : (schedule.map Prod.fst).Pairwise (· ≤ ·)) : answers hasher schedule .empty =
      answers hasher (schedule.filter fun entry => entry.2.isOperation) .empty := by
  cases schedule with
  | nil => rfl
  | cons entry rest =>
    have related : Pruned entry.1 (.empty : Counters δ) .empty := ⟨fun _ => .inl rfl, nofun⟩
    refine related.answers_eq hasher (pairwise_cons.mpr ⟨?_, forward⟩)
    intro time listed
    rcases mem_cons.mp listed with rfl | later
    · exact le_refl _
    · exact (pairwise_cons.mp forward).1 time later

/-- A login, a pruning after its window, and the next login. -/
def idleSchedule : List (Time × Event Text) :=
  [(seconds 0, .operation (.consume .login (some "owner".toList))), (seconds 2000, .prune []),
    (seconds 2000, .operation (.consume .login (some "owner".toList)))]

/-- The pruned counter was over. -/
theorem prune_invisible_idle : answers plainHasher idleSchedule .empty = answers plainHasher
          (idleSchedule.filter fun entry => entry.2.isOperation) .empty ∧
      answers plainHasher idleSchedule .empty = [.decided true, .decided true] :=
  ⟨prune_invisible plainHasher idleSchedule (by decide), by decide +kernel⟩

end Zrotext.Abuse
