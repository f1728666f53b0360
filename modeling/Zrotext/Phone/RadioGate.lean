import Zrotext.Phone.Evolution

/-!
# The gate before the radio

The platform is asked to send only after `consumeRadioStart` has changed one
row.  An attempt that went through the gate must not come back to it.  The
state that incomplete results give an attempt does bring it back; runs without
such callbacks open the gate at most once.
-/

namespace Zrotext.Phone

open Foundation Foundation.Transaction Bool

/-- Every segment has a sent result once the callback is stored. -/
def Callback.completes (callback : Callback) (segments : List SmsSegment) : Bool :=
  segments.all fun segment =>
    segment.sentResultCode.isSome || (!callback.delivery && segment.segmentIndex == callback.index)

namespace Journal

/-- The operation is a callback that would be stored for an attempt behind the
gate, and leaves a segment without a sent result. -/
def reopensGate (journal : Journal) (surroundings : Surroundings) : Operation → Bool
  | .recordCallback attemptId callback _ _ _ =>
    !surroundings.isTypedSubmit03 attemptId &&
    match journal.getAttempt attemptId, journal.getSegment attemptId callback.index with
    | some attempt, some segment =>
      attempt.state == .radioStarted && callback.decision segment == .store &&
        !callback.completes (journal.getSegments attemptId)
    | _, _ => false
  | _ => false

/-- No callback of the run reopens the gate. -/
def sparesGate (journal : Journal) : List Step → Bool
  | [] => true
  | step :: rest =>
    !journal.reopensGate step.1 step.2 && (journal.perform step.1 step.2).sparesGate rest

/-- The operation opens the gate for an attempt. -/
def opensGate (journal : Journal) (attemptId : Identifier)
    (surroundings : Surroundings) : Operation → Bool
  | .consumeRadioStart target messageId subscriptionId segmentCount now =>
    target == attemptId &&
      match ((consumeRadioStart surroundings target messageId subscriptionId
        segmentCount now).commit journal).1 with
      | .ok count => count == 1
      | .error _ => false
  | _ => false

/-- How often a run opens the gate for an attempt. -/
def openings (journal : Journal) (attemptId : Identifier) : List Step → Nat
  | [] => 0
  | step :: rest =>
    (journal.opensGate attemptId step.1 step.2).toNat +
      (journal.perform step.1 step.2).openings attemptId rest

end Journal

/-- States that lie behind the gate. -/
def AttemptState.isBehindGate : AttemptState → Bool
  | .reserved | .submitting => false
  | _ => true

theorem AttemptState.fromEvidence_isBehindGate {prior : AttemptState}
    (behind : prior.isBehindGate) (complete : prior = .radioStarted → segments ≠ [] ∧
      ∀ segment ∈ segments, segment.sentResultCode.isSome) :
    (prior.fromEvidence segments).isBehindGate := by
  unfold fromEvidence
  split_ifs with _ incomplete underWay
  · rfl
  · rcases underWay with rfl | isStarted
    · cases behind
    · obtain ⟨some, all⟩ := complete isStarted
      rcases incomplete with none | missing
      · exact absurd none some
      · obtain ⟨segment, present, isNone⟩ := List.any_eq_true.mp missing
        have isSome := all segment present
        rw [Option.isNone_iff_eq_none] at isNone
        simp [isNone] at isSome
  all_goals rfl

namespace Entry

variable {entry : Entry}

theorem conflict_isBehindGate (behind : entry.attempt.state.isBehindGate) :
    (entry.conflict now fresh).attempt.state.isBehindGate := by
  unfold conflict
  split_ifs
  · exact behind
  · cases entry.attempt.messageId <;> rfl

theorem prove_attempt (now : Int) (fresh : Identifier) :
    (entry.prove now fresh).attempt = entry.attempt := by
  unfold prove
  cases entry.attempt.messageId with
  | none => rfl
  | some messageId =>
    split_ifs <;> rfl

theorem Quiet.isBehindGate (quiet : entry.Quiet next)
    (behind : entry.attempt.state.isBehindGate) :
    next.attempt.state.isBehindGate := by
  cases quiet with
  | start now isState | drop now isState | permit now isState =>
    rw [isState] at behind
    cases behind
  | interrupt | abandon | timeOut => rfl
  | acknowledge => exact behind
  | prove now fresh =>
    rw [prove_attempt]
    exact behind

theorem Drifts.isBehindGate (drifts : entry.Drifts next)
    (behind : entry.attempt.state.isBehindGate) :
    next.attempt.state.isBehindGate := by
  induction drifts with
  | refl => exact behind
  | tail _ quiet ih => exact quiet.isBehindGate ih

/-- The stored results after a callback that completes them. -/
theorem store_complete {segment : SmsSegment} (found : entry.segmentOf callback = some segment)
    (completes : callback.completes entry.segments) : (entry.store callback).segments ≠ [] ∧
      ∀ stored ∈ (entry.store callback).segments, stored.sentResultCode.isSome := by
  constructor
  · intro isEmpty
    have listed := (segmentOf_eq_some found).1
    rw [← List.length_eq_zero_iff, length_store, List.length_eq_zero_iff] at isEmpty
    rw [isEmpty] at listed
    cases listed
  · intro stored present
    have answered : ∀ old ∈ entry.segments, old.sentResultCode.isSome ∨
          callback.delivery = false ∧ old.segmentIndex = callback.index := by
      intro old listed
      simpa using List.all_eq_true.mp completes old listed
    rcases Table.mem_update_iff.mp present with
      ⟨listed, unselected⟩ | ⟨old, listed, -, rfl⟩
    · rcases answered stored listed with isSome | ⟨isSent, isIndex⟩
      · exact isSome
      · rw [isIndex, callback.decision_sent (by simp [isSent])] at unselected
        simpa using unselected
    · unfold Callback.writeTo
      split_ifs with isDelivery
      · rcases answered old listed with isSome | ⟨isSent, -⟩
        · exact isSome
        · cases isSent.symm.trans isDelivery
      · rfl

theorem recordCallback_isBehindGate (behind : entry.attempt.state.isBehindGate)
    (spared : ∀ segment, entry.segmentOf callback = some segment →
      callback.decision segment = .store → entry.attempt.state = .radioStarted →
      callback.completes entry.segments) :
    (entry.recordCallback callback now fresh later).attempt.state.isBehindGate := by
  have recording := entry.recordCallback_recording callback now fresh later
  generalize entry.recordCallback callback now fresh later = next at recording
  cases recording with
  | ignored => exact behind
  | contradicted | refused => exact conflict_isBehindGate behind
  | @reported segment _ found stored _ =>
    unfold SmsAttempt.nextState
    split_ifs
    · rfl
    · refine AttemptState.fromEvidence_isBehindGate behind fun isStarted => ?_
      exact store_complete found (spared segment found stored isStarted)

end Entry

namespace Journal

variable {journal : Journal}

/-- The callback of an attempt with a typed submission is dropped. -/
theorem perform_typed (typed : surroundings.isTypedSubmit03 attemptId) :
    journal.perform surroundings (.recordCallback attemptId callback now fresh later) =
      journal := by
  rw [perform, recordCallback, if_pos typed]
  rfl

/-- An attempt behind the gate stays there if no callback brings it back. -/
theorem perform_isBehindGate (coherent : journal.Coherent) (holds : journal.Holds attemptId entry)
    (behind : entry.attempt.state.isBehindGate)
    (spared : journal.reopensGate surroundings operation = false) :
    ∃ next, (journal.perform surroundings operation).Holds attemptId next ∧
      next.attempt.state.isBehindGate := by
  obtain ⟨next, holdsNext, explained⟩ :=
    (perform_evolves coherent surroundings operation attemptId).2 entry holds
  refine ⟨next, holdsNext, ?_⟩
  cases operation with
  | recordCallback target callback now fresh later =>
    rcases explained with rfl | ⟨rfl, rfl⟩
    · exact behind
    cases typed : surroundings.isTypedSubmit03 attemptId with
    | true =>
      rw [perform_typed typed] at holdsNext
      exact holds.unique holdsNext ▸ behind
    | false =>
      refine Entry.recordCallback_isBehindGate behind ?_
      intro segment found stored isStarted
      have isFound : journal.getSegment attemptId callback.index =
          some segment := (holds.getSegment _).trans found
      simpa [reopensGate, typed, holds.getAttempt, isFound, holds.getSegments,
        stored, isStarted] using spared
  | _ => exact Entry.Drifts.isBehindGate explained behind

theorem consumeRadioStart_lacks (lacks : journal.Lacks attemptId) :
    Finishes (consumeRadioStart surroundings attemptId messageId subscriptionId segmentCount now)
      (fun count _ => count = 0) journal := by
  refine List.countP_eq_zero.mpr fun attempt present selected => ?_
  simp only [and_eq_true] at selected
  exact List.filter_eq_nil_iff.mp lacks.attempts attempt present selected.2.1.1.1.1

theorem consumeRadioStart_holds (holds : journal.Holds attemptId entry) :
    Finishes (consumeRadioStart surroundings attemptId messageId subscriptionId segmentCount now)
      (fun count after => count = 0 ∨ entry.attempt.state = .submitting ∧
        after.Holds attemptId (entry.moveTo .radioStarted now)) journal := by
  refine (updateAttempts_turns (by intro attempt; rfl) ?_ holds).imp ?_
  · intro attempt selected
    simp only [and_eq_true, beq_iff_eq] at selected
    exact selected.2.1.1.1.1
  · rintro count after ⟨isCount, turns⟩
    have isHeld := turns.holds
    unfold changed at isHeld
    split_ifs at isCount isHeld with selected
    · simp only [and_eq_true, beq_iff_eq] at selected
      exact .inr ⟨selected.2.2, isHeld⟩
    · exact .inl isCount

theorem opensGate_eq_true (coherent : journal.Coherent)
    (opens : journal.opensGate attemptId surroundings operation) :
    ∃ entry next, journal.Holds attemptId entry ∧ entry.attempt.state = .submitting ∧
      (journal.perform surroundings operation).Holds attemptId next ∧
      next.attempt.state = .radioStarted := by
  cases operation with
  | consumeRadioStart target messageId subscriptionId segmentCount now =>
    simp only [opensGate, and_eq_true, beq_iff_eq] at opens
    obtain ⟨rfl, isOne⟩ := opens
    cases result : ((consumeRadioStart surroundings target messageId
        subscriptionId segmentCount now).commit journal).1 with
    | error failure => simp [result] at isOne
    | ok count =>
      simp only [result, beq_iff_eq] at isOne
      rcases coherent target with lacks | ⟨entry, holds⟩
      · have isZero := (consumeRadioStart_lacks lacks).of_commit result
        omega
      · rcases (consumeRadioStart_holds holds).of_commit result with
          isZero | ⟨submitting, started⟩
        · omega
        · exact ⟨entry, _, holds, submitting, started, rfl⟩
  | _ => cases opens

theorem openings_of_isBehindGate (coherent : journal.Coherent)
    (holds : journal.Holds attemptId entry) (behind : entry.attempt.state.isBehindGate)
    (spared : journal.sparesGate steps) :
    journal.openings attemptId steps = 0 := by
  induction steps generalizing journal entry with
  | nil => rfl
  | cons step rest ih =>
    rw [sparesGate, and_eq_true, not_eq_true'] at spared
    obtain ⟨next, holdsNext, behindNext⟩ := perform_isBehindGate coherent holds behind spared.1
    have closed : journal.opensGate attemptId step.1 step.2 = false := by
      refine eq_false_iff.mpr fun opens => ?_
      obtain ⟨held, _, holdsHeld, submitting, -⟩ := opensGate_eq_true coherent opens
      rw [holds.unique holdsHeld, submitting] at behind
      cases behind
    have coherentNext := (perform_evolves coherent step.1 step.2).coherent coherent
    rw [openings, closed, ih coherentNext holdsNext behindNext spared.2]
    rfl

theorem openings_le_one (coherent : journal.Coherent) (attemptId : Identifier)
    (spared : journal.sparesGate steps) : journal.openings attemptId steps ≤ 1 := by
  induction steps generalizing journal with
  | nil => exact Nat.zero_le 1
  | cons step rest ih =>
    rw [sparesGate, and_eq_true, not_eq_true'] at spared
    have coherentNext := (perform_evolves coherent step.1 step.2).coherent coherent
    rw [openings]
    cases opens : journal.opensGate attemptId step.1 step.2 with
    | false =>
      rw [toNat_false, Nat.zero_add]
      exact ih coherentNext spared.2
    | true =>
      obtain ⟨_, next, -, -, holdsNext, isStarted⟩ := opensGate_eq_true coherent opens
      rw [openings_of_isBehindGate coherentNext holdsNext (by rw [isStarted]; rfl) spared.2]
      exact Nat.le_refl 1

end Journal

/-- A run without callbacks that leave a segment of an attempt behind the gate
unanswered opens the gate at most once for each attempt. -/
theorem radio_gate_opens_once (steps : List Journal.Step)
    (spared : Journal.empty.sparesGate steps = true) (attemptId : Identifier) :
    Journal.empty.openings attemptId steps ≤ 1 :=
  Journal.openings_le_one Journal.empty_coherent attemptId spared

namespace Drill

/-- No other component takes part. -/
def surroundings : Surroundings where
  isTypedSubmit03 _ := false
  hasProfile03EffectFence _ := false
  hasSealedPreparation _ _ _ := false

def identity : EvidenceIdentity where
  accountId := 1
  deviceId := 2
  originHash := List.replicate 64 'a'
  originHashed := by decide +kernel

/-- Attempt 10 of message 20 is reserved, permitted and started. -/
def starting (segmentCount : Int) : List Operation :=
  [.reserveAlpha 10 20 1 segmentCount 30 0 none identity, .acknowledgeAlphaIntent 30 true 1 31,
    .consumeRadioStart 10 20 1 segmentCount 2]

/-- The platform says that a segment was sent. -/
def sent (index : Int) (fresh : Identifier) : Operation :=
  .recordCallback 10 ⟨index, false, resultOk, none⟩ 3 fresh 32

/-- The first of two segments is sent, and the start is asked for again. -/
def reopening : List Operation := starting 2 ++ [sent 0 33, .consumeRadioStart 10 20 1 2 4]

/-- The only segment is sent, and the start is asked for again. -/
def finishing : List Operation := starting 1 ++ [sent 0 33, .consumeRadioStart 10 20 1 1 4]

/-- Run operations while no other component takes part. -/
def alone (operations : List Operation) : List Journal.Step :=
  operations.map fun operation => (surroundings, operation)

end Drill

/-- The gate opens for an attempt that finishes. -/
theorem radio_gate_opens_once_drill : Journal.empty.openings 10 (Drill.alone Drill.finishing) ≤ 1 ∧
      Journal.empty.openings 10 (Drill.alone (Drill.starting 1)) = 1 :=
  ⟨radio_gate_opens_once _ (by decide +kernel) 10, by decide +kernel⟩

/-- The callback of the first of two segments brings the attempt back before the
gate. -/
theorem radio_gate_opens_twice : Journal.empty.openings 10 (Drill.alone Drill.reopening) = 2 := by
  decide +kernel

end Zrotext.Phone
