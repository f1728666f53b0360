import Zrotext.Phone.Entry

/-!
# Operations, attempt by attempt

The journal is the collection of the entries of its attempts: an operation
changes the entry of each attempt by itself.
-/

namespace Zrotext.Phone

open Foundation Foundation.Transaction List Table

namespace Journal

/-- The rows of one attempt. -/
structure Holds (journal : Journal) (attemptId : Identifier) (entry : Entry) : Prop where
  attempts : journal.attempts.filter (·.attemptId == attemptId) = [entry.attempt]
  segments : journal.segments.filter (·.attemptId == attemptId) = entry.segments
  events : journal.events.filter (·.attemptId == attemptId) = entry.events
  inserted : journal.inserted.filter (·.attemptId == attemptId) = entry.inserted

/-- Nothing is there about an attempt. -/
structure Lacks (journal : Journal) (attemptId : Identifier) : Prop where
  attempts : journal.attempts.filter (·.attemptId == attemptId) = []
  segments : journal.segments.filter (·.attemptId == attemptId) = []
  events : journal.events.filter (·.attemptId == attemptId) = []
  inserted : journal.inserted.filter (·.attemptId == attemptId) = []

/-- Two journals say the same about an attempt. -/
structure Agrees (journal after : Journal) (attemptId : Identifier) : Prop where
  attempts : after.attempts.filter (·.attemptId == attemptId) =
    journal.attempts.filter (·.attemptId == attemptId)
  segments : after.segments.filter (·.attemptId == attemptId) =
    journal.segments.filter (·.attemptId == attemptId)
  events : after.events.filter (·.attemptId == attemptId) =
    journal.events.filter (·.attemptId == attemptId)
  inserted : after.inserted.filter (·.attemptId == attemptId) =
    journal.inserted.filter (·.attemptId == attemptId)

section Views

variable {journal after : Journal}

theorem Lacks.agrees (lacks : journal.Lacks attemptId) (agrees : journal.Agrees after attemptId) :
    after.Lacks attemptId :=
  ⟨agrees.attempts.trans lacks.attempts, agrees.segments.trans lacks.segments,
    agrees.events.trans lacks.events, agrees.inserted.trans lacks.inserted⟩

theorem Agrees.refl : journal.Agrees journal attemptId := ⟨rfl, rfl, rfl, rfl⟩

theorem Agrees.trans (first : journal.Agrees after attemptId)
    (second : after.Agrees last attemptId) : journal.Agrees last attemptId :=
  ⟨second.attempts.trans first.attempts, second.segments.trans first.segments,
    second.events.trans first.events, second.inserted.trans first.inserted⟩

section

variable (holds : journal.Holds attemptId entry)

include holds

theorem Holds.agrees (agrees : journal.Agrees after attemptId) : after.Holds attemptId entry :=
  ⟨agrees.attempts.trans holds.attempts, agrees.segments.trans holds.segments,
    agrees.events.trans holds.events, agrees.inserted.trans holds.inserted⟩

theorem Holds.mem_attempts :
    attempt ∈ journal.attempts ∧ attempt.attemptId = attemptId ↔ attempt = entry.attempt := by
  rw [← mem_part holds.attempts, mem_singleton]

theorem Holds.owner : entry.attempt.attemptId = attemptId := (holds.mem_attempts.mpr rfl).2

theorem Holds.mem_segments {segment : SmsSegment} :
    segment ∈ entry.segments ↔ segment ∈ journal.segments ∧ segment.attemptId = attemptId :=
  mem_part holds.segments

theorem Holds.mem_events :
    event ∈ entry.events ↔ event ∈ journal.events ∧ event.attemptId = attemptId :=
  mem_part holds.events

theorem Holds.getAttempt : journal.getAttempt attemptId = some entry.attempt := by
  unfold Journal.getAttempt
  rw [← head?_filter, holds.attempts]
  rfl

theorem Holds.getSegments : journal.getSegments attemptId = entry.segments := holds.segments

theorem Holds.getSegment (index : Int) :
    journal.getSegment attemptId index = entry.segments.find? (·.segmentIndex == index) := by
  unfold Journal.getSegment
  rw [← holds.segments, find?_filter]
  congr 1
  funext segment
  rw [Bool.decide_and, Bool.decide_eq_true, Bool.decide_eq_true]

theorem Holds.hasNoRadioProof :
    journal.hasNoRadioProof attemptId = entry.events.any (·.evidence == .provenNoSubmit) := by
  unfold Journal.hasNoRadioProof
  rw [← holds.events, any_filter]

end

theorem Lacks.not_holds (lacks : journal.Lacks attemptId) : ¬ journal.Holds attemptId entry := by
  intro holds
  cases lacks.attempts.symm.trans holds.attempts

theorem Lacks.getAttempt (lacks : journal.Lacks attemptId) :
    journal.getAttempt attemptId = none := by
  unfold Journal.getAttempt
  rw [← head?_filter, lacks.attempts]
  rfl

end Views

/-- An operation changes the entry of one attempt and nothing else. -/
structure Turns (journal : Journal) (attemptId : Identifier) (entry : Entry)
    (after : Journal) : Prop where
  holds : after.Holds attemptId entry
  others : ∀ other, other ≠ attemptId → journal.Agrees after other

/-- A transaction that changes the entry of one attempt and nothing else if it
finishes. -/
abbrev TurnsBy {α : Type} (journal : Journal) (attemptId : Identifier) (entry : Entry)
    (transaction : JournalTransaction α) : Prop :=
  Finishes transaction (fun _ after => journal.Turns attemptId entry after) journal

section Statements

variable {journal after : Journal}

theorem Turns.refl (holds : journal.Holds attemptId entry) :
    journal.Turns attemptId entry journal :=
  ⟨holds, fun _ _ => .refl⟩

theorem Turns.trans {next : Entry} (first : journal.Turns attemptId entry after)
    (second : after.Turns attemptId next last) : journal.Turns attemptId next last :=
  ⟨second.holds, fun other different =>
    (first.others other different).trans (second.others other different)⟩

/-- Change the attempt of an entry. -/
def changed (selects : SmsAttempt → Bool) (change : SmsAttempt → SmsAttempt)
    (entry : Entry) : Entry :=
  { entry with
    attempt :=
      if selects entry.attempt then change entry.attempt else entry.attempt }

section Attempts

variable {change : SmsAttempt → SmsAttempt}
  (keeps : ∀ attempt, (change attempt).attemptId = attempt.attemptId)

include keeps

theorem Holds.updateAttempts (holds : journal.Holds attemptId entry) :
    ({ journal with
      attempts := Table.update selects change journal.attempts } :
        Journal).Holds attemptId (changed selects change entry) := by
  refine { holds with attempts := ?_ }
  rw [filter_update fun attempt => by rw [keeps], holds.attempts]
  rfl

theorem Lacks.updateAttempts (lacks : journal.Lacks attemptId) :
    ({ journal with
      attempts := Table.update selects change journal.attempts } : Journal).Lacks attemptId := by
  refine { lacks with attempts := ?_ }
  rw [filter_update fun attempt => by rw [keeps], lacks.attempts]
  rfl

theorem updateAttempts_turns (only : ∀ attempt, selects attempt →
      attempt.attemptId = attemptId)
    (holds : journal.Holds attemptId entry) : Finishes (updateAttempts selects change)
      (fun count after =>
        count = (if selects entry.attempt then 1 else 0) ∧
          journal.Turns attemptId (changed selects change entry) after) journal := by
  refine ⟨?_, holds.updateAttempts keeps, ?_⟩
  · have selected : journal.attempts.countP selects =
        (journal.attempts.filter (·.attemptId == attemptId)).countP selects := by
      rw [countP_filter]
      refine countP_congr fun attempt _ => ?_
      rw [Bool.and_eq_true, beq_iff_eq]
      exact ⟨fun isSelected => ⟨isSelected, only attempt isSelected⟩, And.left⟩
    rw [selected, holds.attempts, countP_singleton]
  · intro other different
    exact ⟨filter_update_of_ne (Ne.symm different) (fun attempt _ => only attempt) keeps,
      rfl, rfl, rfl⟩

end Attempts

/-- The rows of the attempt that are changed may be selected in another way. -/
theorem updateSegments_turns (keeps : ∀ segment, (change segment).attemptId = segment.attemptId)
    (only : ∀ segment, selects segment → segment.attemptId = attemptId)
    (same : ∀ segment ∈ entry.segments, selects segment = chosen segment)
    (holds : journal.Holds attemptId entry) : Finishes (updateSegments selects change)
      (fun count after => count = entry.segments.countP chosen ∧ journal.Turns attemptId
        { entry with segments := Table.update chosen change entry.segments } after) journal := by
  refine ⟨?_, ⟨holds.attempts, ?_, holds.events, holds.inserted⟩, ?_⟩
  · have isCount : entry.segments.countP selects = entry.segments.countP chosen :=
      countP_congr fun segment present => by rw [same segment present]
    rw [← isCount, ← holds.segments, countP_filter]
    refine countP_congr fun segment _ => ?_
    rw [Bool.and_eq_true, beq_iff_eq]
    exact ⟨fun isSelected => ⟨isSelected, only segment isSelected⟩, And.left⟩
  · refine (filter_update (fun segment => by rw [keeps]) _).trans ?_
    rw [holds.segments, update_congr same]
  · intro other different
    exact ⟨rfl, filter_update_of_ne (Ne.symm different) (fun segment _ => only segment) keeps,
      rfl, rfl⟩

theorem insertAlphaEvent_turns {event : AlphaRadioEvent} (isOwn : event.attemptId = attemptId)
    (holds : journal.Holds attemptId entry) : journal.TurnsBy attemptId (entry.insert event)
      (insertAlphaEvent event) := by
  unfold insertAlphaEvent
  simp only [leads_bind, leads_get, leads_refuse, leads_set, implies_true, and_true]
  refine fun _ => ⟨⟨holds.attempts, holds.segments, ?_, ?_⟩, ?_⟩
  · rw [filter_append, holds.events]
    simp [Entry.insert, isOwn]
  · rw [filter_append, holds.inserted]
    simp [Entry.insert, isOwn]
  · intro other different
    have foreign : (event.attemptId == other) = false := by
      rw [beq_eq_false_iff_ne, isOwn]
      exact Ne.symm different
    refine ⟨rfl, rfl, ?_, ?_⟩ <;> simp [filter_append, foreign]

theorem removePendingNoRadioProof_turns (holds : journal.Holds attemptId entry) :
    journal.TurnsBy attemptId entry.withdrawn
      (removePendingNoRadioProof attemptId) := by
  refine ⟨⟨holds.attempts, holds.segments, ?_, holds.inserted⟩, ?_⟩
  · rw [filter_delete, holds.events]
    refine filter_congr fun event present => ?_
    simp [AlphaRadioEvent.isPendingProof, (holds.mem_events.mp present).2]
  · intro other different
    refine ⟨rfl, rfl, ?_, rfl⟩
    rw [filter_delete]
    refine delete_of_unselected fun event present => ?_
    simp [((mem_part rfl).mp present).2, different]

end Statements

section Callbacks

variable {surroundings : Surroundings} {journal : Journal}

theorem recordNoRadioProof_turns (holds : journal.Holds attemptId entry) :
    journal.TurnsBy attemptId (entry.prove now fresh)
      (recordNoRadioProof attemptId now fresh) := by
  unfold recordNoRadioProof Entry.prove
  simp only [leads_bind, leads_get, holds.getAttempt]
  cases entry.attempt.messageId with
  | none => exact .refl holds
  | some messageId =>
    have provable : entry.isProvable ↔ ¬ (entry.attempt.state ≠ .notSubmitted ∨
          entry.attempt.evidenceConflict ∨
          journal.hasNoRadioProof attemptId ∨
          (journal.getSegments attemptId).any (!·.isBlank)) := by
      rw [holds.hasNoRadioProof, holds.getSegments]
      simp [Entry.isProvable, and_assoc]
    simp only [leads_ite]
    constructor
    · intro unprovable
      rw [if_neg (fun isProvable => provable.mp isProvable unprovable)]
      exact .refl holds
    · intro isProvable
      rw [if_pos (provable.mpr isProvable)]
      exact insertAlphaEvent_turns holds.owner holds

section Untyped

variable (untyped : surroundings.isTypedSubmit03 attemptId = false)
  (holds : journal.Holds attemptId entry)

include untyped holds

theorem setState_turns : journal.TurnsBy attemptId (entry.moveTo state now)
      (setState surroundings attemptId state now) := by
  unfold setState moveAttempts
  simp only [leads_bind]
  refine (updateAttempts_turns (by intro attempt; rfl) ?_ holds).imp ?_
  · intro attempt selected
    exact beq_iff_eq.mp (Bool.and_eq_true_iff.mp selected).2
  · rintro count after ⟨-, turns⟩
    rw [leads_pure]
    simpa [changed, holds.owner, untyped, Entry.moveTo] using turns

theorem recordConflict_turns : journal.TurnsBy attemptId (entry.conflict now fresh)
      (recordConflict surroundings entry.attempt now fresh) := by
  unfold recordConflict markCallbackConflict Entry.conflict
  simp only [leads_bind, holds.owner]
  refine (updateAttempts_turns (by intro attempt; rfl) ?_ holds).imp ?_
  · intro attempt selected
    simp only [Bool.and_eq_true, beq_iff_eq] at selected
    exact selected.1.2
  · rintro count after ⟨isCount, turns⟩
    simp only [holds.owner, untyped, BEq.rfl, Bool.not_false, Bool.and_true,
      Bool.true_and, Bool.not_eq_true'] at isCount
    cases conflicted : entry.attempt.evidenceConflict with
    | true =>
      simp only [conflicted, Bool.true_eq_false, if_false] at isCount
      rw [if_pos (by omega), leads_pure, if_pos rfl]
      simpa [changed, conflicted] using turns
    | false =>
      simp only [conflicted, if_true] at isCount
      have isMarked : journal.Turns attemptId (entry.marked now) after := by
        simpa [changed, conflicted, holds.owner, untyped, Entry.marked] using turns
      rw [if_neg (by omega), if_neg Bool.false_ne_true]
      cases entry.attempt.messageId with
      | none => exact isMarked
      | some messageId =>
        simp only [leads_bind]
        refine (removePendingNoRadioProof_turns isMarked.holds).imp ?_
        intro _ withdrawn isWithdrawn
        refine (insertAlphaEvent_turns holds.owner isWithdrawn.holds).imp ?_
        exact fun _ _ isInserted => isMarked.trans (isWithdrawn.trans isInserted)

/-- The rows that have room for the result of a callback are those for which
it is decided to store it. -/
theorem writeCallback_turns :
    Finishes (writeCallback surroundings attemptId callback) (fun count after =>
        count = entry.segments.countP (fun segment =>
          segment.segmentIndex == callback.index && callback.decision segment == .store) ∧
          journal.Turns attemptId (entry.store callback) after) journal := by
  have owned : ∀ segment ∈ entry.segments, segment.attemptId = attemptId :=
    fun segment present => (holds.mem_segments.mp present).2
  unfold writeCallback recordDelivery recordSent Entry.store
  simp only [leads_ite]
  constructor
  · intro isDelivery
    rw [show callback.writeTo = _ from funext fun segment => if_pos isDelivery]
    refine updateSegments_turns (by intro segment; rfl) ?_ ?_ holds
    · intro segment selected
      simp only [Bool.and_eq_true, beq_iff_eq] at selected
      exact selected.1.1.2
    · intro segment present
      rw [owned segment present, untyped, callback.decision_delivery isDelivery]
      simp
  · intro isSent
    rw [show callback.writeTo = _ from funext fun segment => if_neg isSent]
    refine updateSegments_turns (by intro segment; rfl) ?_ ?_ holds
    · intro segment selected
      simp only [Bool.and_eq_true, beq_iff_eq] at selected
      exact selected.1.1.2
    · intro segment present
      rw [owned segment present, untyped, callback.decision_sent isSent]
      simp

omit untyped in
theorem reportCallback_turns {next : AttemptState} :
    journal.TurnsBy attemptId (entry.report callback next now fresh later)
      (reportCallback entry.attempt callback next now fresh later) := by
  unfold reportCallback Entry.report
  cases entry.attempt.messageId with
  | none => exact .refl holds
  | some messageId =>
    simp only [leads_bind]
    have sent : journal.TurnsBy attemptId (entry.reportSent callback messageId now fresh)
        (Transaction.onlyIf (callback.delivery = false ∧ entry.attempt.evidenceConflict = false)
          (insertAlphaEvent (entry.sentEvent callback messageId now fresh))) := by
      simp only [leads_onlyIf]
      unfold Entry.reportSent
      constructor
      · intro reported
        rw [if_pos reported]
        exact insertAlphaEvent_turns holds.owner holds
      · intro unreported
        rw [if_neg unreported]
        exact .refl holds
    refine sent.imp ?_
    intro _ middle isSent
    have same := entry.reportSent_attempt callback messageId now fresh
    rw [leads_onlyIf]
    simp only [Entry.reportDelivered, same]
    constructor
    · intro reported
      rw [if_pos reported]
      refine (insertAlphaEvent_turns holds.owner isSent.holds).imp ?_
      exact fun _ _ isInserted => isSent.trans isInserted
    · intro unreported
      rw [if_neg unreported]
      exact isSent

theorem storeCallback_turns {segment : SmsSegment} (found : entry.segmentOf callback = some segment)
    (stored : callback.decision segment = .store) :
    journal.TurnsBy attemptId (entry.storeCallback callback now fresh later)
      (storeCallback surroundings entry.attempt callback now fresh later) := by
  unfold storeCallback Entry.storeCallback
  simp only [leads_bind, holds.owner]
  refine (writeCallback_turns untyped holds).imp ?_
  rintro count middle ⟨isCount, turns⟩
  have written : count ≠ 0 := by
    rw [isCount]
    refine (countP_pos_iff.mpr ⟨segment, mem_of_find?_eq_some found, ?_⟩).ne'
    rw [stored, find?_some found]
    rfl
  simp only [if_neg written, leads_bind, leads_get]
  rw [turns.holds.getSegments, leads_ite]
  constructor
  · intro refused
    rw [if_pos refused]
    exact (recordConflict_turns untyped turns.holds).imp fun _ _ isConflict =>
      turns.trans isConflict
  · intro accepted
    rw [if_neg accepted]
    simp only [leads_bind]
    refine (reportCallback_turns turns.holds).imp ?_
    intro _ reported isReported
    refine (setState_turns untyped isReported.holds).imp ?_
    exact fun _ _ isMoved => turns.trans (isReported.trans isMoved)

/-- A callback is recorded in the entry of its attempt. -/
theorem recordCallback_turns :
    journal.TurnsBy attemptId (entry.recordCallback callback now fresh later)
      (recordCallback surroundings attemptId callback now fresh later) := by
  unfold recordCallback Entry.recordCallback
  rw [untyped, if_neg Bool.false_ne_true]
  simp only [leads_bind, leads_get, holds.getAttempt, holds.getSegment, leads_ite]
  constructor
  · intro (outside : ¬ entry.InRange callback)
    rw [if_pos outside]
    exact .refl holds
  · intro (inside : ¬ ¬ entry.InRange callback)
    rw [if_neg inside]
    unfold Entry.segmentOf
    cases found : entry.segments.find? (·.segmentIndex == callback.index) with
    | none => exact recordConflict_turns untyped holds
    | some segment =>
      simp only
      cases decided : callback.decision segment with
      | ignore =>
        simp only [leads_ite]
        constructor
        · intro isUnsubmitted
          rw [if_pos isUnsubmitted]
          exact recordConflict_turns untyped holds
        · intro isSubmitted
          rw [if_neg isSubmitted]
          exact .refl holds
      | conflict => exact recordConflict_turns untyped holds
      | store => exact storeCallback_turns untyped holds found decided

end Untyped

end Callbacks

end Journal
end Zrotext.Phone
