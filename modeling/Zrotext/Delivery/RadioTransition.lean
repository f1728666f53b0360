import Zrotext.Delivery.RadioEvidence

/-!
# What a report does to its message

The state after a report depends on the state before it, on the report, and on
what the recorded evidence of its attempt says.
-/

namespace Zrotext.Delivery

open Domain Foundation Transaction

/-- What the recorded evidence must say before a report counts. -/
structure Guarded (event : RadioEvent) (prior : PriorAttemptEvidence) : Prop where
  unconflicted : event.evidence ≠ .callbackConflict → prior.conflicted = false
  unopposed : event.evidence = .provenNoSubmit → prior.contrary = false
  intended : event.evidence = .callbackConflict ∨
    isSentCallback event.evidence = true → prior.durableIntent = true

/-- States in which callbacks of segments are awaited. -/
def awaitsCallbacks : MessageState → Bool
  | .submitting | .unknown => true
  | _ => false

/-- The callback of one segment fits what was recorded. -/
structure Counted (event : RadioEvent) (prior : PriorAttemptEvidence) (count : Int) : Prop where
  declared : event.segmentCount = some count
  sameCount : prior.sentOtherCount = 0
  room : (prior.sentCallbacks : Int) < count

/-- How a report moves its message. -/
inductive Moves (current : MessageState) (event : RadioEvent)
    (prior : PriorAttemptEvidence) : MessageState → Prop
  | failed : event.evidence = .sentCallbackFailed → Counted event prior 1 →
      awaitsCallbacks current = true → Moves current event prior .failed
  | lost {count : Int} : event.evidence = .sentCallbackFailed → Counted event prior count →
      count ≠ 1 → awaitsCallbacks current = true → Moves current event prior .unknown
  | complete {count : Int} : event.evidence = .sentCallbackOk → Counted event prior count →
      (prior.sentOk : Int) + 1 = count → awaitsCallbacks current = true →
      Moves current event prior .submitted
  | waiting {count : Int} : event.evidence = .sentCallbackOk → Counted event prior count →
      (prior.sentOk : Int) + 1 ≠ count → awaitsCallbacks current = true →
      Moves current event prior current
  | applied {next : MessageState} : isSentCallback event.evidence = false →
      current.apply event.evidence = .ok next → Moves current event prior next

section Transition

variable {current : MessageState}

theorem apply_sentCallbackFailed_iff : current.apply .sentCallbackFailed = .ok next ↔
      awaitsCallbacks current ∧ next = .failed := by
  cases current <;>
    simp [MessageState.apply, awaitsCallbacks, eq_comm]

theorem apply_sentCallbackOk_iff : current.apply .sentCallbackOk = .ok next ↔
      awaitsCallbacks current ∧ next = .submitted := by
  cases current <;>
    simp [MessageState.apply, awaitsCallbacks, eq_comm]

theorem apply_partialSentCallbacks_iff : current.apply .partialSentCallbacks = .ok next ↔
      current = .submitting ∧ next = .unknown := by
  cases current <;> simp [MessageState.apply, eq_comm]

theorem awaitsCallbacks_iff : awaitsCallbacks current ↔
      current = .submitting ∨ current = .unknown := by
  cases current <;> simp [awaitsCallbacks]

theorem Moves.of_sentCallbackState (isCallback : isSentCallback event.evidence)
    (declared : event.segmentCount = some count)
    (moved : sentCallbackState current event.evidence count prior = .ok next) :
    Moves current event prior next := by
  unfold sentCallbackState segmentState at moved
  by_cases refused : prior.sentOtherCount ≠ 0 ∨ count ≤ prior.sentCallbacks
  · rw [if_pos refused] at moved
    cases moved
  rw [if_neg refused, mapError_eq_ok_iff] at moved
  push Not at refused
  have counted : Counted event prior count := ⟨declared, refused.1, refused.2⟩
  by_cases isFailed : event.evidence = .sentCallbackFailed
  · rw [if_pos isFailed] at moved
    split_ifs at moved with single isUnknown
    · obtain ⟨waits, rfl⟩ := apply_sentCallbackFailed_iff.mp moved
      exact .failed isFailed (single ▸ counted) waits
    · cases moved
      rw [isUnknown]
      exact .lost isFailed counted single rfl
    · obtain ⟨rfl, rfl⟩ := apply_partialSentCallbacks_iff.mp moved
      exact .lost isFailed counted single rfl
  · have isOk : event.evidence = .sentCallbackOk := by
      cases isEvidence : event.evidence <;> simp_all [isSentCallback]
    rw [if_neg isFailed] at moved
    split_ifs at moved with whole awaited
    · obtain ⟨waits, rfl⟩ := apply_sentCallbackOk_iff.mp moved
      exact .complete isOk counted whole waits
    · cases moved
      exact .waiting isOk counted whole (awaitsCallbacks_iff.mpr awaited)

theorem Counted.sentCallbackState_eq (counted : Counted event prior count) :
    sentCallbackState current event.evidence count prior =
      (segmentState current event.evidence count prior).mapError fun _ => .invalidTransition := by
  unfold sentCallbackState
  rw [if_neg]
  push Not
  exact ⟨counted.sameCount, counted.room⟩

theorem Moves.sentCallbackState_eq (isCallback : isSentCallback event.evidence)
    (declared : event.segmentCount = some count) (moves : Moves current event prior next) :
    sentCallbackState current event.evidence count prior = .ok next := by
  have isCount : ∀ {other : Int}, Counted event prior other → other = count :=
    fun counted => Option.some.inj (counted.declared.symm.trans declared)
  cases moves with
  | failed isFailed counted waits =>
    obtain rfl := isCount counted
    rw [counted.sentCallbackState_eq, segmentState, if_pos isFailed, if_pos rfl, mapError_eq_ok_iff]
    exact apply_sentCallbackFailed_iff.mpr ⟨waits, rfl⟩
  | lost isFailed counted several waits =>
    obtain rfl := isCount counted
    rw [counted.sentCallbackState_eq, segmentState, if_pos isFailed, if_neg several,
      mapError_eq_ok_iff]
    rcases awaitsCallbacks_iff.mp waits with rfl | rfl <;> rfl
  | complete isOk counted whole waits =>
    obtain rfl := isCount counted
    rw [counted.sentCallbackState_eq, segmentState, if_neg (by simp [isOk]), if_pos whole,
      mapError_eq_ok_iff]
    exact apply_sentCallbackOk_iff.mpr ⟨waits, rfl⟩
  | waiting isOk counted partly waits =>
    obtain rfl := isCount counted
    rw [counted.sentCallbackState_eq, segmentState, if_neg (by simp [isOk]),
      if_neg partly, if_pos (awaitsCallbacks_iff.mp waits)]
    rfl
  | applied notCallback => simp [isCallback] at notCallback

theorem radioState_eq_ok_iff : radioState current event prior = .ok next ↔
      Guarded event prior ∧ Moves current event prior next := by
  unfold radioState
  split_ifs with conflicted opposed unintended isCallback
  · simp only [false_iff, not_and]
    intro guarded
    simp [guarded.unconflicted conflicted.1] at conflicted
  · simp only [false_iff, not_and]
    intro guarded
    simp [guarded.unopposed opposed.1] at opposed
  · simp only [false_iff, not_and]
    intro guarded
    exact absurd (guarded.intended unintended.1) unintended.2
  all_goals
    have guarded : Guarded event prior := by
      refine ⟨?_, ?_, ?_⟩
      · intro notConflict
        exact Bool.eq_false_iff.mpr fun held => conflicted ⟨notConflict, held⟩
      · intro isProof
        exact Bool.eq_false_iff.mpr fun held => opposed ⟨isProof, held⟩
      · intro needed
        by_contra missing
        exact unintended ⟨needed, missing⟩
    simp only [guarded, true_and]
  · cases declared : event.segmentCount with
    | none =>
      simp only [reduceCtorEq, false_iff]
      intro moves
      cases moves with
      | applied notCallback => simp [isCallback] at notCallback
      | failed _ counted | lost _ counted | complete _ counted
      | waiting _ counted => cases counted.declared.symm.trans declared
    | some count =>
      exact ⟨Moves.of_sentCallbackState isCallback declared,
        Moves.sentCallbackState_eq isCallback declared⟩
  · rw [mapError_eq_ok_iff]
    constructor
    · intro applied
      exact .applied (Bool.eq_false_iff.mpr isCallback) applied
    · intro moves
      cases moves with
      | applied _ applied => exact applied
      | failed isEvidence | lost isEvidence | complete isEvidence
      | waiting isEvidence => simp [isEvidence, isSentCallback] at isCallback

end Transition

end Zrotext.Delivery
