import Zrotext.Delivery.Effect

/-!
# The record of a message

What the tables say about one message, as a state machine of its own.  In a
coherent record the job, the fence, the attempts and the state of the message
agree with each other.
-/

namespace Zrotext.Delivery

open Domain Foundation List Table

/-- Everything that the tables say about one message. -/
structure Record where
  message : Message
  job : DispatchJob
  fence : Option DispatchFence
  attempts : List MessageAttempt
  events : List MessageEvent
  ledger : List LedgerEntry

namespace Record

/-- What the recorded evidence of an attempt says. -/
def evidence (record : Record) (attemptId : Uuid)
    (segmentCount : Option Int) : PriorAttemptEvidence :=
  evidenceOf (record.events.filter (·.attemptId == attemptId)) segmentCount

/-- A report that the record admits. -/
structure Reports (deployment : Deployment) (record : Record) (event : RadioEvent)
    (code : EvidenceCode) (next : MessageState) (fence : DispatchFence) : Prop where
  isCode : evidenceCode event.evidence = some code
  wellFormed : malformedRadioEvent event = false
  fenced : record.fence = some fence
  holder : fence.attemptId = event.attemptId
  transition : radioState record.message.state event
    (record.evidence event.attemptId event.segmentCount) = .ok next
  free : ∀ index ∈ eventIndexes, ∀ other ∈ record.events,
    index.clashes (eventRow deployment event code next) other = false

/-- The record after a report that the message follows. -/
def follow (record : Record) (deployment : Deployment) (clock : Clock) (event : RadioEvent)
    (code : EvidenceCode) (next : MessageState) (fence : DispatchFence) (status : AttemptStatus) :
    Record :=
  { record with
    message := record.message.moveTo next clock.now
    events := record.events ++ [eventRow deployment event code next]
    attempts := update (·.id == event.attemptId)
      (MessageAttempt.become status clock.now) record.attempts
    fence := some (fence.record status) }

/-- How the record of a message changes. -/
inductive Step (deployment : Deployment) (record : Record) : Record → Prop
  | reserve {entry : LedgerEntry} : entry.entryKind = .reserve →
      entry.accountId = record.message.accountId → record.message.state = .queued →
      (∀ other ∈ record.ledger, other.entryKind ≠ .reserve) →
      Step deployment record { record with ledger := record.ledger ++ [entry] }
  | claim {clock : Clock} {workerId : Text} : record.job.grantIssuedAt = none →
      isPending record.message.state = true → Step deployment record
        { record with
          message := record.message.moveTo .claimed clock.now
          job := record.job.lease workerId (clock.now + seconds 30) }
  | close {state : MessageState} {messageAt jobAt : Time} : state = .cancelled ∨ state = .expired →
      record.job.grantIssuedAt = none → isPending record.message.state = true →
      Step deployment record
        { record with
          message := record.message.moveTo state messageAt, job := record.job.finish jobAt
          ledger := record.ledger ++
            pendingRefunds (fun _ => true) record.ledger }
  | grant {clock : Clock} {attempt : MessageAttempt} {fence : DispatchFence} :
      record.job.grantIssuedAt = none → record.message.state = .claimed →
      fence.accountId = record.message.accountId → fence.deviceId = record.message.deviceId →
      fence.attemptId = attempt.id → fence.outcome = .granted → attempt.status = .granted →
      (∀ other ∈ record.attempts, other.id ≠ attempt.id) → Step deployment record
        { record with
          attempts := record.attempts ++ [attempt], fence := some fence
          job := record.job.grant clock.now }
  | release {clock : Clock} {event : RadioEvent} {code : EvidenceCode}
      {next : MessageState} {fence : DispatchFence} :
      record.Reports deployment event code next fence → event.evidence = .provenNoSubmit →
      Step deployment record
        { record with
          message := record.message.moveTo next clock.now
          events := record.events ++ [eventRow deployment event code next]
          attempts := update (·.id == event.attemptId)
            (MessageAttempt.become .provedNoSubmit clock.now) record.attempts
          fence := none, job := record.job.requeue clock.now }
  | follow {clock : Clock} {event : RadioEvent} {code : EvidenceCode}
      {next : MessageState} {fence : DispatchFence} {status : AttemptStatus} :
      record.Reports deployment event code next fence → event.evidence ≠ .provenNoSubmit →
      attemptStatus next = some status →
      Step deployment record (record.follow deployment clock event code next fence status)
  | silence {clock : Clock} {fence : DispatchFence} {attempt : MessageAttempt} {id : Uuid} :
      record.fence = some fence → attempt ∈ record.attempts → attempt.id = fence.attemptId →
      isSilent clock ⟨record.message, fence, attempt⟩ = true → Step deployment record
        { record with
          message := record.message.moveTo .unknown clock.now, events := record.events ++
            [sweepEvent deployment clock
              (silenceCode ⟨record.message, fence, attempt⟩) .unknown
              ⟨record.message, fence, attempt⟩ id]
          attempts := update (·.id == attempt.id)
            (MessageAttempt.become .unknown clock.now) record.attempts
          fence := some (fence.record .unknown) }
  | timeOut {clock : Clock} {fence : DispatchFence} {attempt : MessageAttempt} {id : Uuid} :
      record.fence = some fence → attempt ∈ record.attempts → attempt.id = fence.attemptId →
      lacksReceipt clock ⟨record.message, fence, attempt⟩ = true → Step deployment record
        { record with
          message := record.message.moveTo .deliveryUnknown clock.now, events := record.events ++
            [sweepEvent deployment clock .deliveryTimeout .deliveryUnknown
              ⟨record.message, fence, attempt⟩ id] }

/-- The outcome of the fence of a message in a state. -/
def fencedOutcome : MessageState → Option AttemptStatus
  | .claimed => some .granted
  | state => attemptStatus state

/-- The states of messages without a fence. -/
def isUnfenced : MessageState → Bool
  | .queued | .claimed | .cancelled | .expired => true
  | _ => false

theorem fencedOutcome_of_attemptStatus (isStatus : attemptStatus state = some status) :
    fencedOutcome state = some status := by
  cases state <;> simp_all [fencedOutcome, attemptStatus]

/-- Job, fence, attempts and message agree. -/
structure Coherent (record : Record) : Prop where
  jobOwner : record.job.accountId = record.message.accountId
  jobDevice : record.job.deviceId = record.message.deviceId
  mode : record.message.transportMode = .syntheticAlpha
  content : record.message.recipientE164 ≠ none
  granted : record.fence.isSome = record.job.grantIssuedAt.isSome
  unfenced : record.fence = none → isUnfenced record.message.state = true
  fenced : ∀ fence, record.fence = some fence →
    fencedOutcome record.message.state = some fence.outcome
  fenceOwner : ∀ fence, record.fence = some fence → fence.accountId = record.message.accountId ∧
      fence.deviceId = record.message.deviceId
  holder : ∀ fence, record.fence = some fence →
    ∃ attempt ∈ record.attempts, attempt.id = fence.attemptId
  holderStatus : ∀ fence, record.fence = some fence →
    ∀ attempt ∈ record.attempts, attempt.id = fence.attemptId → attempt.status = fence.outcome
  retired : ∀ attempt ∈ record.attempts,
    (∀ fence, record.fence = some fence → fence.attemptId ≠ attempt.id) →
      attempt.status = .provedNoSubmit
  eventAttempt : ∀ event ∈ record.events, ∃ attempt ∈ record.attempts, attempt.id = event.attemptId
  ledgerOwner : ∀ entry ∈ record.ledger, entry.accountId = record.message.accountId

theorem mem_becoming {attempts : List MessageAttempt} {id : Uuid}
    (present : attempt ∈ update (·.id == id)
      (MessageAttempt.become status time) attempts) :
    (attempt ∈ attempts ∧ attempt.id ≠ id) ∨ (attempt.id = id ∧ attempt.status = status) := by
  rcases mem_update_iff.mp present with
    ⟨kept, unselected⟩ | ⟨old, _, selected, rfl⟩
  · exact .inl ⟨kept, by simpa using unselected⟩
  · exact .inr ⟨by simpa [MessageAttempt.become] using selected, rfl⟩

theorem exists_becoming {attempts : List MessageAttempt} {id : Uuid}
    (isListed : ∃ attempt ∈ attempts, attempt.id = value) :
    ∃ attempt ∈ update (·.id == id)
      (MessageAttempt.become status time) attempts, attempt.id = value := by
  have keeps : ∀ attempt : MessageAttempt,
      (attempt.become status time).id = attempt.id := fun _ => rfl
  exact (exists_update_iff keeps).mpr isListed

namespace Coherent

variable {record : Record}

variable (coherent : record.Coherent)

include coherent

theorem fence_eq_none (ungranted : record.job.grantIssuedAt = none) : record.fence = none := by
  have granted := coherent.granted
  rw [ungranted] at granted
  exact Option.isNone_iff_eq_none.mp (by simpa using granted)

/-- A new event is of the attempt that holds the fence. -/
theorem eventAttempt_concat {fence : DispatchFence} {id : Uuid}
    (fenced : record.fence = some fence) {event : MessageEvent}
    (isHolder : fence.attemptId = event.attemptId) : ∀ other ∈ record.events ++ [event],
      ∃ attempt ∈ update (·.id == id) (MessageAttempt.become status time) record.attempts,
        attempt.id = other.attemptId := by
  intro other present
  refine exists_becoming (forall_mem_concat coherent.eventAttempt ?_ other present)
  rw [← isHolder]
  exact coherent.holder fence fenced

/-- A message without a grant moves between the states that have none. -/
theorem move (ungranted : record.job.grantIssuedAt = none)
    (state : MessageState) (isState : isUnfenced state) (time : Time) (job : DispatchJob)
    (jobOwner : job.accountId = record.job.accountId)
    (jobDevice : job.deviceId = record.job.deviceId)
    (jobUngranted : job.grantIssuedAt = record.job.grantIssuedAt) {ledger : List LedgerEntry}
    (ledgerOwner : ∀ entry ∈ ledger, entry.accountId = record.message.accountId) : Coherent
      { record with message := record.message.moveTo state time, job, ledger } :=
  { coherent with
    jobOwner := jobOwner.trans coherent.jobOwner
    jobDevice := jobDevice.trans coherent.jobDevice
    granted := by rw [jobUngranted]; exact coherent.granted
    unfenced := fun _ => isState
    fenced := by
      intro fence isFence
      rw [coherent.fence_eq_none ungranted] at isFence
      cases isFence
    ledgerOwner }

/-- Message, attempt and fence advance together. -/
theorem advance {fence : DispatchFence} (fenced : record.fence = some fence) {state : MessageState}
    (isStatus : attemptStatus state = some status) {attemptAt : Time} {id : Uuid}
    (isHolder : fence.attemptId = id) {event : MessageEvent} (isEvent : event.attemptId = id) :
    Coherent
        { record with
        message := record.message.moveTo state messageAt, events := record.events ++ [event]
        attempts := update (·.id == id)
          (MessageAttempt.become status attemptAt) record.attempts
        fence := some (fence.record status) } := by
  refine { coherent with
    granted := ?_, unfenced := nofun, fenced := ?_, fenceOwner := ?_, holder := ?_
    holderStatus := ?_, retired := ?_
    eventAttempt := coherent.eventAttempt_concat fenced (isHolder.trans isEvent.symm) }
  · rw [← coherent.granted, fenced]
    rfl
  · rintro _ ⟨⟩
    exact fencedOutcome_of_attemptStatus isStatus
  · rintro _ ⟨⟩
    exact coherent.fenceOwner fence fenced
  · rintro _ ⟨⟩
    exact exists_becoming (coherent.holder fence fenced)
  · rintro _ ⟨⟩ attempt present isAttempt
    rcases mem_becoming present with ⟨_, different⟩ | ⟨_, became⟩
    · exact absurd (isAttempt.trans isHolder) different
    · exact became
  · intro attempt present unheld
    rcases mem_becoming present with ⟨kept, _⟩ | ⟨isAttempt, _⟩
    · refine coherent.retired attempt kept ?_
      intro other isFence
      rw [fenced] at isFence
      cases isFence
      exact unheld (fence.record status) rfl
    · exact absurd (isHolder.trans isAttempt.symm) (unheld (fence.record status) rfl)

end Coherent

/-- A no-submit proof puts the message back into the queue. -/
theorem radioState_provenNoSubmit {next : MessageState} {event : RadioEvent}
    (isProof : event.evidence = .provenNoSubmit)
    (transition : radioState current event prior = .ok next) :
    next = .queued ∧ prior.contrary = false := by
  obtain ⟨guarded, moves⟩ := radioState_eq_ok_iff.mp transition
  refine ⟨?_, guarded.unopposed isProof⟩
  cases moves with
  | failed isEvidence | lost isEvidence | complete isEvidence
  | waiting isEvidence => simp [isProof] at isEvidence
  | applied _ applied =>
    rw [isProof] at applied
    cases current <;> cases applied <;> rfl

namespace Step

theorem coherent {next : Record} (step : Step deployment record next) (before : record.Coherent) :
    next.Coherent := by
  cases step with
  | reserve isReserve owner queued free =>
    refine { before with ledgerOwner := ?_ }
    exact forall_mem_concat before.ledgerOwner owner
  | claim ungranted pending =>
    exact before.move ungranted _ rfl _ (record.job.lease _ _) rfl rfl rfl before.ledgerOwner
  | close isEnd ungranted pending =>
    refine before.move ungranted _ ?_ _ (record.job.finish _) rfl rfl rfl ?_
    · rcases isEnd with rfl | rfl <;> rfl
    · refine forall_mem_append.mpr ⟨before.ledgerOwner, forall_mem_map.mpr ?_⟩
      exact fun reserve listed => before.ledgerOwner reserve (mem_of_mem_filter listed)
  | @grant clock attempt fence ungranted claimed owner device holder outcome status free =>
    refine { before with
      granted := rfl, unfenced := ?_, fenced := ?_, fenceOwner := ?_
      holder := ?_, holderStatus := ?_, retired := ?_, eventAttempt := ?_ }
    · intro isNone
      cases isNone
    · rintro _ ⟨⟩
      rw [claimed, outcome]
      rfl
    · rintro _ ⟨⟩
      exact ⟨owner, device⟩
    · rintro _ ⟨⟩
      exact ⟨attempt, by simp, holder.symm⟩
    · rintro _ ⟨⟩
      refine forall_mem_concat ?_ fun _ => status.trans outcome.symm
      exact fun other old isHolder => absurd (isHolder.trans holder) (free other old)
    · refine forall_mem_concat ?_ fun unheld => absurd holder (unheld _ rfl)
      refine fun other old _ => before.retired other old ?_
      intro prior isPrior
      rw [before.fence_eq_none ungranted] at isPrior
      cases isPrior
    · intro event present
      obtain ⟨prior, listed, isPrior⟩ := before.eventAttempt event present
      exact ⟨prior, mem_append_left _ listed, isPrior⟩
  | @release clock event code state fence reports isProof =>
    refine { before with
      granted := rfl, unfenced := ?_, fenced := ?_, fenceOwner := ?_
      holder := ?_, holderStatus := ?_, retired := ?_, eventAttempt := ?_ }
    · intro _
      rw [(radioState_provenNoSubmit isProof reports.transition).1]
      rfl
    · rintro _ ⟨⟩
    · rintro _ ⟨⟩
    · rintro _ ⟨⟩
    · rintro _ ⟨⟩
    · intro attempt present _
      rcases mem_becoming present with ⟨kept, different⟩ | ⟨_, became⟩
      · refine before.retired attempt kept ?_
        intro prior isPrior isHolder
        rw [reports.fenced] at isPrior
        cases isPrior
        exact different (isHolder.symm.trans reports.holder)
      · exact became
    · exact before.eventAttempt_concat reports.fenced reports.holder
  | follow reports notProof isStatus =>
    exact before.advance reports.fenced isStatus reports.holder rfl
  | silence fenced present isHolder silent =>
    exact before.advance fenced rfl isHolder.symm rfl
  | @timeOut clock fence attempt id fenced present isHolder lacks =>
    have submitted : record.message.state = .submitted ∧ fence.outcome = .submitted := by
      simp only [lacksReceipt, Bool.and_eq_true, beq_iff_eq] at lacks
      exact ⟨lacks.1.1.1.1, lacks.1.1.1.2⟩
    refine { before with unfenced := ?_, fenced := ?_, eventAttempt := ?_ }
    · intro isNone
      rw [fenced] at isNone
      cases isNone
    · intro other isFence
      rw [fenced] at isFence
      cases isFence
      rw [submitted.2]
      rfl
    · refine forall_mem_concat before.eventAttempt ?_
      exact ⟨attempt, present, rfl⟩

end Step
end Record
end Zrotext.Delivery
