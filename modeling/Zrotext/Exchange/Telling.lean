import Zrotext.Exchange.Writer
import Zrotext.Phone.EvidenceDiscipline
import Zrotext.Phone.Solitude

/-!
# The phone tells a story

Without conflicts, the events that the phone inserts about an attempt that was
started are a story.  Its callbacks are the stored results of the segments, and
the state of the attempt reflects them.
-/

namespace Zrotext.Exchange

open Foundation Phone List Table

/-- Evidence as it is sent to the writer. -/
def sentAs : Phone.Evidence → Domain.Evidence
  | .durableSubmitIntent => .durableSubmitIntent
  | .provenNoSubmit => .provenNoSubmit
  | .callbackConflict => .callbackConflict
  | .sentCallbackOk => .sentCallbackOk
  | .sentCallbackFailed => .sentCallbackFailed
  | .deliveryCallbackOk => .deliveryCallbackOk

@[simp]
theorem isSentCallback_sentAs (evidence : Phone.Evidence) :
    Delivery.isSentCallback (sentAs evidence) = evidence.isSentCallback := by
  cases evidence <;> rfl

/-- The report of an event, in a session of an account and a device. -/
def radioEvent (accountId deviceId : Identifier) (event : AlphaRadioEvent) :
    Delivery.RadioEvent where
  eventId := event.eventId
  accountId
  deviceId
  messageId := event.messageId
  attemptId := event.attemptId
  evidence := sentAs event.evidence
  observedAtMs := event.observedAtMs
  segmentIndex := event.segmentIndex
  segmentCount := event.segmentCount

/-- The reports of some events. -/
def Subject.log (subject : Subject) (events : List AlphaRadioEvent) : List Delivery.RadioEvent :=
  events.map (radioEvent subject.accountId subject.deviceId)

@[simp]
theorem Subject.log_append (subject : Subject) (events added : List AlphaRadioEvent) :
    subject.log (events ++ added) = subject.log events ++ subject.log added :=
  map_append

@[simp]
theorem Subject.log_singleton (subject : Subject) (event : AlphaRadioEvent) : subject.log [event] =
      [radioEvent subject.accountId subject.deviceId event] := rfl

@[simp]
theorem Subject.log_nil (subject : Subject) : subject.log [] = [] := rfl

/-- The segments that were not sent. -/
def failedResults (segments : List SmsSegment) : Nat :=
  segments.countP fun segment => segment.sentResultCode.any (· != resultOk)

section Segments

variable {entry : Entry} {segment : SmsSegment} (holds : Option Int → Bool)

section

variable (distinct : (entry.segments.map (·.segmentIndex)).Nodup)
  (found : entry.segmentOf callback = some segment) (stored : callback.decision segment = .store)

include distinct found stored

/-- One segment has room for a callback that is stored. -/
theorem filter_stored : (entry.segments.filter fun other =>
      other.segmentIndex == callback.index && callback.decision other == .store) = [segment] := by
  obtain ⟨listed, own⟩ := Entry.segmentOf_eq_some found
  have single := filter_key_eq_singleton distinct listed
  rw [own] at single
  simp only [Bool.and_comm (_ == callback.index)]
  rw [← filter_filter, single]
  simp [stored]

theorem countP_store_sent (isSent : callback.delivery = false) (unset : holds none = false) :
    (entry.store callback).segments.countP (fun other => holds other.sentResultCode) =
      entry.segments.countP (fun other => holds other.sentResultCode) +
        if holds (some callback.result) then 1 else 0 := by
  have blank : segment.sentResultCode = none := by
    have isStored : (callback.decision segment == .store) := beq_iff_eq.mpr stored
    rw [callback.decision_sent (by simp [isSent])] at isStored
    exact Option.isNone_iff_eq_none.mp isStored
  have written : (callback.writeTo segment).sentResultCode = some callback.result := by
    simp [Callback.writeTo, isSent]
  have counted := countP_update (fun other => other.segmentIndex == callback.index &&
      callback.decision other == .store)
    (fun other => holds other.sentResultCode) callback.writeTo entry.segments
  rw [filter_stored distinct found stored, countP_singleton,
    countP_singleton, blank, written, unset, if_neg Bool.false_ne_true]
    at counted
  exact counted

end

theorem countP_store_delivery (isDelivery : callback.delivery) :
    (entry.store callback).segments.countP (fun other => holds other.sentResultCode) =
      entry.segments.countP (fun other => holds other.sentResultCode) := by
  have kept : ∀ other : SmsSegment,
      (callback.writeTo other).sentResultCode = other.sentResultCode := by
    intro other
    simp [Callback.writeTo, isDelivery]
  have same : (entry.store callback).segments.map (·.sentResultCode) =
      entry.segments.map (·.sentResultCode) := map_update _ kept _
  have counted := congrArg (countP holds) same
  rwa [countP_map, countP_map] at counted

end Segments

/-- Every segment has a result. -/
def isSettled (segments : List SmsSegment) : Bool := segments.all (·.sentResultCode.isSome)

/-- The state of an attempt that was started reflects the stored results. -/
def Reflects (state : AttemptState) (segments : List SmsSegment) : Prop :=
  match state with
  | .reserved | .notSubmitted => False
  | .radioStarted | .submitting | .unknown => isSettled segments = false
  | .failed => isSettled segments = true ∧ sentCount segments = 0
  | .partialFailure => isSettled segments = true ∧ sentCount segments ≠ 0 ∧
    sentCount segments ≠ segments.length
  | .submitted | .delivered | .deliveryFailed | .deliveryUnknown =>
    sentCount segments = segments.length

section States

variable {state : AttemptState}

theorem Reflects.submitted (reflects : Reflects state segments) :
    state ≠ .notSubmitted ∧ state ≠ .reserved := by
  cases state <;> first
    | exact reflects.elim
    | exact ⟨by decide, by decide⟩

theorem any_isNone_iff : segments.any (·.sentResultCode.isNone) ↔
      isSettled segments = false := by
  simp [isSettled, any_eq_true, all_eq_false]

theorem fromEvidence_reflects (started : state ≠ .notSubmitted) (some : segments ≠ []) :
    Reflects (state.fromEvidence segments) segments := by
  unfold AttemptState.fromEvidence
  rw [if_neg started]
  simp only [some, false_or, any_isNone_iff]
  split_ifs with unsettled _ unsent partly
  · exact unsettled
  · exact unsettled
  · exact ⟨Bool.eq_true_of_not_eq_false unsettled, unsent⟩
  · exact ⟨Bool.eq_true_of_not_eq_false unsettled, unsent, partly⟩
  all_goals exact not_not.mp partly

theorem sentCount_add_failedResults (segments : List SmsSegment) :
    sentCount segments + failedResults segments = segments.countP (·.sentResultCode.isSome) := by
  induction segments with
  | nil => rfl
  | cons segment rest ih =>
    unfold sentCount failedResults at ih ⊢
    rw [countP_cons, countP_cons, countP_cons, ← ih]
    cases segment.sentResultCode with
    | none => simp
    | some result =>
      by_cases isOk : result = resultOk <;>
        · simp [isOk]
          omega

theorem results_of_settled (settled : isSettled segments) :
    sentCount segments + failedResults segments = segments.length := by
  rw [sentCount_add_failedResults, countP_eq_length]
  exact all_eq_true.mp settled

theorem results_of_unsettled (unsettled : isSettled segments = false) :
    sentCount segments + failedResults segments < segments.length := by
  rw [sentCount_add_failedResults]
  refine lt_of_le_of_ne countP_le_length fun whole => ?_
  rw [countP_eq_length] at whole
  cases (all_eq_true.mpr whole).symm.trans unsettled

end States

/-! ## The entry of the attempt -/

/-- An event of the attempt. -/
structure Subject.Keeps (subject : Subject) (originHash : Text)
    (event : AlphaRadioEvent) : Prop where
  message : event.messageId = subject.messageId
  attempt : event.attemptId = subject.attemptId
  account : event.accountId = some subject.accountId
  device : event.deviceId = some subject.deviceId
  origin : event.originHash = some originHash

/-- The log tells the stored results. -/
structure Matches (subject : Subject) (log : List Delivery.RadioEvent)
    (segments : List SmsSegment) : Prop where
  story : Story subject.segmentCount log
  sentOk : okCount log = sentCount segments
  failed : failedCount log = failedResults segments

/-- What the phone keeps about an attempt that was started, when no callback
contradicted another. -/
structure Tells (subject : Subject) (originHash : Text) (entry : Entry) : Prop where
  disciplined : entry.Disciplined
  attempt : entry.attempt.attemptId = subject.attemptId
  message : entry.attempt.messageId = some subject.messageId
  account : entry.attempt.accountId = some subject.accountId
  device : entry.attempt.deviceId = some subject.deviceId
  origin : entry.attempt.originHash = some originHash
  count : entry.attempt.segmentCount = subject.segmentCount
  unconflicted : entry.attempt.evidenceConflict = false
  indices : entry.segments.map (·.segmentIndex) =
    (range subject.segmentCount.toNat).map fun index : Nat => (index : Int)
  reflects : Reflects entry.attempt.state entry.segments
  agrees : Matches subject (subject.log entry.inserted) entry.segments
  delivered : tellsDelivery (subject.log entry.inserted) = (entry.attempt.state == .delivered)
  told : subject.log entry.events = subject.log entry.inserted
  keeps : ∀ event ∈ entry.events, subject.Keeps originHash event

/-- The events that a callback is reported with. -/
def reported (entry : Entry) (callback : Callback) (next : AttemptState)
    (messageId : Identifier) (now : Int) (fresh later : Identifier) : List AlphaRadioEvent :=
  (if callback.delivery = false then
    [entry.sentEvent callback messageId now fresh]
  else []) ++
  (if next = .delivered then
    [entry.attempt.alphaEvent messageId later .deliveryCallbackOk now]
  else [])

section Callbacks

variable {entry : Entry} {next : AttemptState} {segment : SmsSegment}

theorem report_eq (named : entry.attempt.messageId = some messageId)
    (unconflicted : entry.attempt.evidenceConflict = false)
    (undelivered : entry.attempt.state ≠ .delivered) : entry.report callback next now fresh later =
      { entry with
        events := entry.events ++
          reported entry callback next messageId now fresh later
        inserted := entry.inserted ++
          reported entry callback next messageId now fresh later } := by
  have sameAttempt := entry.reportSent_attempt callback messageId now fresh
  simp only [Entry.report, named, Entry.reportDelivered, sameAttempt, reported]
  by_cases isSent : callback.delivery = false <;>
    by_cases isDelivered : next = .delivered <;>
      simp [Entry.reportSent, Entry.insert, unconflicted, undelivered, isSent, isDelivered]

theorem forall_mem_reported {holds : AlphaRadioEvent → Prop}
    (sent : holds (entry.sentEvent callback messageId now fresh))
    (delivered : holds (entry.attempt.alphaEvent messageId later .deliveryCallbackOk now)) :
    ∀ event ∈ reported entry callback next messageId now fresh later, holds event := by
  refine forall_mem_append.mpr ⟨?_, ?_⟩ <;> split_ifs
  · exact forall_mem_singleton.mpr sent
  · exact forall_mem_nil _
  · exact forall_mem_singleton.mpr delivered
  · exact forall_mem_nil _

section

variable (tells : Tells subject originHash entry)

include tells

theorem Tells.length : (entry.segments.length : Int) = subject.segmentCount := by
  have few := subject.few
  have sized := congrArg List.length tells.indices
  rw [length_map, length_map, length_range] at sized
  omega

theorem Tells.stored_ne_nil : (entry.store callback).segments ≠ [] := by
  have few := subject.few
  have length := tells.length
  refine ne_nil_of_length_pos ?_
  rw [Entry.length_store]
  omega

theorem Tells.found (inRange : entry.InRange callback) :
    ∃ segment, entry.segmentOf callback = some segment := by
  have listed : callback.index ∈ entry.segments.map (·.segmentIndex) := by
    obtain ⟨lower, upper⟩ := inRange
    rw [tells.count] at upper
    rw [tells.indices]
    exact mem_map.mpr ⟨callback.index.toNat, mem_range.mpr (by omega), by omega⟩
  obtain ⟨segment, present, isIndex⟩ := mem_map.mp listed
  rw [← Option.isSome_iff_exists]
  unfold Entry.segmentOf
  rw [find?_isSome]
  exact ⟨segment, present, beq_iff_eq.mpr isIndex⟩

section

variable (found : entry.segmentOf callback = some segment)
  (stored : callback.decision segment = .store)

include found stored

theorem Tells.untold : tellsDelivery (subject.log entry.inserted) = false := by
  rw [tells.delivered, beq_eq_false_iff_ne]
  exact tells.disciplined.undelivered found stored

variable (inRange : entry.InRange callback)

include inRange

theorem Tells.follows_sent (isSent : callback.delivery = false) :
    Follows subject.segmentCount (subject.log entry.inserted)
      (radioEvent subject.accountId subject.deviceId
        (entry.sentEvent callback subject.messageId now fresh)) := by
  obtain ⟨lower, upper⟩ := inRange
  have recorded := tells.disciplined.toRecorded
  refine @Follows.sent _ _ _ callback.index ?_ rfl ?_ lower ?_ ?_ (tells.untold found stored)
  · exact (isSentCallback_sentAs _).trans callback.sentEvidence_isSentCallback
  · exact congrArg some tells.count
  · rw [← tells.count]
    exact upper
  · intro other listed wasSent sameIndex
    obtain ⟨event, inserted, rfl⟩ := mem_map.mp listed
    refine recorded.unanswered found stored isSent ?_
    rw [← show event.segmentIndex = some callback.index from sameIndex]
    refine recorded.sentAnswered event inserted ?_
    rw [← isSentCallback_sentAs]
    exact wasSent

theorem Tells.sent (now : Int) (fresh : Identifier) :
    let log := subject.log entry.inserted ++ subject.log (if callback.delivery = false then
        [(entry.store callback).sentEvent callback subject.messageId now fresh] else [])
    Matches subject log (entry.store callback).segments ∧ tellsDelivery log = false := by
  have distinct := tells.disciplined.distinct
  have untold := tells.untold found stored
  dsimp only
  split_ifs with isSent
  · have evidence : sentAs callback.sentEvidence =
        if callback.result = resultOk then .sentCallbackOk
        else .sentCallbackFailed := by
      unfold Callback.sentEvidence
      split_ifs <;> rfl
    refine ⟨⟨tells.agrees.story.more (tells.follows_sent found stored inRange isSent), ?_, ?_⟩, ?_⟩
    · rw [Subject.log_singleton, okCount_concat, tells.agrees.sentOk]
      unfold sentCount
      rw [countP_store_sent (· == some resultOk) distinct found stored isSent
        rfl]
      change _ + (if sentAs callback.sentEvidence = _ then 1 else 0) = _
      rw [evidence]
      by_cases isOk : callback.result = resultOk <;> simp [isOk]
    · rw [Subject.log_singleton, failedCount_concat, tells.agrees.failed]
      unfold failedResults
      rw [countP_store_sent (·.any (· != resultOk)) distinct found stored isSent rfl]
      change _ + (if sentAs callback.sentEvidence = _ then 1 else 0) = _
      rw [evidence]
      by_cases isOk : callback.result = resultOk <;> simp [isOk]
    · rw [Subject.log_singleton, tellsDelivery_concat, untold, Bool.false_or, beq_eq_false_iff_ne]
      change sentAs callback.sentEvidence ≠ _
      rw [evidence]
      split_ifs <;> decide
  · have isDelivery : callback.delivery := by simpa using isSent
    rw [Subject.log_nil, append_nil]
    refine ⟨⟨tells.agrees.story, ?_, ?_⟩, untold⟩
    · rw [tells.agrees.sentOk]
      exact (countP_store_delivery (· == some resultOk) isDelivery).symm
    · rw [tells.agrees.failed]
      exact (countP_store_delivery (·.any (· != resultOk)) isDelivery).symm

theorem Tells.reported
    (isNext : next = entry.attempt.state.fromEvidence (entry.store callback).segments) :
    let log := subject.log (entry.inserted ++
      reported (entry.store callback) callback next subject.messageId now fresh later)
    Matches subject log (entry.store callback).segments ∧
      tellsDelivery log = (next == .delivered) := by
  obtain ⟨agrees, stillUntold⟩ := tells.sent found stored inRange now fresh
  dsimp only
  unfold Exchange.reported
  rw [← append_assoc, Subject.log_append, Subject.log_append]
  by_cases isDelivered : next = .delivered
  · rw [if_pos isDelivered, Subject.log_singleton, tellsDelivery_concat, isDelivered]
    refine ⟨⟨agrees.story.more (.delivery rfl rfl rfl ?_ stillUntold), ?_, ?_⟩, ?_⟩
    · have reflects : Reflects .delivered (entry.store callback).segments := by
        rw [← isDelivered, isNext]
        exact fromEvidence_reflects tells.reflects.submitted.1 tells.stored_ne_nil
      rw [agrees.sentOk, show sentCount _ = _ from reflects, Entry.length_store, tells.length]
    · rw [okCount_concat, agrees.sentOk]
      rfl
    · rw [failedCount_concat, agrees.failed]
      rfl
    · exact Bool.or_true _
  · rw [if_neg isDelivered, Subject.log_nil, append_nil, stillUntold]
    exact ⟨agrees, (beq_eq_false_iff_ne.mpr isDelivered).symm⟩

end

/-- Without a conflict, the phone goes on telling the story. -/
theorem Tells.recordCallback (compatible : ∀ segment, entry.segmentOf callback = some segment →
      callback.decision segment ≠ .conflict) :
    Tells subject originHash (entry.recordCallback callback now fresh later) ∧
      ∃ added, (entry.recordCallback callback now fresh later).events = entry.events ++ added ∧
        ∀ event ∈ added, event.isOpen ∧ (event.eventId = fresh ∨ event.eventId = later) ∧
          event.evidence ≠ .durableSubmitIntent := by
  have disciplined : (entry.recordCallback callback now fresh
      later).Disciplined := tells.disciplined.recordCallback
  have isSubmitted : entry.attempt.isUnsubmitted = false := by
    obtain ⟨notAbandoned, notReserved⟩ := tells.reflects.submitted
    simp [SmsAttempt.isUnsubmitted, notAbandoned, notReserved]
  have recording := entry.recordCallback_recording callback now fresh later
  generalize entry.recordCallback callback now fresh later = after
    at recording disciplined ⊢
  cases recording with
  | ignored =>
    refine ⟨tells, [], (append_nil _).symm, ?_⟩
    rintro _ ⟨⟩
  | contradicted inRange contradicts =>
    obtain ⟨segment, found⟩ := tells.found inRange
    rcases contradicts segment found with conflict | ⟨_, unsubmitted⟩
    · exact absurd conflict (compatible segment found)
    · cases isSubmitted.symm.trans unsubmitted
  | refused _ _ refused =>
    rcases refused with unsubmitted | wrongLength
    · cases isSubmitted.symm.trans unsubmitted
    · exact absurd (tells.length.trans tells.count.symm) wrongLength
  | @reported segment inRange found stored _ =>
    have isNext : entry.attempt.nextState (entry.store callback).segments =
        entry.attempt.state.fromEvidence (entry.store callback).segments := by
      unfold SmsAttempt.nextState
      rw [tells.unconflicted, if_neg Bool.false_ne_true]
    have isReport : (entry.store callback).report callback
        (entry.attempt.nextState (entry.store callback).segments) now fresh later = _ :=
      report_eq tells.message tells.unconflicted (tells.disciplined.undelivered found stored)
    obtain ⟨agrees, delivered⟩ := tells.reported found stored inRange isNext
    rw [isReport] at disciplined ⊢
    refine ⟨⟨disciplined, tells.attempt, tells.message, tells.account,
      tells.device, tells.origin, tells.count, tells.unconflicted, ?_, ?_,
      agrees, delivered, ?_, ?_⟩, _, rfl, forall_mem_reported
        ⟨rfl, .inl rfl, callback.sentEvidence_ne rfl⟩ ⟨rfl, .inr rfl, by rintro ⟨⟩⟩⟩
    · refine (map_update SmsSegment.segmentIndex ?_ _).trans tells.indices
      exact callback.writeTo_segmentIndex
    · rw [isNext]
      exact fromEvidence_reflects tells.reflects.submitted.1 tells.stored_ne_nil
    · change subject.log (entry.events ++ _) = subject.log (entry.inserted ++ _)
      rw [Subject.log_append, Subject.log_append, tells.told]
    · refine forall_mem_append.mpr ⟨tells.keeps, forall_mem_reported ?_ ?_⟩
      all_goals exact ⟨rfl, tells.attempt, tells.account, tells.device, tells.origin⟩

end

end Callbacks

/-- The attempt moves between states that reflect the same results. -/
theorem Tells.moveTo (tells : Tells subject originHash entry)
    (moving : Entry.isMoving entry.attempt.state) (reflects : Reflects state entry.segments)
    (undelivered : state ≠ .delivered) (now : Int) :
    Tells subject originHash (entry.moveTo state now) := by
  refine { tells with
    disciplined := tells.disciplined.moveTo moving undelivered, reflects := reflects
    delivered := ?_ }
  have wasUndelivered : entry.attempt.state ≠ .delivered := by
    intro isDelivered
    rw [isDelivered] at moving
    cases moving
  have untold := tells.delivered
  rw [beq_eq_false_iff_ne.mpr wasUndelivered] at untold
  exact untold.trans (beq_eq_false_iff_ne.mpr undelivered).symm

theorem keeps_acknowledge {subject : Subject} {entry : Entry} (keeps : ∀ event ∈ entry.events,
    subject.Keeps originHash event) (eventId : Identifier) (now : Int) :
    ∀ event ∈ (entry.acknowledge eventId now).events, subject.Keeps originHash event := by
  intro event listed
  rcases mem_update_iff.mp listed with ⟨old, _⟩ | ⟨old, present, _, rfl⟩
  · exact keeps event old
  · have own := keeps old present
    exact ⟨own.message, own.attempt, own.account, own.device, own.origin⟩

theorem Tells.acknowledge (tells : Tells subject originHash entry) (eventId : Identifier)
    (now : Int) : Tells subject originHash (entry.acknowledge eventId now) := by
  refine { tells with
    disciplined := tells.disciplined.acknowledge eventId, told := ?_
    keeps := keeps_acknowledge tells.keeps eventId now }
  refine Eq.trans ?_ tells.told
  exact map_update (radioEvent subject.accountId subject.deviceId)
    (by intro event; rfl) entry.events

/-- The attempt as both sides know it. -/
def subjectOf (identity : EvidenceIdentity) (messageId attemptId : Identifier)
    (segmentCount : Int) (few : 1 ≤ segmentCount ∧ segmentCount ≤ 6) : Subject :=
  { accountId := identity.accountId, deviceId := identity.deviceId
    messageId, attemptId, segmentCount, few }

theorem blankSegments_results (holds : Option Int → Bool) (unset : holds none = false) :
    (blankSegments attemptId segmentCount).countP
      (fun segment => holds segment.sentResultCode) = 0 := by
  rw [countP_eq_zero]
  intro segment present
  obtain ⟨_, -, rfl⟩ := mem_map.mp present
  simp [unset]

theorem blankSegments_unsettled (few : 1 ≤ segmentCount ∧ segmentCount ≤ 6) :
    isSettled (blankSegments attemptId segmentCount) = false := by
  unfold isSettled blankSegments
  rw [all_eq_false]
  exact ⟨_, mem_map.mpr ⟨0, mem_range.mpr (by omega), rfl⟩, by simp⟩

theorem Tells.begin (few : 1 ≤ segmentCount ∧ segmentCount ≤ 6) (acknowledgedAt startedAt : Int) :
    Tells (subjectOf identity messageId attemptId segmentCount few) identity.originHash
      ((((Journal.reservedEntry attemptId messageId subscriptionId segmentCount
        intentEventId now identity).acknowledge intentEventId
          acknowledgedAt).moveTo .submitting acknowledgedAt).moveTo .radioStarted startedAt) := by
  have isNew : (Journal.reservedEntry attemptId messageId subscriptionId
      segmentCount intentEventId now identity).IsNew :=
    Journal.reservedEntry_isNew few
  refine ⟨?_, rfl, rfl, rfl, rfl, rfl, rfl, rfl, ?_,
    blankSegments_unsettled few, ⟨.intent rfl, ?_, ?_⟩, rfl, ?_, ?_⟩
  · exact ((isNew.disciplined.acknowledge intentEventId).moveTo rfl (by decide)).moveTo
      rfl (by decide)
  · exact map_map
  · exact (blankSegments_results (· == some resultOk) rfl).symm
  · exact (blankSegments_results (·.any (· != resultOk)) rfl).symm
  · exact map_update (radioEvent identity.accountId identity.deviceId) (by intro event; rfl) _
  · exact keeps_acknowledge (forall_mem_singleton.mpr ⟨rfl, rfl, rfl, rfl, rfl⟩) _ _

end Zrotext.Exchange
