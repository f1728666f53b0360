import Zrotext.Phone.Evolution

/-!
# The discipline of evidence

Each kind of evidence is inserted at most once for an attempt, and each segment
has at most one sent callback.  A conflict ends the story of an attempt, and a
proof that nothing was sent never waits beside the result of a callback.
-/

namespace Zrotext.Phone

open Foundation List Table

/-- The evidence is about the sending of a segment. -/
def Evidence.isSentCallback : Evidence → Bool
  | .sentCallbackOk | .sentCallbackFailed => true
  | _ => false

theorem Callback.sentEvidence_isSentCallback (callback : Callback) :
    callback.sentEvidence.isSentCallback := by
  unfold sentEvidence
  split_ifs <;> rfl

theorem Callback.sentEvidence_ne (callback : Callback) (unsent : evidence.isSentCallback = false) :
    callback.sentEvidence ≠ evidence := by
  rintro rfl
  cases callback.sentEvidence_isSentCallback.symm.trans unsent

namespace Entry

/-- The segment was reported to be sent, or not. -/
def Answered (entry : Entry) (index : Option Int) : Prop :=
  ∃ segment ∈ entry.segments, index = some segment.segmentIndex ∧
    segment.sentResultCode.isSome = true

/-- What the inserted events say about an attempt. -/
structure Recorded (entry : Entry) : Prop where
  named : entry.attempt.messageId.isSome = true
  distinct : (entry.segments.map (·.segmentIndex)).Nodup
  oneOfKind : ∀ evidence : Evidence, evidence.isSentCallback = false →
    entry.inserted.countP (·.evidence == evidence) ≤ 1
  onePerSegment : ∀ index : Option Int, entry.inserted.countP (fun event =>
      event.evidence.isSentCallback && event.segmentIndex == index) ≤ 1
  proofKept : ∀ event ∈ entry.inserted, event.evidence = .provenNoSubmit →
    (∃ kept ∈ entry.events, kept.evidence = .provenNoSubmit) ∨ entry.attempt.evidenceConflict = true
  conflictMarked : ∀ event ∈ entry.inserted, event.evidence = .callbackConflict →
      entry.attempt.evidenceConflict = true
  deliveryMarked : ∀ event ∈ entry.inserted, event.evidence = .deliveryCallbackOk →
      entry.attempt.state = .delivered ∨ entry.attempt.evidenceConflict = true
  sentAnswered : ∀ event ∈ entry.inserted,
    event.evidence.isSentCallback = true → entry.Answered event.segmentIndex
  conflictUnknown : entry.attempt.evidenceConflict = true → entry.attempt.state = .unknown

/-- The discipline of evidence for one attempt. -/
structure Disciplined (entry : Entry) : Prop extends Recorded entry where
  proofAlone : ∀ event ∈ entry.events, event.isPendingProof = true →
    entry.attempt.state = .notSubmitted ∧ entry.attempt.evidenceConflict = false ∧
      ∀ segment ∈ entry.segments, segment.isBlank = true
  deliveredSettled : entry.attempt.state = .delivered →
    ∀ segment ∈ entry.segments, segment.sentResultCode.isSome = true ∧
      segment.deliveryStatus = some DeliveryStatus.received

section Recorded

variable {entry : Entry}

/-- An event that may be inserted. -/
structure Admits (entry : Entry) (event : AlphaRadioEvent) : Prop where
  newKind : event.evidence.isSentCallback = false →
    ∀ other ∈ entry.inserted, other.evidence ≠ event.evidence
  newSegment : event.evidence.isSentCallback = true →
    (∀ other ∈ entry.inserted, other.evidence.isSentCallback = true →
      other.segmentIndex ≠ event.segmentIndex) ∧
    entry.Answered event.segmentIndex
  conflictMarked : event.evidence = .callbackConflict → entry.attempt.evidenceConflict = true
  deliveryMarked : event.evidence = .deliveryCallbackOk →
    entry.attempt.state = .delivered ∨ entry.attempt.evidenceConflict = true

theorem countP_concat_le_one {events : List AlphaRadioEvent} (atMost : events.countP holds ≤ 1)
    (first : holds event → ∀ other ∈ events, holds other = false) :
    (events ++ [event]).countP holds ≤ 1 := by
  rw [countP_append, countP_singleton]
  cases counted : holds event with
  | false => simpa using atMost
  | true =>
    have none : events.countP holds = 0 := countP_eq_zero.mpr fun other present => by
        simp [first counted other present]
    simp [none]

theorem Recorded.insert (recorded : entry.Recorded)
    (admits : entry.Admits event) : (entry.insert event).Recorded where
  named := recorded.named
  distinct := recorded.distinct
  oneOfKind := by
    intro evidence unsent
    refine countP_concat_le_one (recorded.oneOfKind evidence unsent) ?_
    intro isKind other present
    rw [beq_iff_eq] at isKind
    rw [beq_eq_false_iff_ne, ← isKind]
    exact admits.newKind (isKind ▸ unsent) other present
  onePerSegment := by
    intro index
    refine countP_concat_le_one (recorded.onePerSegment index) ?_
    intro isSegment other present
    rw [Bool.and_eq_true, beq_iff_eq] at isSegment
    refine Bool.eq_false_iff.mpr fun isOther => ?_
    rw [Bool.and_eq_true, beq_iff_eq] at isOther
    exact (admits.newSegment isSegment.1).1 other present isOther.1
      (isOther.2.trans isSegment.2.symm)
  proofKept := by
    intro other present isProof
    rcases mem_append.mp present with old | added
    · rcases recorded.proofKept other old isProof with
        ⟨kept, listed, isKept⟩ | conflicted
      · exact .inl ⟨kept, mem_append_left _ listed, isKept⟩
      · exact .inr conflicted
    · exact .inl ⟨other, mem_append_right _ added, isProof⟩
  conflictMarked := by
    refine forall_mem_concat recorded.conflictMarked ?_
    intro isConflict
    exact admits.conflictMarked isConflict
  deliveryMarked := by
    refine forall_mem_concat recorded.deliveryMarked ?_
    intro isDelivery
    exact admits.deliveryMarked isDelivery
  sentAnswered := by
    refine forall_mem_concat recorded.sentAnswered ?_
    intro isSent
    exact (admits.newSegment isSent).2
  conflictUnknown := recorded.conflictUnknown

theorem Recorded.moveTo (recorded : entry.Recorded)
    (undelivered : ∀ event ∈ entry.inserted, event.evidence = .deliveryCallbackOk →
        entry.attempt.evidenceConflict)
    (unknown : entry.attempt.evidenceConflict → state = .unknown) :
    (entry.moveTo state now).Recorded :=
  { recorded with
    deliveryMarked := fun event present isDelivery =>
      .inr (undelivered event present isDelivery)
    conflictUnknown := unknown }

theorem Answered.store (answered : entry.Answered index)
    (callback : Callback) : (entry.store callback).Answered index := by
  obtain ⟨segment, present, isIndex, isSome⟩ := answered
  cases selected : (segment.segmentIndex == callback.index &&
      callback.decision segment == .store) with
  | false =>
    exact ⟨segment, mem_update_iff.mpr (.inl ⟨present, selected⟩), isIndex, isSome⟩
  | true =>
    refine ⟨callback.writeTo segment, mem_update_iff.mpr (.inr ⟨segment, present, selected, rfl⟩),
      ?_, ?_⟩
    · rw [callback.writeTo_segmentIndex]
      exact isIndex
    · unfold Callback.writeTo
      split_ifs
      · exact isSome
      · rfl

theorem Recorded.store (recorded : entry.Recorded) (callback : Callback) :
    (entry.store callback).Recorded :=
  { recorded with
    distinct := by
      refine (congrArg List.Nodup (map_update _ ?_ _)).mpr
        recorded.distinct
      exact callback.writeTo_segmentIndex
    sentAnswered := fun event present isSent =>
      (recorded.sentAnswered event present isSent).store callback }

end Recorded

section Conflicts

variable {entry : Entry}

/-- The first conflict removes the proof that waits. -/
theorem Recorded.conflict (recorded : entry.Recorded)
    (withdrawn : entry.attempt.evidenceConflict →
      ∀ event ∈ entry.events, event.isPendingProof = false) :
    (entry.conflict now fresh).Disciplined := by
  unfold Entry.conflict
  obtain ⟨messageId, isNamed⟩ := Option.isSome_iff_exists.mp recorded.named
  split_ifs with conflicted
  · refine { recorded with proofAlone := ?_, deliveredSettled := ?_ }
    · intro event present isPending
      simp [withdrawn conflicted event present] at isPending
    · intro isDelivered
      cases (recorded.conflictUnknown conflicted).symm.trans isDelivered
  · rw [Bool.not_eq_true] at conflicted
    simp only [isNamed]
    have marked : (entry.marked now).withdrawn.Recorded :=
      { recorded with
        proofKept := fun _ _ _ => .inr rfl
        conflictMarked := fun _ _ _ => rfl
        deliveryMarked := fun _ _ _ => .inr rfl
        conflictUnknown := fun _ => rfl }
    refine { marked.insert ⟨?_, ?_, fun _ => rfl, fun _ => .inr rfl⟩ with
      proofAlone := ?_, deliveredSettled := nofun }
    · intro _ other present isConflict
      have marked := recorded.conflictMarked other present isConflict
      simp [conflicted] at marked
    · nofun
    · intro event present isPending
      rcases mem_append.mp present with old | added
      · have kept := (mem_filter.mp old).2
        simp [isPending] at kept
      · rw [mem_singleton.mp added] at isPending
        cases isPending

theorem Disciplined.unpending (disciplined : entry.Disciplined)
    (conflicted : entry.attempt.evidenceConflict) :
    ∀ event ∈ entry.events, event.isPendingProof = false := by
  intro event present
  refine Bool.eq_false_iff.mpr fun isPending => ?_
  have unconflicted := (disciplined.proofAlone event present isPending).2.1
  simp [conflicted] at unconflicted

theorem Disciplined.conflict (disciplined : entry.Disciplined) :
    (entry.conflict now fresh).Disciplined :=
  disciplined.toRecorded.conflict disciplined.unpending

end Conflicts

/-! ## Callbacks -/

section Callbacks

variable {entry : Entry} {segment : SmsSegment}

/-- Nothing more is stored once a message is delivered. -/
theorem Disciplined.undelivered (disciplined : entry.Disciplined)
    (found : entry.segmentOf callback = some segment)
    (stored : callback.decision segment = .store) : entry.attempt.state ≠ .delivered := by
  intro isDelivered
  have settled := disciplined.deliveredSettled isDelivered segment (segmentOf_eq_some found).1
  have isStored : (callback.decision segment == .store) := beq_iff_eq.mpr stored
  cases delivery : callback.delivery with
  | true =>
    rw [callback.decision_delivery delivery, settled.2] at isStored
    cases isStored
  | false =>
    rw [callback.decision_sent (by simp [delivery]), Option.isNone_iff_eq_none] at isStored
    simp [isStored] at settled

/-- The segment of a callback that is stored was not answered before. -/
theorem Recorded.unanswered (recorded : entry.Recorded)
    (found : entry.segmentOf callback = some segment) (stored : callback.decision segment = .store)
    (isSent : callback.delivery = false) : ¬ entry.Answered (some callback.index) := by
  rintro ⟨other, present, isIndex, isSome⟩
  obtain ⟨listed, own⟩ := segmentOf_eq_some found
  have same : other = segment := inj_on_of_nodup_map recorded.distinct present listed
      ((Option.some.inj isIndex).symm.trans own.symm)
  have isStored : (callback.decision segment == .store) := beq_iff_eq.mpr stored
  rw [callback.decision_sent (by simp [isSent]), ← same] at isStored
  rw [Option.isNone_iff_eq_none] at isStored
  simp [isStored] at isSome

/-- The segment of a callback that is stored is answered afterwards. -/
theorem answered_store (found : entry.segmentOf callback = some segment)
    (stored : callback.decision segment = .store) (isSent : callback.delivery = false) :
    (entry.store callback).Answered (some callback.index) := by
  obtain ⟨listed, own⟩ := segmentOf_eq_some found
  refine ⟨callback.writeTo segment, mem_update_iff.mpr (.inr ⟨segment, listed, ?_, rfl⟩), ?_, ?_⟩
  · rw [own, stored, BEq.rfl]
    rfl
  · rw [callback.writeTo_segmentIndex, own]
  · simp [Callback.writeTo, isSent]

theorem mem_of_mem_insert (unpending : event.isPendingProof = false)
    (present : other ∈ (entry.insert event).events) (isPending : other.isPendingProof) :
    other ∈ entry.events := by
  rcases mem_append.mp present with old | added
  · exact old
  · rw [mem_singleton.mp added, unpending] at isPending
    cases isPending

variable {next : AttemptState}

theorem mem_events_report (present : event ∈ (entry.report callback next now fresh later).events)
    (isPending : event.isPendingProof) : event ∈ entry.events := by
  unfold report at present
  cases named : entry.attempt.messageId with
  | none =>
    simp only [named] at present
    exact present
  | some messageId =>
    have unproven : callback.sentEvidence ≠ .provenNoSubmit := callback.sentEvidence_ne rfl
    have sent : (entry.sentEvent callback messageId now fresh).isPendingProof = false := by
      simp [AlphaRadioEvent.isPendingProof, sentEvent, SmsAttempt.alphaEvent, unproven]
    simp only [named, reportDelivered, reportSent] at present
    split_ifs at present
    · exact mem_of_mem_insert sent (mem_of_mem_insert rfl present isPending) isPending
    · exact mem_of_mem_insert sent present isPending
    · exact mem_of_mem_insert rfl present isPending
    · exact present

theorem nextState_of_conflict {attempt : SmsAttempt} (conflicted : attempt.evidenceConflict)
    (segments : List SmsSegment) : attempt.nextState segments = .unknown := by
  rw [SmsAttempt.nextState, if_pos conflicted]

theorem report_of_conflict (conflicted : entry.attempt.evidenceConflict)
    (undelivered : next ≠ .delivered) :
    entry.report callback next now fresh later = entry := by
  unfold report
  cases entry.attempt.messageId with
  | none => rfl
  | some messageId =>
    simp [reportDelivered, reportSent, conflicted, undelivered]

section

variable (disciplined : entry.Disciplined) (found : entry.segmentOf callback = some segment)
  (stored : callback.decision segment = .store)

include disciplined found stored

/-- What a callback that fits reports was not reported before. -/
theorem Disciplined.recorded_report {next : AttemptState}
    (unconflicted : entry.attempt.evidenceConflict = false) :
    (((entry.store callback).report callback next now fresh later).moveTo next now).Recorded := by
  have neverDelivered : ∀ event ∈ entry.inserted, event.evidence ≠ .deliveryCallbackOk := by
    intro event present isDelivery
    rcases disciplined.deliveryMarked event present isDelivery with
      isDelivered | conflicted
    · exact disciplined.undelivered found stored isDelivered
    · simp [unconflicted] at conflicted
  have moved : ((entry.store callback).moveTo next now).Recorded := by
    refine (disciplined.toRecorded.store callback).moveTo ?_ ?_
    · exact fun event present isDelivery =>
        absurd isDelivery (neverDelivered event present)
    · intro conflicted
      cases unconflicted.symm.trans conflicted
  obtain ⟨messageId, named⟩ := Option.isSome_iff_exists.mp disciplined.named
  have sent : (((entry.store callback).reportSent callback messageId now
      fresh).moveTo next now).Recorded ∧
      ∀ event ∈ ((entry.store callback).reportSent callback messageId now
        fresh).inserted, event.evidence ≠ .deliveryCallbackOk := by
    unfold reportSent
    split_ifs with reported
    · refine ⟨moved.insert ⟨?_, ?_, ?_, ?_⟩, ?_⟩
      · exact fun unsent => absurd rfl (callback.sentEvidence_ne unsent)
      · intro _
        refine ⟨?_, answered_store found stored reported.1⟩
        intro other present isSent isIndex
        refine disciplined.toRecorded.unanswered found stored reported.1 ?_
        rw [← show other.segmentIndex = some callback.index from isIndex]
        exact disciplined.sentAnswered other present isSent
      · exact fun isConflict => absurd isConflict (callback.sentEvidence_ne rfl)
      · exact fun isDelivery => absurd isDelivery (callback.sentEvidence_ne rfl)
      · exact forall_mem_concat neverDelivered (callback.sentEvidence_ne rfl)
    · exact ⟨moved, neverDelivered⟩
  have isNamed : (entry.store callback).attempt.messageId = some messageId := named
  simp only [report, isNamed, reportDelivered]
  split_ifs with reported
  · exact sent.1.insert ⟨fun _ => sent.2, by rintro ⟨⟩, by rintro ⟨⟩, fun _ => .inl reported.1⟩
  · exact sent.1

theorem Disciplined.reported
    (submitted : entry.attempt.isUnsubmitted = false) : (((entry.store callback).report callback
      (entry.attempt.nextState (entry.store callback).segments) now fresh
        later).moveTo (entry.attempt.nextState (entry.store callback).segments)
          now).Disciplined := by
  have unproven : ∀ event ∈ entry.events, event.isPendingProof = false := by
    intro event present
    refine Bool.eq_false_iff.mpr fun isPending => ?_
    have unsubmitted := (disciplined.proofAlone event present isPending).1
    simp [SmsAttempt.isUnsubmitted, unsubmitted] at submitted
  refine { toRecorded := ?_, proofAlone := ?_, deliveredSettled := ?_ }
  · cases conflicted : entry.attempt.evidenceConflict with
    | true =>
      have isReport : (entry.store callback).report callback .unknown now
          fresh later = entry.store callback :=
        report_of_conflict conflicted (by decide)
      rw [nextState_of_conflict conflicted, isReport]
      exact (disciplined.toRecorded.store callback).moveTo (fun _ _ _ => conflicted) (fun _ => rfl)
    | false => exact disciplined.recorded_report found stored conflicted
  · intro event present isPending
    have old := mem_events_report present isPending
    simp [unproven event old] at isPending
  · intro isDelivered
    have isNext : entry.attempt.nextState (entry.store callback).segments =
        .delivered := isDelivered
    unfold SmsAttempt.nextState at isNext
    split_ifs at isNext
    have settled := AttemptState.fromEvidence_eq_delivered isNext
    simpa [Entry.moveTo] using settled

end

theorem Disciplined.recordCallback (disciplined : entry.Disciplined) :
    (entry.recordCallback callback now fresh later).Disciplined := by
  have recording := entry.recordCallback_recording callback now fresh later
  generalize entry.recordCallback callback now fresh later = next at recording
  cases recording with
  | ignored => exact disciplined
  | contradicted => exact disciplined.conflict
  | refused =>
    exact (disciplined.toRecorded.store callback).conflict disciplined.unpending
  | reported _ found stored submitted =>
    exact disciplined.reported found stored submitted

end Callbacks

section Quiet

variable {entry : Entry}

/-- States that an attempt leaves without a callback. -/
def isMoving : AttemptState → Bool
  | .unknown | .delivered | .notSubmitted => false
  | _ => true

theorem isMoving_of_underWay (underWay : isUnderWay state) : isMoving state := by
  cases state <;> simp_all [isUnderWay, isMoving]

theorem IsNew.disciplined (isNew : entry.IsNew) : entry.Disciplined := by
  obtain ⟨messageId, eventId, now, -, isEvents, isInserted⟩ := isNew.intended
  have only : ∀ event ∈ entry.inserted, event.evidence = .durableSubmitIntent := by
    intro event present
    rw [isInserted, isEvents] at present
    rw [mem_singleton.mp present]
    rfl
  have unproven : ∀ event ∈ entry.events, event.isPendingProof = false := by
    intro event present
    rw [isEvents] at present
    rw [mem_singleton.mp present]
    rfl
  have single : ∀ holds : AlphaRadioEvent → Bool, entry.inserted.countP holds ≤ 1 := by
    intro holds
    rw [isInserted, isEvents]
    exact countP_le_length
  refine
    { named := isNew.named, distinct := ?_
      oneOfKind := fun _ _ => single _
      onePerSegment := fun _ => single _
      proofKept := ?_, conflictMarked := ?_, deliveryMarked := ?_, sentAnswered := ?_
      conflictUnknown := ?_, proofAlone := ?_, deliveredSettled := ?_ }
  · rw [isNew.blank, blankSegments, map_map]
    refine nodup_range.map fun first second same => ?_
    exact Int.ofNat.inj same
  · intro event present isProof
    cases (only event present).symm.trans isProof
  · intro event present isConflict
    cases (only event present).symm.trans isConflict
  · intro event present isDelivery
    cases (only event present).symm.trans isDelivery
  · intro event present isSent
    rw [only event present] at isSent
    cases isSent
  · intro conflicted
    cases isNew.unconflicted.symm.trans conflicted
  · intro event present isPending
    simp [unproven event present] at isPending
  · intro isDelivered
    cases isNew.reserved.symm.trans isDelivered

variable {next : Entry} (disciplined : entry.Disciplined)

include disciplined

theorem Disciplined.moveTo (moving : isMoving entry.attempt.state)
    (undelivered : state ≠ .delivered) :
    (entry.moveTo state now).Disciplined := by
  have unconflicted : entry.attempt.evidenceConflict ≠ true := by
    intro conflicted
    rw [disciplined.conflictUnknown conflicted] at moving
    cases moving
  refine { toRecorded := ?_, proofAlone := ?_, deliveredSettled := ?_ }
  · refine disciplined.toRecorded.moveTo ?_ (fun conflicted =>
      absurd conflicted unconflicted)
    intro event present isDelivery
    rcases disciplined.deliveryMarked event present isDelivery with
      isDelivered | conflicted
    · rw [isDelivered] at moving
      cases moving
    · exact conflicted
  · intro event present isPending
    have unsubmitted := (disciplined.proofAlone event present isPending).1
    rw [unsubmitted] at moving
    cases moving
  · exact fun isDelivered => absurd isDelivered undelivered

theorem Disciplined.acknowledge (eventId : Identifier) :
    (entry.acknowledge eventId now).Disciplined := by
  refine { disciplined with proofKept := ?_, proofAlone := ?_ }
  · intro event present isProof
    rcases disciplined.proofKept event present isProof with kept | conflicted
    · exact .inl ((exists_update_iff (by intro event; rfl)).mpr kept)
    · exact .inr conflicted
  · intro event present isPending
    rcases mem_update_iff.mp present with ⟨old, -⟩ | ⟨old, -, -, rfl⟩
    · exact disciplined.proofAlone event old isPending
    · simp [AlphaRadioEvent.isPendingProof] at isPending

theorem Disciplined.prove : (entry.prove now fresh).Disciplined := by
  obtain ⟨messageId, named⟩ := Option.isSome_iff_exists.mp disciplined.named
  simp only [Entry.prove, named]
  split_ifs with provable
  · simp only [Entry.isProvable, Bool.and_eq_true, beq_iff_eq,
      Bool.not_eq_true', any_eq_false, all_eq_true] at provable
    obtain ⟨⟨⟨unsubmitted, unconflicted⟩, unproven⟩, blank⟩ := provable
    refine ⟨disciplined.toRecorded.insert ⟨?_, by rintro ⟨⟩, by rintro ⟨⟩, by rintro ⟨⟩⟩, ?_, ?_⟩
    · intro _ other present isProof
      rcases disciplined.proofKept other present isProof with
        ⟨kept, listed, isKept⟩ | conflicted
      · exact unproven kept listed isKept
      · simp [unconflicted] at conflicted
    · exact fun _ _ _ => ⟨unsubmitted, unconflicted, blank⟩
    · intro isDelivered
      cases unsubmitted.symm.trans isDelivered
  · exact disciplined

theorem Disciplined.quiet (quiet : entry.Quiet next) : next.Disciplined := by
  cases quiet with
  | start now submitting =>
    exact disciplined.moveTo (by rw [submitting]; rfl) (by decide)
  | interrupt now underWay | abandon now underWay =>
    exact disciplined.moveTo (isMoving_of_underWay underWay) (by decide)
  | drop now reserved | permit now reserved =>
    exact disciplined.moveTo (by rw [reserved]; rfl) (by decide)
  | timeOut now submitted =>
    exact disciplined.moveTo (by rw [submitted]; rfl) (by decide)
  | acknowledge eventId now => exact disciplined.acknowledge eventId
  | prove now fresh => exact disciplined.prove

theorem Disciplined.step (step : entry.Step next) : next.Disciplined := by
  cases step with
  | quiet quiet => exact disciplined.quiet quiet
  | callback callback now fresh later => exact disciplined.recordCallback

variable (conflicted : entry.attempt.evidenceConflict = true)

include conflicted

/-- A conflict ends the story of an attempt. -/
theorem Disciplined.concluded_step (step : entry.Step next) :
    next.attempt.evidenceConflict ∧ next.inserted = entry.inserted := by
  have isUnknown := disciplined.conflictUnknown conflicted
  cases step with
  | quiet quiet =>
    cases quiet with
    | start now isState | drop now isState | timeOut now isState
    | permit now isState => cases isUnknown.symm.trans isState
    | interrupt now underWay | abandon now underWay =>
      rw [isUnknown] at underWay
      cases underWay
    | acknowledge eventId now => exact ⟨conflicted, rfl⟩
    | prove now fresh =>
      have unprovable : entry.isProvable = false := by
        simp [isProvable, conflicted]
      unfold Entry.prove
      cases entry.attempt.messageId with
      | none => exact ⟨conflicted, rfl⟩
      | some messageId =>
        rw [unprovable]
        exact ⟨conflicted, rfl⟩
  | callback callback now fresh later =>
    have recording := entry.recordCallback_recording callback now fresh later
    generalize entry.recordCallback callback now fresh later = next
      at recording
    have settled : ∀ held : Entry, held.attempt = entry.attempt →
        held.conflict now fresh = held := by
      intro held same
      rw [Entry.conflict, same, if_pos conflicted]
    cases recording with
    | ignored => exact ⟨conflicted, rfl⟩
    | contradicted =>
      rw [settled entry rfl]
      exact ⟨conflicted, rfl⟩
    | refused =>
      rw [settled (entry.store callback) rfl]
      exact ⟨conflicted, rfl⟩
    | reported =>
      rw [nextState_of_conflict conflicted, report_of_conflict (by exact conflicted) (by decide)]
      exact ⟨conflicted, rfl⟩

theorem Disciplined.concluded (reached : entry.Reaches next) :
    next.Disciplined ∧ next.attempt.evidenceConflict ∧ next.inserted = entry.inserted := by
  induction reached with
  | refl => exact ⟨disciplined, conflicted, rfl⟩
  | tail _ step ih =>
    obtain ⟨between, stillConflicted, same⟩ := ih
    obtain ⟨further, unchanged⟩ := between.concluded_step stillConflicted step
    exact ⟨between.step step, further, unchanged.trans same⟩

end Quiet

end Entry

/-- Every entry of a journal that began empty keeps the discipline. -/
theorem Journal.run_disciplined (steps : List Journal.Step) (attemptId : Identifier) :
    (Journal.empty.run steps).Lacks attemptId ∨
      ∃ entry : Entry, (Journal.empty.run steps).Holds attemptId entry ∧ entry.Disciplined := by
  rcases Journal.run_entries Journal.empty_coherent (Journal.empty_lacks attemptId) steps with
    lacks | ⟨first, entry, isNew, reached, holds⟩
  · exact .inl lacks
  · exact .inr ⟨entry, holds, reached.preserved
      (fun _ _ disciplined step => disciplined.step step) isNew.disciplined⟩

/-- The discipline of evidence, over every sequence of operations. -/
theorem journal_evidence_discipline (steps : List Journal.Step) (attemptId : Identifier) :
    let journal := Journal.empty.run steps
    (∀ evidence : Evidence, evidence.isSentCallback = false → journal.inserted.countP (fun event =>
        event.attemptId == attemptId && event.evidence == evidence) ≤ 1) ∧
    (∀ index : Option Int, journal.inserted.countP (fun event =>
        event.attemptId == attemptId && (event.evidence.isSentCallback &&
          event.segmentIndex == index)) ≤ 1) ∧
    (∀ attempt, journal.getAttempt attemptId = some attempt → attempt.evidenceConflict = true →
      attempt.state = .unknown ∧
      ∀ later : List Journal.Step, (∃ kept, (journal.run later).getAttempt attemptId = some kept ∧
          kept.state = .unknown ∧ kept.evidenceConflict = true) ∧
        (journal.run later).inserted.filter (·.attemptId == attemptId) =
          journal.inserted.filter (·.attemptId == attemptId)) ∧
    (∀ event ∈ journal.events, event.attemptId = attemptId →
      event.evidence = .provenNoSubmit → event.acknowledgedAtMs = none →
      ∀ segment ∈ journal.segments, segment.attemptId = attemptId →
        segment.sentResultCode = none ∧ segment.deliveryResultCode = none ∧
          segment.deliveryStatus = none) := by
  intro journal
  have counted : ∀ holds : AlphaRadioEvent → Bool, journal.inserted.countP (fun event =>
        event.attemptId == attemptId && holds event) =
        (journal.inserted.filter (·.attemptId == attemptId)).countP holds := by
    intro holds
    rw [countP_filter]
    exact countP_congr fun event _ => by rw [Bool.and_comm]
  have coherent : journal.Coherent := Journal.run_coherent Journal.empty_coherent steps
  rcases Journal.run_disciplined steps attemptId with
    lacks | ⟨entry, holds, disciplined⟩
  · refine ⟨?_, ?_, ?_, ?_⟩
    · intro evidence _
      rw [counted, lacks.inserted]
      exact Nat.zero_le 1
    · intro index
      rw [counted, lacks.inserted]
      exact Nat.zero_le 1
    · intro attempt isAttempt
      cases lacks.getAttempt.symm.trans isAttempt
    · intro event present isOwn
      have none := filter_eq_nil_iff.mp lacks.events event present
      simp [isOwn] at none
  · refine ⟨?_, ?_, ?_, ?_⟩
    · intro evidence unsent
      rw [counted, holds.inserted]
      exact disciplined.oneOfKind evidence unsent
    · intro index
      rw [counted, holds.inserted]
      exact disciplined.onePerSegment index
    · intro attempt isAttempt conflicted
      obtain rfl := Option.some.inj (holds.getAttempt.symm.trans isAttempt)
      refine ⟨disciplined.conflictUnknown conflicted, fun later => ?_⟩
      obtain ⟨next, holdsNext, reached⟩ := Journal.run_reaches coherent holds later
      obtain ⟨stillDisciplined, stillConflicted, same⟩ := disciplined.concluded conflicted reached
      refine ⟨⟨next.attempt, holdsNext.getAttempt,
        stillDisciplined.conflictUnknown stillConflicted, stillConflicted⟩, ?_⟩
      rw [holdsNext.inserted, same, ← holds.inserted]
    · intro event present isOwn isProof isOpen segment listed isSegment
      have isPending : event.isPendingProof = true := by
        simp [AlphaRadioEvent.isPendingProof, isProof, isOpen]
      have blank := (disciplined.proofAlone event
        (holds.mem_events.mpr ⟨present, isOwn⟩) isPending).2.2 segment
        (holds.mem_segments.mpr ⟨listed, isSegment⟩)
      simpa [SmsSegment.isBlank, and_assoc] using blank

end Zrotext.Phone
