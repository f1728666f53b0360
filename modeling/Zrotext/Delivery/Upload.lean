import Zrotext.Delivery.Run

/-!
# Uploaded reports

When the store accepts a report.  The transition table is one condition; the
indexes of the fences, which span all messages of a device, are another.
-/

namespace Zrotext.Delivery

open Domain Foundation Transaction List Table

variable {tables after : Tables}

/-- The attempt that holds a fence. -/
structure Holding (fence : DispatchFence) (attempt : MessageAttempt) : Prop where
  holder : attempt.id = fence.attemptId
  owner : attempt.accountId = fence.accountId
  message : attempt.messageId = fence.messageId
  device : attempt.deviceId = fence.deviceId

/-- Every fence was granted, to an attempt of its message and its device. -/
def Tables.Attended (deployment : Deployment) (tables : Tables) : Prop :=
  ∀ fence ∈ tables.fences, deployment.hostedEntry = true ∧
    ∃ attempt ∈ tables.attempts, Holding fence attempt

theorem holding_become (listed : attempt ∈ attempts) (holding : Holding fence attempt)
    (becomes : MessageAttempt → Bool) (status : AttemptStatus) (time : Time) :
    ∃ next ∈ update becomes (MessageAttempt.become status time) attempts,
      Holding fence next := by
  cases selected : becomes attempt with
  | false =>
    exact ⟨attempt, mem_update_iff.mpr (.inl ⟨listed, selected⟩), holding⟩
  | true =>
    exact ⟨attempt.become status time, mem_update_iff.mpr
      (.inr ⟨attempt, listed, selected, rfl⟩), holding.holder,
      holding.owner, holding.message, holding.device⟩

theorem Tables.Attended.advance (attended : tables.Attended deployment)
    (attempts : after.attempts = update becomes
      (MessageAttempt.become status time) tables.attempts)
    (fences : after.fences = update records (DispatchFence.record status) tables.fences) :
    after.Attended deployment := by
  intro fence present
  rw [fences] at present
  rw [attempts]
  rcases mem_update_iff.mp present with
    ⟨kept, _⟩ | ⟨old, listed, _, rfl⟩
  · obtain ⟨entered, attempt, isListed, holding⟩ := attended fence kept
    exact ⟨entered, holding_become isListed holding _ _ _⟩
  · obtain ⟨entered, attempt, isListed, holding⟩ := attended old listed
    refine ⟨entered, holding_become isListed ?_ _ _ _⟩
    exact ⟨holding.holder, holding.owner, holding.message, holding.device⟩

theorem Effect.attended (effect : Effect deployment directory tables after)
    (attended : tables.Attended deployment) : after.Attended deployment := by
  cases effect with
  | reserved | connected | claimed | closed | timedOut => exact attended
  | followed | silenced => exact attended.advance rfl rfl
  | granted granting =>
    refine forall_mem_concat (fun fence present => ?_) ⟨granting.entered, _,
      mem_append_right _ (mem_singleton_self _), rfl, rfl, rfl, rfl⟩
    obtain ⟨entered, attempt, listed, holding⟩ := attended fence present
    exact ⟨entered, attempt, mem_append_left _ listed, holding⟩
  | released =>
    intro fence present
    obtain ⟨entered, attempt, listed, holding⟩ := attended fence (mem_of_mem_filter present)
    exact ⟨entered, holding_become listed holding _ _ _⟩

theorem World.run_attended (deployment : Deployment) (directory : Directory) (steps : List Step) :
    ((World.start directory).run deployment steps).tables.Attended deployment := by
  have preserved : Preserved deployment (Tables.Attended deployment) :=
    { arrival := by
        intro clock key tables after _ attended arrival
        cases arrival with
        | known | created => exact attended
      effect := fun _ attended effect => effect.attended attended
      administered := fun _ _ attended => attended }
  refine (preserved.run Tables.empty_coherent ?_ steps).2
  rintro _ ⟨⟩

/-- A new report of an attempt that still holds the fence of its message. -/
structure FreshReport (clock : Clock) (tables : Tables) (event : RadioEvent) : Prop where
  unrecorded : ∀ other ∈ tables.events, other.id ≠ event.eventId
  wellFormed : malformedRadioEvent event = false
  timely : ∀ attempt ∈ tables.attempts, attempt.id = event.attemptId →
    validateRadioTimestamp event.observedAtMs (toMillis attempt.createdAt)
      (toMillis (clock.reading 0)) = .ok ()
  fenced : ∃ fence ∈ tables.fences, fence.attemptId = event.attemptId ∧
    fence.accountId = event.accountId ∧ fence.messageId = event.messageId ∧
    fence.deviceId = event.deviceId

theorem radioMessage_of_record (holds : tables.Holds event.messageId record)
    (coherent : record.Coherent) (owner : record.message.accountId = event.accountId) :
    radioMessage directory tables event = .ok record.message := by
  have rows : (tables.messages.filter fun message =>
      message.accountId == event.accountId && message.id == event.messageId) =
        [record.message] := by
    rw [← filter_filter, holds.messages]
    simp [owner]
  unfold radioMessage
  simp only [rows, any_cons, any_nil, coherent.mode, Bool.or_false, head?_cons]
  rw [if_neg (by rintro ⟨_, isSealed, _⟩; cases isSealed), if_neg (nofun), if_neg coherent.content]

theorem FreshReport.admitted (attended : tables.Attended deployment)
    (fresh : FreshReport clock tables event) : admitEvidence clock tables event = .ok () := by
  obtain ⟨fence, present, isHolder, owner, isMessage, device⟩ := fresh.fenced
  obtain ⟨_, attempt, listed, holding⟩ := attended fence present
  have matching : event.isOf attempt := by
    simp [RadioEvent.isOf, holding.holder, holding.owner, holding.message, holding.device,
      isHolder, owner, isMessage, device]
  unfold admitEvidence
  cases found : tables.attempts.find? event.isOf with
  | none => exact absurd matching (find?_eq_none.mp found attempt listed)
  | some other =>
    have isOther := find?_some found
    simp only [RadioEvent.isOf, Bool.and_eq_true, beq_iff_eq] at isOther
    simp only
    rw [fresh.timely other (mem_of_find?_eq_some found) isOther.1.1.1]
    refine if_pos (any_eq_true.mpr ⟨fence, present, ?_⟩)
    simp [isHolder, owner, isMessage, device]

theorem recordRadioEvent_leads_admitted
    (unrecorded : ∀ other ∈ tables.events, other.id ≠ event.eventId) :
    Finishes (recordRadioEvent deployment directory clock event)
      (fun _ _ => malformedRadioEvent event = false ∧ admitEvidence clock tables event = .ok ())
      tables := by
  have unknown : tables.events.find? (·.id == event.eventId) = none :=
    find?_eq_none.mpr (by simpa using unrecorded)
  unfold recordRadioEvent recordFresh
  simp only [leads_bind, leads_demand, leads_refuse,
    leads_enterHostedTransaction, leads_get, leads_compute, unknown,
    implies_true, and_true]
  intro code isCode wellFormed entered message found _ admitted next transition
  have known : malformedRadioEvent event = false ∧
      admitEvidence clock tables event = .ok () := ⟨wellFormed, admitted⟩
  refine (Leads.of_fact known _).imp ?_
  exact fun _ _ _ => Leads.of_fact known _

theorem FreshReport.of_accepted (coherent : tables.Coherent)
    (unrecorded : ∀ other ∈ tables.events, other.id ≠ event.eventId)
    (accepted : ((recordRadioEvent deployment directory clock event).commit tables).1 = .ok state) :
    FreshReport clock tables event := by
  obtain ⟨wellFormed, admitted⟩ := (recordRadioEvent_leads_admitted unrecorded).of_commit accepted
  obtain ⟨⟨attempt, listed, isAttempt, _, timely⟩, fenced⟩ := admitEvidence_eq_ok admitted
  refine ⟨unrecorded, wellFormed, ?_, fenced⟩
  intro other otherListed isOther
  rw [coherent.attempt_eq otherListed listed (isOther.trans isAttempt.symm)]
  exact timely

theorem leads_insertEvent_of_free (free :
    ∀ index ∈ eventIndexes, ∀ other ∈ tables.events, index.clashes row other = false) :
    Leads (insertEvent row) finished failed tables ↔
      finished ⟨⟩ { tables with events := tables.events ++ [row] } := by
  have inserted : insert eventIndexes row tables.events = .ok (tables.events ++ [row]) :=
    insert_eq_ok_iff.mpr ⟨rfl, free⟩
  rw [leads_insertEvent, inserted]
  refine ⟨fun both => both.1 free, fun finishes => ⟨fun _ => finishes, ?_⟩⟩
  rintro _ ⟨⟩

variable {next : MessageState}

/-- The indexes of the fences refuse that an attempt takes a status. -/
def Tables.RefusesFence (tables : Tables) (attemptId : Uuid) (status : AttemptStatus)
    (failure : StoreError) : Prop :=
  ∃ index, rewrite fenceIndexes (·.attemptId == attemptId) (DispatchFence.record status)
    tables.fences = .error index ∧ failure = .database (.uniqueViolation index)

/-- Writing a report fails only if the fences of the device refuse it. -/
theorem writeEvidence_leads (notProof : event.evidence ≠ .provenNoSubmit)
    (isStatus : attemptStatus next = some status)
    (free : ∀ index ∈ eventIndexes, ∀ other ∈ tables.events,
      index.clashes (eventRow deployment event code next) other = false) :
    Leads (writeEvidence deployment clock event code next) (fun _ after =>
        after = tables.follow deployment clock event code next status ∧
        ∀ index ∈ fenceIndexes, Table.Unique index after.fences)
      (fun failure _ => tables.RefusesFence event.attemptId status failure) tables := by
  unfold writeEvidence followState
  rw [if_neg notProof, isStatus]
  simp only [updateMessages, updateAttempts, leads_bind, leads_modify]
  refine (leads_insertEvent_of_free (by exact free)).mpr ?_
  simp only [leads_updateFences]
  exact ⟨fun unique => ⟨rfl, unique⟩, fun index broken => ⟨index, broken, rfl⟩⟩

/-- No callback of the segment of a report is recorded. -/
def Tables.SegmentFree (tables : Tables) (event : RadioEvent) : Prop :=
  ∀ other ∈ tables.events, other.attemptId = event.attemptId →
    other.evidenceCode.isSentCallback → other.segmentIndex ≠ event.segmentIndex

theorem eventRow_free {code : EvidenceCode}
    (unrecorded : ∀ other ∈ tables.events, other.id ≠ event.eventId)
    (segmentFree : code.isSentCallback → tables.SegmentFree event) :
    ∀ index ∈ eventIndexes, ∀ other ∈ tables.events,
      index.clashes (eventRow deployment event code next) other = false := by
  intro index isIndex stored recorded
  simp only [eventIndexes, mem_cons, not_mem_nil, or_false]
    at isIndex
  rcases isIndex with rfl | rfl
  · rw [Table.Index.on_free_iff]
    rintro value ⟨⟩ isId
    exact unrecorded stored recorded (Option.some.inj isId)
  · rw [Table.Index.on_free_iff]
    intro value isKey isStored
    simp only [Option.ite_none_right_eq_some, Option.map_eq_some_iff]
      at isKey isStored
    obtain ⟨isCallback, segment, isSegment, rfl⟩ := isKey
    obtain ⟨wasCallback, other, wasSegment, same⟩ := isStored
    obtain ⟨isAttempt, rfl⟩ := Prod.mk.inj same
    exact segmentFree isCallback stored recorded isAttempt wasCallback
      (wasSegment.trans isSegment.symm)

/-- A report that the transition table permits is recorded, unless the indexes
of the fences refuse it. -/
theorem FreshReport.leads (fresh : FreshReport clock tables event) (coherent : tables.Coherent)
    (attended : tables.Attended deployment) (holds : tables.Holds event.messageId record)
    (isCode : evidenceCode event.evidence = some code)
    (transition : radioState record.message.state event
      (record.evidence event.attemptId event.segmentCount) = .ok next)
    (notProof : event.evidence ≠ .provenNoSubmit) (isStatus : attemptStatus next = some status)
    (segmentFree : code.isSentCallback → tables.SegmentFree event) :
    Leads (recordRadioEvent deployment directory clock event) (fun value after => value = next ∧
        after = tables.follow deployment clock event code next status ∧
        ∀ index ∈ fenceIndexes, Table.Unique index after.fences)
      (fun failure _ => tables.RefusesFence event.attemptId status failure) tables := by
  obtain ⟨fence, present, isHolder, owner, isMessage, device⟩ := fresh.fenced
  obtain ⟨other, isOther, sound, isFence⟩ := coherent.record_of_fence present
  rw [isMessage] at isOther
  obtain rfl := holds.eq isOther
  have found : radioMessage directory tables event = .ok record.message := by
    refine radioMessage_of_record holds sound ?_
    rw [← (sound.fenceOwner fence isFence).1]
    exact owner
  have prior : priorAttemptEvidence tables event.attemptId event.segmentCount =
      record.evidence event.attemptId event.segmentCount := by
    unfold priorAttemptEvidence Record.evidence
    rw [← isHolder, coherent.fence_events holds sound isFence]
  have unrecorded : tables.events.find? (·.id == event.eventId) = none :=
    find?_eq_none.mpr (by simpa using fresh.unrecorded)
  unfold recordRadioEvent recordFresh
  simp only [leads_bind, leads_demand, leads_refuse,
    leads_enterHostedTransaction, leads_get, leads_compute, isCode, found,
    fresh.wellFormed, (attended fence present).1, unrecorded,
    fresh.admitted attended, prior, transition, Option.some.injEq,
    Except.ok.injEq, forall_eq', reduceCtorEq, false_implies, true_implies,
    implies_true, and_true]
  intro _
  refine (writeEvidence_leads notProof isStatus
    (eventRow_free fresh.unrecorded segmentFree)).mono ?_
    (fun _ _ refused => refused)
  intro _ after written
  unfold sealedIntentLive
  rw [if_neg (by simp [sound.mode])]
  exact ⟨rfl, written⟩

/-- No other attempt keeps the device of an attempt busy. -/
def Tables.DeviceFree (tables : Tables) (deviceId attemptId : Uuid) : Prop :=
  ∀ fence ∈ tables.fences, fence.deviceId = deviceId →
    fence.attemptId ≠ attemptId → fence.outcome.isActive = false

instance (tables : Tables) (deviceId attemptId : Uuid) :
    Decidable (tables.DeviceFree deviceId attemptId) :=
  inferInstanceAs (Decidable (∀ fence ∈ tables.fences, _))

theorem activeDevice_key_iff {fence : DispatchFence} :
    (if fence.outcome.isActive then some fence.deviceId else none) = some deviceId ↔
      fence.outcome.isActive ∧ fence.deviceId = deviceId := by
  rw [Option.ite_none_right_eq_some, Option.some.injEq]

/-- A device that is free lets its attempt take any status. -/
theorem Tables.Coherent.activeDevice_record (coherent : tables.Coherent)
    (present : fence ∈ tables.fences) (free : status.isActive →
      tables.DeviceFree fence.deviceId fence.attemptId) :
    Table.Unique activeDeviceIndex (update (·.attemptId == fence.attemptId)
        (DispatchFence.record status) tables.fences) := by
  have unique := coherent.fencesUnique
  simp only [fenceIndexes, forall_mem_cons] at unique
  obtain ⟨_, byAttempt, byDevice, _⟩ := unique
  refine byDevice.update_one ?_ ?_
  · refine byAttempt.imp ?_
    rintro row other unclashing ⟨selected, otherSelected⟩
    rw [Table.Index.on_free_iff] at unclashing
    simp only [beq_iff_eq] at selected otherSelected
    exact unclashing _ (congrArg some selected) (congrArg some otherSelected)
  · intro row listed selected other otherListed unselected deviceId isKey isOther
    simp only [beq_iff_eq] at selected
    obtain rfl := coherent.fence_eq listed present selected
    obtain ⟨active, rfl⟩ := activeDevice_key_iff.mp isKey
    obtain ⟨busy, sameDevice⟩ := activeDevice_key_iff.mp isOther
    rw [free active other otherListed sameDevice (by simpa using unselected)]
      at busy
    cases busy

/-- The fences allow an attempt to take a status if and only if the status does
not keep the device busy or no other attempt does. -/
theorem Tables.Coherent.fences_record_iff (coherent : tables.Coherent)
    (present : fence ∈ tables.fences) :
    (∀ index ∈ fenceIndexes, Table.Unique index (update (·.attemptId == fence.attemptId)
        (DispatchFence.record status) tables.fences)) ↔
      (status.isActive → tables.DeviceFree fence.deviceId fence.attemptId) := by
  have unique := coherent.fencesUnique
  simp only [fenceIndexes, forall_mem_cons] at unique ⊢
  constructor
  · rintro ⟨_, _, byDevice, _⟩ active other listed sameDevice different
    by_contra busy
    have changed : fence.record status ∈ update (·.attemptId == fence.attemptId)
          (DispatchFence.record status) tables.fences :=
      mem_update_iff.mpr (.inr ⟨fence, present, by simp, rfl⟩)
    have kept : other ∈ update (·.attemptId == fence.attemptId)
        (DispatchFence.record status) tables.fences :=
      mem_update_iff.mpr (.inl ⟨listed, by simpa using different⟩)
    have same := byDevice.eq_of_key kept changed
      (activeDevice_key_iff.mpr ⟨by simpa using busy, sameDevice⟩)
      (activeDevice_key_iff.mpr ⟨active, rfl⟩)
    exact different (by rw [same]; rfl)
  · intro free
    refine ⟨unique.1.update (by intro row; rfl), unique.2.1.update (by intro row; rfl),
      coherent.activeDevice_record present free, ?_⟩
    rintro _ ⟨⟩

end Zrotext.Delivery
