import Zrotext.Delivery.Replay
import Zrotext.Exchange.Story

/-!
# The writer hears a story

The writer keeps the reports about an attempt as rows of its tables.  What it
has heard of a story decides which state the message is in, and what comes next
in the story is accepted.
-/

namespace Zrotext.Exchange

open Domain Foundation Delivery Transaction List Option

/-- An attempt that the phone and the writer both know. -/
structure Subject where
  (accountId deviceId messageId attemptId : Uuid)
  segmentCount : Int
  few : 1 ≤ segmentCount ∧ segmentCount ≤ 6

/-- The report is about the attempt. -/
structure Subject.Owns (subject : Subject) (report : RadioEvent) : Prop where
  account : report.accountId = subject.accountId
  device : report.deviceId = subject.deviceId
  message : report.messageId = subject.messageId
  attempt : report.attemptId = subject.attemptId

/-- The rows of a record about the attempt. -/
def Subject.rows (subject : Subject) (record : Record) : List MessageEvent :=
  record.events.filter (·.attemptId == subject.attemptId)

/-- The record of the message after a part of the story was heard. -/
structure Tracks (subject : Subject) (heard : List RadioEvent) (record : Record) : Prop where
  fenced : ∃ fence, record.fence = some fence ∧ fence.attemptId = subject.attemptId
  account : record.message.accountId = subject.accountId
  device : record.message.deviceId = subject.deviceId
  unconflicted : ∀ row ∈ subject.rows record, row.evidenceCode ≠ .callbackConflict
  intended : ∃ row ∈ subject.rows record, row.evidenceCode = .durableIntent
  sentOk : (subject.rows record).countP (·.evidenceCode == .sentCallbackOk) = okCount heard
  sentCallbacks : (subject.rows record).countP (·.evidenceCode.isSentCallback) =
    okCount heard + failedCount heard
  told : ∀ row ∈ subject.rows record, row.evidenceCode.isSentCallback = true →
    row.segmentCount = some subject.segmentCount ∧
      ∃ report ∈ heard, isSentCallback report.evidence = true ∧
        report.segmentIndex = row.segmentIndex
  expected : Expected subject.segmentCount heard record.message.state

section Reports

variable {subject : Subject}

theorem Follows.declared {count : Int} (follows : Follows count log report) :
    report.segmentCount = some count ∨ report.segmentCount = none := by
  cases follows with
  | sent _ _ isCount => exact .inl isCount
  | delivery _ _ isCount => exact .inr isCount

theorem Follows.code {count : Int} (follows : Follows count log report) :
    ∃ code, evidenceCode report.evidence = some code ∧
      report.evidence ≠ .provenNoSubmit ∧ code ≠ .callbackConflict ∧
      code.isSentCallback = isSentCallback report.evidence ∧
      (code = .sentCallbackOk ↔ report.evidence = .sentCallbackOk) := by
  cases follows with
  | sent isSent =>
    cases isEvidence : report.evidence <;> rw [isEvidence] at isSent <;>
      first
        | exact ⟨_, rfl, by decide, by decide, by decide, by decide⟩
        | cases isSent
  | delivery isDelivery =>
    rw [isDelivery]
    exact ⟨_, rfl, by decide, by decide, by decide, by decide⟩

theorem Tracks.hears (tracks : Tracks subject heard record)
    (isDeclared : declared = some subject.segmentCount ∨ declared = none) :
    Hears heard (record.evidence subject.attemptId declared) where
  unconflicted := by
    refine any_eq_false.mpr fun row listed => ?_
    simpa using tracks.unconflicted row listed
  intended := by
    obtain ⟨row, listed, isIntent⟩ := tracks.intended
    exact any_eq_true.mpr ⟨row, listed, by simp [isIntent]⟩
  sentCallbacks := tracks.sentCallbacks
  sentOk := tracks.sentOk
  sameCount := by
    refine countP_eq_zero.mpr fun row listed => ?_
    cases isSent : row.evidenceCode.isSentCallback with
    | false => simp
    | true =>
      rw [(tracks.told row listed isSent).1]
      rcases isDeclared with rfl | rfl <;> simp

variable {next : Record}

theorem Subject.rows_concat (isAttempt : row.attemptId = subject.attemptId)
    (isEvents : next.events = record.events ++ [row]) :
    subject.rows next = subject.rows record ++ [row] := by
  unfold Subject.rows
  rw [isEvents, filter_append]
  simp [isAttempt]

section

variable (tracks : Tracks subject heard record) (isAttempt : row.attemptId = subject.attemptId)
  (isEvents : next.events = record.events ++ [row])
  (fenced : ∃ fence, next.fence = some fence ∧ fence.attemptId = subject.attemptId)
  (account : next.message.accountId = record.message.accountId)
  (device : next.message.deviceId = record.message.deviceId)

include tracks isAttempt isEvents fenced account device

/-- One more row, which tells what was heard since. -/
theorem Tracks.concat (kept : ∀ report ∈ heard, report ∈ later)
    (unconflicted : row.evidenceCode ≠ .callbackConflict)
    (sentOk : okCount later = okCount heard + if row.evidenceCode = .sentCallbackOk then 1 else 0)
    (sentCallbacks : okCount later + failedCount later =
      okCount heard + failedCount heard + if row.evidenceCode.isSentCallback then 1 else 0)
    (told : row.evidenceCode.isSentCallback →
      row.segmentCount = some subject.segmentCount ∧ ∃ report ∈ later,
        isSentCallback report.evidence ∧ report.segmentIndex = row.segmentIndex)
    (expected : Expected subject.segmentCount later next.message.state) :
    Tracks subject later next := by
  have rows := Subject.rows_concat isAttempt isEvents
  refine ⟨fenced, account.trans tracks.account, device.trans tracks.device,
    ?_, ?_, ?_, ?_, ?_, expected⟩
  all_goals rw [rows]
  · exact Table.forall_mem_concat tracks.unconflicted unconflicted
  · obtain ⟨intent, listed, isIntent⟩ := tracks.intended
    exact ⟨intent, mem_append_left _ listed, isIntent⟩
  · rw [countP_append, tracks.sentOk, sentOk, countP_singleton]
    simp only [beq_iff_eq]
  · rw [countP_append, tracks.sentCallbacks, sentCallbacks, countP_singleton]
  · refine Table.forall_mem_concat (fun other listed isSent => ?_) told
    obtain ⟨counted, report, isTold, same⟩ := tracks.told other listed isSent
    exact ⟨counted, report, kept report isTold, same⟩

theorem Tracks.hear (follows : Follows subject.segmentCount heard report)
    (isCode : evidenceCode report.evidence = some row.evidenceCode)
    (isIndex : row.segmentIndex = report.segmentIndex)
    (isCount : row.segmentCount = report.segmentCount)
    (expected : Expected subject.segmentCount (heard ++ [report]) next.message.state) :
    Tracks subject (heard ++ [report]) next := by
  obtain ⟨_, isOther, _, unconflicted, sentIff, okIff⟩ := follows.code
  obtain rfl := some.inj (isCode.symm.trans isOther)
  refine tracks.concat isAttempt isEvents fenced account device
    (fun _ => mem_append_left _) unconflicted ?_ ?_ ?_ expected
  · rw [okCount_concat]
    simp only [okIff]
  · rw [← countP_isSentCallback, ← countP_isSentCallback, countP_append, countP_singleton, sentIff]
  · intro isSent
    rw [sentIff] at isSent
    refine ⟨isCount.trans ?_, report, mem_append_right _ (mem_singleton_self _), isSent,
      isIndex.symm⟩
    cases follows with
    | sent _ _ declared => exact declared
    | delivery isDelivery =>
      rw [isDelivery] at isSent
      cases isSent

theorem Tracks.timeout (isTimeout : row.evidenceCode.isTimeout)
    (expected : Expected subject.segmentCount heard next.message.state) :
    Tracks subject heard next := by
  have unsent : row.evidenceCode.isSentCallback = false ∧ row.evidenceCode ≠ .sentCallbackOk ∧
      row.evidenceCode ≠ .callbackConflict := by
    cases isCode : row.evidenceCode <;> rw [isCode] at isTimeout <;>
      first
        | decide
        | cases isTimeout
  refine tracks.concat isAttempt isEvents fenced account device (fun _ => id) unsent.2.2
    ?_ ?_ ?_ expected
  · simp [unsent.2.1]
  · simp [unsent.1]
  · simp [unsent.1]

end

end Reports

section Sweeps

variable {record : Record}

theorem reports_timedOut (reports : record.Reports deployment event code state fence)
    (isTimeout : code.isTimeout) :
    record.message.state = .submitted ∧ state = .deliveryUnknown := by
  have isEvidence : event.evidence = .deliveryTimeout := by
    have isCode := reports.isCode
    cases evidence : event.evidence <;> rw [evidence] at isCode <;>
      cases isCode <;>
        first
          | rfl
          | cases isTimeout
  cases (radioState_eq_ok_iff.mp reports.transition).2 with
  | failed wrong | lost wrong | complete wrong | waiting wrong =>
    cases isEvidence.symm.trans wrong
  | applied _ applied =>
    rw [isEvidence] at applied
    cases isState : record.message.state <;> rw [isState] at applied <;>
      cases applied
    exact ⟨rfl, rfl⟩

theorem Tracks.step {next : Record} (tracks : Tracks subject heard record)
    (coherent : record.Coherent)
    (step : record.Step deployment next) (isEvents : next.events = record.events ++ added)
    (timeouts : ∀ row ∈ added, row.evidenceCode.isTimeout) : Tracks subject heard next := by
  obtain ⟨fence, isFence, isHolder⟩ := tracks.fenced
  have granted : record.job.grantIssuedAt ≠ none := by
    intro ungranted
    cases (coherent.fence_eq_none ungranted).symm.trans isFence
  have expected := tracks.expected
  cases step with
  | reserve _ _ queued =>
    have outcome := coherent.fenced fence isFence
    rw [queued] at outcome
    cases outcome
  | claim ungranted | close _ ungranted | grant ungranted => exact absurd ungranted granted
  | release reports isProof =>
    have isCode := reports.isCode
    rw [isProof] at isCode
    cases isCode
    have isTimeout := timeouts _ (append_cancel_left isEvents ▸ mem_singleton_self _)
    cases isTimeout
  | follow reports _ _ =>
    have isTimeout := timeouts _ (append_cancel_left isEvents ▸ mem_singleton_self _)
    obtain ⟨submitted, unknown⟩ := reports_timedOut reports isTimeout
    rw [submitted] at expected
    obtain rfl := some.inj (isFence.symm.trans reports.fenced)
    refine tracks.timeout ?_ rfl ⟨_, rfl, isHolder⟩ rfl rfl isTimeout ?_
    · exact reports.holder.symm.trans isHolder
    · rw [unknown]
      exact expected.timeOut
  | @silence clock other attempt id isOther listed sameHolder silent =>
    obtain rfl := some.inj (isFence.symm.trans isOther)
    have submitting : record.message.state = .submitting := by
      simp only [isSilent, Bool.and_eq_true, Bool.or_eq_true, beq_iff_eq]
        at silent
      rcases silent.2 with ⟨⟨claimed, _⟩, _⟩ | ⟨⟨submitting, _⟩, _⟩
      · rw [claimed] at expected
        obtain ⟨_, isStatus, _⟩ := expected.attemptStatus_eq
        cases isStatus
      · exact submitting
    rw [submitting] at expected
    refine tracks.timeout ?_ rfl ⟨_, rfl, isHolder⟩ rfl rfl (silenceCode_isTimeout _)
      expected.silence
    exact sameHolder.trans isHolder
  | @timeOut clock other attempt id isOther listed sameHolder lacks =>
    obtain rfl := some.inj (isFence.symm.trans isOther)
    have submitted : record.message.state = .submitted := by
      simp only [lacksReceipt, Bool.and_eq_true, beq_iff_eq] at lacks
      exact lacks.1.1.1.1
    rw [submitted] at expected
    refine tracks.timeout ?_ rfl ⟨_, isFence, isHolder⟩ rfl rfl rfl expected.timeOut
    exact sameHolder.trans isHolder

end Sweeps

/-! ## The tables -/

/-- The tables after a part of the story was heard. -/
structure Listens (deployment : Deployment) (subject : Subject) (heard : List RadioEvent)
    (tables : Tables) : Prop where
  coherent : tables.Coherent
  attended : tables.Attended deployment
  record : ∃ record, tables.Holds subject.messageId record ∧ Tracks subject heard record
  answers : ∀ report ∈ heard, ∃ state, tables.Answers deployment report state

section Tables

variable {subject : Subject} {tables after : Tables}

/-- What was heard is answered again. -/
theorem Listens.again (listens : Listens deployment subject heard tables) (known : report ∈ heard) :
    ∃ state, (recordRadioEvent deployment directory clock report).commit
      tables = (.ok state, tables) := by
  obtain ⟨state, answers⟩ := listens.answers report known
  obtain ⟨value, isOk, -, unchanged⟩ :=
    (answers.leads listens.coherent).succeeds fun _ _ impossible => impossible
  exact ⟨value, Prod.ext isOk unchanged⟩

/-- An effect that adds nothing but timeouts. -/
theorem Listens.swept (listens : Listens deployment subject heard tables)
    (swept : Swept deployment directory limit fresh tables after) :
    Listens deployment subject heard after := by
  obtain ⟨record, holds, tracks⟩ := listens.record
  obtain ⟨added, isAdded, timeouts⟩ := swept.events
  refine ⟨swept.effect.coherent listens.coherent, swept.effect.attended listens.attended, ?_, ?_⟩
  · rcases swept.effect.touches listens.coherent subject.messageId with
      agrees | ⟨other, next, isOther, sound, isNext, step⟩
    · exact ⟨record, agrees.holds holds, tracks⟩
    · obtain rfl := holds.eq isOther
      have isEvents : next.events = record.events ++
          added.filter (·.messageId == subject.messageId) := by
        rw [← isNext.events, isAdded, filter_append, holds.events]
      refine ⟨next, isNext, tracks.step sound step isEvents ?_⟩
      exact fun row listed => (timeouts row (mem_of_mem_filter listed)).1
  · intro told isTold
    obtain ⟨state, answers⟩ := listens.answers told isTold
    exact ⟨state, (Tables.Answers.preserved told state).effect
      listens.coherent answers swept.effect⟩

/-- While an attempt keeps its device busy, no other one does. -/
theorem deviceFree_of_active (coherent : tables.Coherent) (present : fence ∈ tables.fences)
    (active : fence.outcome.isActive) :
    tables.DeviceFree fence.deviceId fence.attemptId := by
  intro other listed sameDevice different
  have unique := coherent.fencesUnique activeDeviceIndex (by simp [fenceIndexes])
  by_contra busy
  have same := Table.Unique.eq_of_key unique listed present
    (activeDevice_key_iff.mpr ⟨by simpa using busy, sameDevice⟩)
    (activeDevice_key_iff.mpr ⟨active, rfl⟩)
  exact different (congrArg DispatchFence.attemptId same)

/-- An attempt whose callbacks are awaited may take any status, and another one
may take any status that does not keep its device busy. -/
theorem fences_record_of_awaits {id : Uuid} {status : AttemptStatus}
    (coherent : tables.Coherent) (holds : tables.Holds id record)
    (isFence : record.fence = some fence) (active : status.isActive →
      awaitsCallbacks record.message.state) :
    ∀ index ∈ fenceIndexes, Table.Unique index (Table.update (·.attemptId == fence.attemptId)
        (DispatchFence.record status) tables.fences) := by
  have present := (holds.mem_fence isFence).1
  refine (coherent.fences_record_iff present).mpr fun isActive => ?_
  refine deviceFree_of_active coherent present ?_
  have outcome := (coherent.sound holds).fenced fence isFence
  rcases awaitsCallbacks_iff.mp (active isActive) with isState | isState
  all_goals
    rw [isState] at outcome
    rw [← some.inj outcome]
    rfl

theorem observed_of_timely (timely : validateRadioTimestamp observedAtMs createdMs nowMs = .ok ()) :
    0 < observedAtMs := by
  unfold validateRadioTimestamp at timely
  split_ifs at timely with refused
  push Not at refused
  exact refused.1

section Upload

variable {report : RadioEvent} (unrecorded : ∀ other ∈ tables.events, other.id ≠ report.eventId)

include unrecorded in
theorem effect_of_recorded (recorded : Recorded deployment directory report tables state after) :
    Effect deployment directory tables after ∧ ∃ row, after.events = tables.events ++ [row] ∧
        row.id = report.eventId := by
  cases recorded with
  | known _ _ _ present isId => exact absurd isId (unrecorded _ present)
  | fresh _ appended effect => exact ⟨effect, _, appended, rfl⟩

variable (follows : Follows subject.segmentCount heard report)

include follows

theorem Follows.wellFormed (observed : 0 < report.observedAtMs) :
    malformedRadioEvent report = false := by
  have few := subject.few
  cases follows with
  | sent isSent isIndex isCount lower upper =>
    simp only [malformedRadioEvent, isIndex, isCount, isSent, any_some, isSome_some]
    simp
    omega
  | delivery isDelivery isIndex isCount =>
    simp [malformedRadioEvent, isIndex, isCount, isDelivery, Delivery.isSentCallback, observed]

variable (owns : subject.Owns report)

include owns

theorem Tracks.segmentFree {code : EvidenceCode} (tracks : Tracks subject heard record)
    (coherent : tables.Coherent) (holds : tables.Holds subject.messageId record)
    (isCode : evidenceCode report.evidence = some code) (isSent : code.isSentCallback) :
    tables.SegmentFree report := by
  intro other listed isAttempt wasSent same
  obtain ⟨fence, isFence, isHolder⟩ := tracks.fenced
  have own : other ∈ subject.rows record := by
    have rows := coherent.fence_events holds (coherent.sound holds) isFence
    rw [isHolder] at rows
    unfold Subject.rows
    rw [← rows]
    exact mem_filter.mpr ⟨listed, beq_iff_eq.mpr (isAttempt.trans owns.attempt)⟩
  obtain ⟨_, told, isTold, toldSent, sameIndex⟩ := tracks.told other own wasSent
  obtain ⟨_, isOther, _, _, sentIff, _⟩ := follows.code
  cases isCode.symm.trans isOther
  cases follows with
  | sent _ isIndex _ _ _ unheard _ =>
    exact unheard told isTold toldSent (sameIndex.trans (same.trans isIndex))
  | delivery isDelivery =>
    rw [sentIff, isDelivery] at isSent
    cases isSent

variable {clock : Clock} (timely : ∀ attempt ∈ tables.attempts, attempt.id = report.attemptId →
    validateRadioTimestamp report.observedAtMs (toMillis attempt.createdAt)
      (toMillis (clock.reading 0)) = .ok ())

include unrecorded timely

/-- What was checked before the next report of a story is recorded. -/
theorem Tracks.freshReport (tracks : Tracks subject heard record) (coherent : tables.Coherent)
    (holds : tables.Holds subject.messageId record) :
    FreshReport clock tables report := by
  have sound := coherent.sound holds
  obtain ⟨fence, isFence, isHolder⟩ := tracks.fenced
  obtain ⟨present, isMessage⟩ := holds.mem_fence isFence
  obtain ⟨isAccount, isDevice⟩ := sound.fenceOwner fence isFence
  obtain ⟨attempt, own, isAttempt⟩ := sound.holder fence isFence
  refine ⟨unrecorded, follows.wellFormed ?_, timely, fence, present, ?_, ?_, ?_, ?_⟩
  · refine observed_of_timely (timely attempt (holds.mem_attempts.mp own).1 ?_)
    rw [isAttempt, isHolder, owns.attempt]
  · rw [isHolder, owns.attempt]
  · rw [isAccount, tracks.account, owns.account]
  · rw [isMessage, owns.message]
  · rw [isDevice, tracks.device, owns.device]

/-- What comes next in the story is accepted. -/
theorem Listens.upload (listens : Listens deployment subject heard tables)
    (story : Story subject.segmentCount heard) :
    ∃ state after, (recordRadioEvent deployment directory clock report).commit tables =
        (.ok state, after) ∧
      Listens deployment subject (heard ++ [report]) after ∧
      ∃ row, after.events = tables.events ++ [row] ∧ row.id = report.eventId := by
  have coherent := listens.coherent
  obtain ⟨record, holds, tracks⟩ := listens.record
  obtain ⟨fence, isFence, isHolder⟩ := tracks.fenced
  obtain ⟨code, isCode, notProof, _⟩ := follows.code
  obtain ⟨next, transition, expected, active⟩ :=
    tracks.expected.accepts story follows (tracks.hears follows.declared)
  obtain ⟨status, isStatus, isActive⟩ := expected.attemptStatus_eq
  have fresh := tracks.freshReport unrecorded follows owns timely coherent holds
  have holder : fence.attemptId = report.attemptId := isHolder.trans owns.attempt.symm
  have unique := fences_record_of_awaits coherent holds isFence
    (fun busy => active (isActive.mp busy))
  rw [← owns.attempt] at transition
  rw [← owns.message] at holds
  have leads : Leads (recordRadioEvent deployment directory clock report) _ _
      tables :=
    fresh.leads coherent listens.attended holds isCode transition notProof
      isStatus (tracks.segmentFree follows owns coherent (owns.message ▸ holds) isCode)
  obtain ⟨value, isOk, rfl, isAfter, -⟩ := leads.succeeds (by
    rintro _ _ ⟨index, broken, -⟩
    have rewritten := Table.rewrite_eq_ok_iff.mpr ⟨rfl, unique⟩
    rw [holder] at rewritten
    cases broken.symm.trans rewritten)
  obtain ⟨entered, recorded⟩ := (recordRadioEvent_leads_recorded report).of_commit isOk
  rw [isAfter] at recorded
  obtain ⟨effect, appended⟩ := effect_of_recorded unrecorded recorded
  refine ⟨value, _, Prod.ext isOk isAfter, ⟨effect.coherent coherent,
    effect.attended listens.attended, ?_, ?_⟩, appended⟩
  · rw [← owns.message]
    refine ⟨_, holds.follow deployment code status (tracks.account.trans owns.account.symm)
      isFence holder, ?_⟩
    refine tracks.hear owns.attempt rfl ⟨fence.record status, rfl, isHolder⟩ ?_ ?_ follows isCode
      ?_ ?_ expected
    all_goals rfl
  · refine Table.forall_mem_concat (fun told isTold => ?_)
      ⟨value, recorded.answers coherent entered⟩
    obtain ⟨state, answers⟩ := listens.answers told isTold
    exact ⟨state, (Tables.Answers.preserved told state).effect coherent answers effect⟩

end Upload

end Tables

section Beginning

variable {after : Tables}

/-- Nothing was reported about an attempt that was just granted. -/
def Unreported (record : Record) : Prop := record.message.state = .claimed →
    ∀ fence, record.fence = some fence → ∀ row ∈ record.events, row.attemptId ≠ fence.attemptId

variable {next : Record}

theorem Unreported.step (coherent : record.Coherent) (unreported : Unreported record)
    (step : record.Step deployment next) : Unreported next := by
  cases step with
  | reserve => exact unreported
  | claim ungranted | close _ ungranted =>
    intro _ fence isFence
    cases (coherent.fence_eq_none ungranted).symm.trans isFence
  | grant _ _ _ _ holder _ _ free =>
    rintro _ _ ⟨⟩ row listed isAttempt
    obtain ⟨attempt, own, isOwn⟩ := coherent.eventAttempt row listed
    exact free attempt own (isOwn.trans (isAttempt.trans holder))
  | release => rintro _ _ ⟨⟩
  | @follow clock event code state fence status reports notProof isStatus =>
    intro (claimed : state = .claimed)
    rw [claimed] at isStatus
    cases isStatus
  | silence | timeOut => rintro ⟨⟩

theorem run_unreported (deployment : Deployment) (directory : Directory)
    (steps : List Delivery.Step) (id : Uuid) (record : Record)
    (holds : ((World.start directory).run deployment steps).tables.Holds id record) :
    Unreported record := by
  refine World.run_records ?_ Unreported.step holds
  intro clock row queued claimed
  cases queued.symm.trans claimed

theorem radioState_intent (isIntent : report.evidence = .durableSubmitIntent)
    (transition : radioState current report prior = .ok state) :
    current = .claimed ∧ state = .submitting := by
  cases (radioState_eq_ok_iff.mp transition).2 with
  | failed wrong | lost wrong | complete wrong | waiting wrong =>
    cases isIntent.symm.trans wrong
  | applied _ applied =>
    rw [isIntent] at applied
    cases current <;> cases applied
    exact ⟨rfl, rfl⟩

theorem Tracks.begin {row : MessageEvent} (unreported : subject.rows record = [])
    (isCode : row.evidenceCode = .durableIntent) (isAttempt : row.attemptId = subject.attemptId)
    (isEvents : next.events = record.events ++ [row]) (fenced : ∃ fence, next.fence = some fence ∧
      fence.attemptId = subject.attemptId)
    (account : next.message.accountId = subject.accountId)
    (device : next.message.deviceId = subject.deviceId)
    (isIntent : report.evidence = .durableSubmitIntent)
    (submitting : next.message.state = .submitting) : Tracks subject [report] next := by
  have few := subject.few
  have rows : subject.rows next = [row] := by
    rw [Subject.rows_concat isAttempt isEvents, unreported, nil_append]
  refine ⟨fenced, account, device, ?_, ?_, ?_, ?_, ?_, ?_⟩
  · simp [rows, isCode]
  · simp [rows, isCode]
  · simp [rows, isCode, okCount, isIntent]
  · simp [rows, isCode, okCount, failedCount, isIntent, EvidenceCode.isSentCallback]
  · simp [rows, isCode, EvidenceCode.isSentCallback]
  · rw [submitting]
    unfold Expected
    rw [if_neg (by simp [tellsDelivery, isIntent]), if_neg, if_pos]
    · exact .inl rfl
    · simp [failedCount, isIntent]
    · simp only [okCount, isIntent, countP_singleton]
      simp
      omega

/-- An intent that is accepted begins a story. -/
theorem Listens.begin (coherent : tables.Coherent) (attended : tables.Attended deployment)
    (unreported : ∀ record, tables.Holds subject.messageId record → Unreported record)
    (owns : subject.Owns report) (isIntent : report.evidence = .durableSubmitIntent)
    (unrecorded : ∀ other ∈ tables.events, other.id ≠ report.eventId)
    (accepted : (recordRadioEvent deployment directory clock report).commit
      tables = (.ok state, after)) :
    Listens deployment subject [report] after := by
  obtain ⟨isOk, isAfter⟩ := Prod.ext_iff.mp accepted
  simp only at isAfter
  have fresh := FreshReport.of_accepted coherent unrecorded isOk
  obtain ⟨entered, recorded⟩ := (recordRadioEvent_leads_recorded report).of_commit isOk
  rw [isAfter] at recorded
  obtain ⟨effect, -⟩ := effect_of_recorded unrecorded recorded
  have answered := recorded.answers coherent entered
  refine ⟨effect.coherent coherent, effect.attended attended, ?_, ?_⟩
  · cases recorded with
    | known _ _ _ present isId => exact absurd isId (unrecorded _ present)
    | fresh recording =>
      obtain ⟨record, fence, holds, sound, owner, reports⟩ := recording.reports coherent
      obtain ⟨claimed, rfl⟩ := radioState_intent isIntent reports.transition
      have isCode := reports.isCode
      rw [isIntent] at isCode
      cases isCode
      obtain ⟨-, isFollow, -⟩ := (fresh.leads coherent attended holds reports.isCode
        reports.transition (by rw [isIntent]; decide)
        (rfl : attemptStatus _ = some .submitting) nofun).of_commit isOk
      rw [isAfter] at isFollow
      obtain ⟨other, present, _, _, isMessage, isDevice⟩ := fresh.fenced
      obtain rfl := some.inj (reports.fenced.symm.trans (holds.fence_eq present isMessage))
      have device := (sound.fenceOwner fence reports.fenced).2
      have untold : subject.rows record = [] := by
        refine filter_eq_nil_iff.mpr fun row listed isAttempt => ?_
        rw [owns.message] at holds
        refine unreported record holds claimed fence reports.fenced row listed ?_
        rw [beq_iff_eq.mp isAttempt, reports.holder, owns.attempt]
      rw [isFollow, ← owns.message]
      exact ⟨_, holds.follow deployment .durableIntent .submitting owner
        reports.fenced reports.holder,
        Tracks.begin untold rfl owns.attempt rfl ⟨_, rfl, reports.holder.trans owns.attempt⟩
          (owner.trans owns.account)
          (device.symm.trans (isDevice.trans owns.device)) isIntent rfl⟩
  · exact forall_mem_singleton.mpr ⟨state, answered⟩

end Beginning

end Zrotext.Exchange
