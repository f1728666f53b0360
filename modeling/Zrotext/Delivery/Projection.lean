import Zrotext.Delivery.Record

/-!
# From tables to records

The tables describe each message by one record, and each effect on the tables
changes every record by at most one step.
-/

namespace Zrotext.Delivery

open Domain Foundation List Table

/-! ## What the tables hold about a message -/

/-- The tables hold this record of a message, and nothing else about it. -/
structure Tables.Holds (tables : Tables) (id : Uuid) (record : Record) : Prop where
  messages : tables.messages.filter (·.id == id) = [record.message]
  jobs : tables.jobs.filter (·.messageId == id) = [record.job]
  fences : tables.fences.filter (·.messageId == id) = record.fence.toList
  attempts : tables.attempts.filter (·.messageId == id) = record.attempts
  events : tables.events.filter (·.messageId == id) = record.events
  ledger : tables.ledger.filter (·.messageId == id) = record.ledger

/-- The tables know nothing about a message. -/
structure Tables.Lacks (tables : Tables) (id : Uuid) : Prop where
  messages : tables.messages.filter (·.id == id) = []
  jobs : tables.jobs.filter (·.messageId == id) = []
  fences : tables.fences.filter (·.messageId == id) = []
  attempts : tables.attempts.filter (·.messageId == id) = []
  events : tables.events.filter (·.messageId == id) = []
  ledger : tables.ledger.filter (·.messageId == id) = []

/-- Each message has a coherent record, and the unique indexes hold. -/
structure Tables.Coherent (tables : Tables) : Prop where
  described : ∀ id, tables.Lacks id ∨ ∃ record, tables.Holds id record ∧ record.Coherent
  attemptsUnique : ∀ index ∈ attemptIndexes, Table.Unique index tables.attempts
  fencesUnique : ∀ index ∈ fenceIndexes, Table.Unique index tables.fences
  eventsUnique : ∀ index ∈ eventIndexes, Table.Unique index tables.events

section Holds

variable {tables : Tables} {id : Uuid}

section

variable (holds : tables.Holds id record)

include holds

theorem Tables.Holds.eq (holdsOther : tables.Holds id other) : record = other := by
  have messages := holds.messages.symm.trans holdsOther.messages
  have jobs := holds.jobs.symm.trans holdsOther.jobs
  have fences := holds.fences.symm.trans holdsOther.fences
  have attempts := holds.attempts.symm.trans holdsOther.attempts
  have events := holds.events.symm.trans holdsOther.events
  have ledger := holds.ledger.symm.trans holdsOther.ledger
  rw [singleton_inj] at messages jobs
  have fence : record.fence = other.fence := by
    have heads := congrArg head? fences
    rwa [Option.head?_toList, Option.head?_toList] at heads
  cases record
  cases other
  simp_all

theorem Tables.Holds.message_mem : record.message ∈ tables.messages ∧ record.message.id = id :=
  (mem_part holds.messages).mp (mem_singleton_self _)

theorem Tables.Holds.job_mem : record.job ∈ tables.jobs ∧ record.job.messageId = id :=
  (mem_part holds.jobs).mp (mem_singleton_self _)

theorem Tables.Holds.message_eq (present : message ∈ tables.messages) (isId : message.id = id) :
    record.message = message :=
  (mem_singleton.mp ((mem_part holds.messages).mpr ⟨present, isId⟩)).symm

theorem Tables.Holds.job_eq (present : job ∈ tables.jobs) (isId : job.messageId = id) :
    record.job = job :=
  (mem_singleton.mp ((mem_part holds.jobs).mpr ⟨present, isId⟩)).symm

theorem Tables.Holds.fence_iff :
    record.fence = some fence ↔ fence ∈ tables.fences ∧ fence.messageId = id := by
  rw [← mem_part holds.fences, Option.mem_toList]

theorem Tables.Holds.fence_eq (present : fence ∈ tables.fences)
    (isId : fence.messageId = id) : record.fence = some fence :=
  holds.fence_iff.mpr ⟨present, isId⟩

theorem Tables.Holds.mem_fence (isFence : record.fence = some fence) :
    fence ∈ tables.fences ∧ fence.messageId = id :=
  holds.fence_iff.mp isFence

theorem Tables.Holds.mem_attempts :
    attempt ∈ record.attempts ↔ attempt ∈ tables.attempts ∧ attempt.messageId = id :=
  mem_part holds.attempts

theorem Tables.Holds.mem_events :
    event ∈ record.events ↔ event ∈ tables.events ∧ event.messageId = id :=
  mem_part holds.events

theorem Tables.Holds.mem_ledger :
    entry ∈ record.ledger ↔ entry ∈ tables.ledger ∧ entry.messageId = id :=
  mem_part holds.ledger

end

end Holds

section Coherent

variable {tables : Tables}

section

variable (coherent : tables.Coherent)

include coherent

theorem Tables.Coherent.sound {id : Uuid} (holds : tables.Holds id record) : record.Coherent := by
  rcases coherent.described id with lacks | ⟨other, isOther, sound⟩
  · cases lacks.messages.symm.trans holds.messages
  · rw [holds.eq isOther]
    exact sound

theorem Tables.Coherent.record_of {ρ : Type} {key : ρ → Uuid} {row : ρ} {rows : List ρ}
    (present : row ∈ rows) (absent : ∀ id, tables.Lacks id → rows.filter (key · == id) = []) :
    ∃ record, tables.Holds (key row) record ∧ record.Coherent := by
  rcases coherent.described (key row) with lacks | described
  · cases (mem_part (absent _ lacks)).mpr ⟨present, rfl⟩
  · exact described

theorem Tables.Coherent.record_of_message (present : message ∈ tables.messages) :
    ∃ record, tables.Holds message.id record ∧ record.Coherent ∧ record.message = message := by
  obtain ⟨record, holds, sound⟩ := coherent.record_of present fun _ lacks => lacks.messages
  exact ⟨record, holds, sound, holds.message_eq present rfl⟩

theorem Tables.Coherent.record_of_fence (present : fence ∈ tables.fences) :
    ∃ record, tables.Holds fence.messageId record ∧ record.Coherent ∧
      record.fence = some fence := by
  obtain ⟨record, holds, sound⟩ := coherent.record_of present fun _ lacks => lacks.fences
  exact ⟨record, holds, sound, holds.fence_eq present rfl⟩

theorem Tables.Coherent.record_of_event (present : event ∈ tables.events) :
    ∃ record, tables.Holds event.messageId record ∧ record.Coherent ∧ event ∈ record.events := by
  obtain ⟨record, holds, sound⟩ := coherent.record_of present fun _ lacks => lacks.events
  exact ⟨record, holds, sound, holds.mem_events.mpr ⟨present, rfl⟩⟩

theorem Tables.Coherent.messages_le_one (id : Uuid) :
    (tables.messages.filter (·.id == id)).length ≤ 1 := by
  rcases coherent.described id with lacks | ⟨record, holds, _⟩
  · rw [lacks.messages]
    exact Nat.zero_le 1
  · rw [holds.messages]
    exact Nat.le_refl 1

theorem Tables.Coherent.attempt_eq (present : attempt ∈ tables.attempts)
    (otherPresent : other ∈ tables.attempts)
    (same : attempt.id = other.id) : attempt = other := by
  have unique := coherent.attemptsUnique _ mem_cons_self
  exact Table.Unique.eq_of_key unique present otherPresent rfl (congrArg some same.symm)

theorem Tables.Coherent.fence_eq (present : fence ∈ tables.fences)
    (otherPresent : other ∈ tables.fences)
    (same : fence.attemptId = other.attemptId) : fence = other := by
  have unique := coherent.fencesUnique _ (mem_cons_of_mem _ mem_cons_self)
  exact Table.Unique.eq_of_key unique present otherPresent rfl (congrArg some same.symm)

theorem Tables.Coherent.event_message (present : event ∈ tables.events)
    (listed : attempt ∈ tables.attempts)
    (isAttempt : attempt.id = event.attemptId) : event.messageId = attempt.messageId := by
  obtain ⟨record, holds, sound, recorded⟩ := coherent.record_of_event present
  obtain ⟨own, ownListed, isOwn⟩ := sound.eventAttempt event recorded
  obtain ⟨ownPresent, ownMessage⟩ := holds.mem_attempts.mp ownListed
  rw [coherent.attempt_eq listed ownPresent (isAttempt.trans isOwn.symm)]
  exact ownMessage.symm

theorem Tables.Coherent.attempt_events
    (listed : attempt ∈ tables.attempts) (holds : tables.Holds attempt.messageId record) :
    tables.events.filter (·.attemptId == attempt.id) =
      record.events.filter (·.attemptId == attempt.id) := by
  rw [← holds.events, filter_filter]
  refine filter_congr fun event present => ?_
  by_cases isAttempt : event.attemptId = attempt.id
  · have isMessage := coherent.event_message present listed isAttempt.symm
    simp [isMessage]
  · simp [isAttempt]

theorem Tables.Coherent.fence_events {id : Uuid} (holds : tables.Holds id record)
    (sound : record.Coherent)
    (isFence : record.fence = some fence) : tables.events.filter (·.attemptId == fence.attemptId) =
      record.events.filter (·.attemptId == fence.attemptId) := by
  obtain ⟨attempt, own, isAttempt⟩ := sound.holder fence isFence
  obtain ⟨listed, isMessage⟩ := holds.mem_attempts.mp own
  rw [← isAttempt]
  exact coherent.attempt_events listed (isMessage ▸ holds)

end

/-- What a row of the join of messages, fences and attempts is made of. -/
theorem mem_fencedAttempts_iff : row ∈ tables.fencedAttempts ↔
      row.message ∈ tables.messages ∧ row.fence ∈ tables.fences ∧ row.attempt ∈ tables.attempts ∧
        row.fence.accountId = row.message.accountId ∧ row.fence.messageId = row.message.id ∧
        row.attempt.id = row.fence.attemptId := by
  obtain ⟨message, fence, attempt⟩ := row
  simp only [Tables.fencedAttempts, mem_flatMap, mem_map,
    mem_filter, Bool.and_eq_true, beq_iff_eq, FencedAttempt.mk.injEq]
  constructor
  · rintro ⟨_, stored, _, ⟨fenced, owner, named⟩, _, ⟨listed, holder⟩, rfl, rfl,
      rfl⟩
    exact ⟨stored, fenced, listed, owner, named, holder⟩
  · rintro ⟨stored, fenced, listed, owner, named, holder⟩
    exact ⟨message, stored, fence, ⟨fenced, owner, named⟩, attempt, ⟨listed, holder⟩, rfl, rfl, rfl⟩

theorem Tables.Coherent.record_of_row (coherent : tables.Coherent)
    (listed : row ∈ tables.fencedAttempts) :
    ∃ record, tables.Holds row.message.id record ∧ record.Coherent ∧
      record.message = row.message ∧ record.fence = some row.fence ∧ row.attempt ∈ record.attempts ∧
      row.attempt.id = row.fence.attemptId := by
  obtain ⟨stored, fenced, present, owner, named, isHolder⟩ := mem_fencedAttempts_iff.mp listed
  obtain ⟨record, holds, sound, isMessage⟩ := coherent.record_of_message stored
  have isFence := holds.fence_eq fenced named
  obtain ⟨attempt, attemptListed, isAttempt⟩ := sound.holder _ isFence
  have same : row.attempt = attempt := coherent.attempt_eq present
    (holds.mem_attempts.mp attemptListed).1 (isHolder.trans isAttempt.symm)
  exact ⟨record, holds, sound, isMessage, isFence, same ▸ attemptListed, isHolder⟩

end Coherent

/-! ## Effects on records -/

/-- The tables say the same about a message. -/
structure Tables.Agrees (tables after : Tables) (id : Uuid) : Prop where
  messages : after.messages.filter (·.id == id) = tables.messages.filter (·.id == id)
  jobs : after.jobs.filter (·.messageId == id) = tables.jobs.filter (·.messageId == id)
  fences : after.fences.filter (·.messageId == id) = tables.fences.filter (·.messageId == id)
  attempts : after.attempts.filter (·.messageId == id) = tables.attempts.filter (·.messageId == id)
  events : after.events.filter (·.messageId == id) = tables.events.filter (·.messageId == id)
  ledger : after.ledger.filter (·.messageId == id) = tables.ledger.filter (·.messageId == id)

/-- The record of a message changes by one step. -/
def Tables.Steps (deployment : Deployment) (tables after : Tables) (id : Uuid) : Prop :=
  ∃ record next, tables.Holds id record ∧ record.Coherent ∧
    after.Holds id next ∧ record.Step deployment next

/-- The record of a message changes by at most one step. -/
abbrev Tables.Touches (deployment : Deployment) (tables after : Tables) (id : Uuid) : Prop :=
  tables.Agrees after id ∨ tables.Steps deployment after id

section Effects

variable {tables after : Tables} {id : Uuid} {clock : Clock}

theorem filter_append_of_ne {ρ : Type} {key : ρ → Uuid} {rows : List ρ} {row : ρ}
    (different : key row ≠ id) : (rows ++ [row]).filter (fun other => key other == id) =
      rows.filter (fun other => key other == id) := by
  rw [filter_append, filter_cons_of_neg (by simpa using different), filter_nil, append_nil]

theorem filter_append_of_eq {ρ : Type} {key : ρ → Uuid} {rows : List ρ} {row : ρ}
    (same : key row = id) : (rows ++ [row]).filter (fun other => key other == id) =
      rows.filter (fun other => key other == id) ++ [row] := by
  rw [filter_append, filter_cons_of_pos (by simpa using same), filter_nil]

theorem reserved_touches (coherent : tables.Coherent)
    (reserving : Reserving deployment directory clock tables entry periods) :
    tables.Touches deployment
      { tables with periods, ledger := tables.ledger ++ [entry] } id := by
  by_cases isTarget : entry.messageId = id
  · right
    obtain ⟨message, stored, owner, named, queued⟩ := reserving.queued
    obtain ⟨record, holds, sound, rfl⟩ := coherent.record_of_message stored
    rw [named, isTarget] at holds
    refine ⟨record, _, holds, sound, ?_, .reserve reserving.kind owner.symm queued ?_⟩
    · refine { holds with ledger := ?_ }
      rw [filter_append_of_eq isTarget, holds.ledger]
    · intro other listed isReserve
      obtain ⟨present, isId⟩ := holds.mem_ledger.mp listed
      exact reserving.free other present ((sound.ledgerOwner other listed).trans owner)
        (isId.trans isTarget.symm) isReserve
  · left
    exact ⟨rfl, rfl, rfl, rfl, rfl, filter_append_of_ne isTarget⟩

theorem claimed_touches (coherent : tables.Coherent) (claiming : Claiming tables job message) :
    tables.Touches deployment (tables.lease clock workerId job) id := by
  by_cases isTarget : job.messageId = id
  · right
    obtain ⟨record, holds, sound, rfl⟩ := coherent.record_of_message claiming.stored
    rw [claiming.joined, isTarget] at holds
    have isJob := holds.job_eq claiming.listed isTarget
    have owner : record.message.accountId = job.accountId := by
      rw [← isJob, sound.jobOwner]
    refine ⟨record, _, holds, sound, ?_, @Record.Step.claim _ _ clock workerId
      (isJob ▸ claiming.ungranted) claiming.pending⟩
    refine { holds with messages := ?_, jobs := ?_ }
    · refine filter_update_of_selected holds.messages ?_
      simp [owner, holds.message_mem.2, isTarget, claiming.pending]
    · refine filter_update_of_selected holds.jobs ?_
      simp [isJob]
  · left
    exact ⟨filter_update_of_ne isTarget, filter_update_of_ne isTarget, rfl, rfl, rfl, rfl⟩

theorem isRefunded_filter {entry : LedgerEntry} (isId : entry.messageId = id)
    (ledger : List LedgerEntry) : isRefunded (ledger.filter (·.messageId == id)) entry =
      isRefunded ledger entry := by
  unfold isRefunded
  rw [any_filter]
  congr 1
  funext other
  rw [isId]
  cases other.messageId == id <;> simp

theorem pendingRefunds_filter (selects : LedgerEntry → Bool) (ledger : List LedgerEntry) :
    (pendingRefunds selects ledger).filter (·.messageId == id) =
      pendingRefunds selects (ledger.filter (·.messageId == id)) := by
  unfold pendingRefunds
  rw [filter_map, filter_filter, filter_filter]
  congr 1
  refine filter_congr fun entry _ => ?_
  by_cases isId : entry.messageId = id
  · simp [isId, isRefunded_filter isId]
  · rw [beq_eq_false_iff_ne.mpr isId, Bool.and_false]
    simp [isId]

theorem pendingRefunds_congr (same : ∀ entry ∈ ledger, selects entry = others entry) :
    pendingRefunds selects ledger = pendingRefunds others ledger := by
  unfold pendingRefunds
  congr 1
  refine filter_congr fun entry present => ?_
  rw [same entry present]

theorem pendingRefunds_of_unselected (unselected : ∀ entry ∈ ledger, selects entry = false) :
    pendingRefunds selects ledger = [] := by
  unfold pendingRefunds
  rw [filter_eq_nil_iff.mpr, map_nil]
  intro entry present
  simp [unselected entry present]

/-- A message that none of the closed ones is keeps what the tables say. -/
theorem close_agrees
    (messages : ∀ row ∈ tables.messages, row.id = id → selects row.accountId id = false)
    (jobs : ∀ row ∈ tables.jobs, row.messageId = id → selects row.accountId id = false)
    (ledger : ∀ row ∈ tables.ledger, row.messageId = id → selects row.accountId id = false) :
    tables.Agrees (tables.close selects state messageAt jobAt) id := by
  refine ⟨?_, ?_, rfl, rfl, rfl, ?_⟩
  · refine filter_update_of_unselected fun row present isId => ?_
    rw [isId]
    exact messages row present isId
  · refine filter_update_of_unselected fun row present isId => ?_
    rw [isId]
    exact jobs row present isId
  · unfold Tables.close
    rw [filter_append, pendingRefunds_filter, pendingRefunds_of_unselected, append_nil]
    intro entry present
    obtain ⟨listed, isId⟩ := (mem_part rfl).mp present
    rw [isId]
    exact ledger entry listed isId

theorem closed_touches (coherent : tables.Coherent) (isEnd : state = .cancelled ∨ state = .expired)
    (closable : ∀ accountId messageId, selects accountId messageId →
      Closable tables accountId messageId) :
    tables.Touches deployment (tables.close selects state messageAt jobAt) id := by
  rcases coherent.described id with lacks | ⟨record, holds, sound⟩
  · left
    apply close_agrees
    · intro row present isId
      cases (mem_part lacks.messages).mpr ⟨present, isId⟩
    · intro row present isId
      cases (mem_part lacks.jobs).mpr ⟨present, isId⟩
    · intro row present isId
      cases (mem_part lacks.ledger).mpr ⟨present, isId⟩
  · cases selected : selects record.message.accountId id with
    | false =>
      left
      apply close_agrees
      · intro row present isId
        rw [← holds.message_eq present isId]
        exact selected
      · intro row present isId
        rw [← holds.job_eq present isId, sound.jobOwner]
        exact selected
      · intro row present isId
        rw [sound.ledgerOwner row (holds.mem_ledger.mpr ⟨present, isId⟩)]
        exact selected
    | true =>
      right
      have isClosable := closable _ _ selected
      obtain ⟨job, jobPresent, _, isJobId, ungranted⟩ := isClosable.job
      obtain ⟨message, present, _, isId, pending⟩ := isClosable.message
      have isJob := holds.job_eq jobPresent isJobId
      have isMessage := holds.message_eq present isId
      refine ⟨record, _, holds, sound, ?_, @Record.Step.close _ _ state
        messageAt jobAt isEnd (isJob ▸ ungranted) (isMessage ▸ pending)⟩
      refine { holds with messages := ?_, jobs := ?_, ledger := ?_ }
      · refine filter_update_of_selected holds.messages ?_
        simp [holds.message_mem.2, selected]
      · refine filter_update_of_selected holds.jobs ?_
        simp [holds.job_mem.2, sound.jobOwner, selected]
      · unfold Tables.close
        rw [filter_append, pendingRefunds_filter, holds.ledger]
        congr 1
        refine pendingRefunds_congr fun entry listed => ?_
        rw [sound.ledgerOwner entry listed, (holds.mem_ledger.mp listed).2]
        exact selected

theorem granted_touches (coherent : tables.Coherent)
    (granting : Granting deployment directory clock tables claim session attemptId recipientDigest
      grantExpiresAt) :
    tables.Touches deployment
      (tables.grant directory clock claim session attemptId recipientDigest grantExpiresAt)
      id := by
  by_cases isTarget : claim.messageId = id
  · right
    obtain ⟨job, listed, owner, isJobId, device, ungranted⟩ := granting.job
    obtain ⟨message, stored, named, claimed⟩ := granting.message
    obtain ⟨record, holds, sound, rfl⟩ := coherent.record_of_message stored
    rw [named, isTarget] at holds
    have isJob := holds.job_eq listed (isJobId.trans isTarget)
    have noFence := sound.fence_eq_none (isJob ▸ ungranted)
    refine ⟨record, _, holds, sound, ?_, @Record.Step.grant _ _ clock
      (grantedAttempt directory clock claim session attemptId)
      (grantedFence directory claim session attemptId recipientDigest grantExpiresAt)
      (isJob ▸ ungranted) claimed ?_ ?_ rfl rfl rfl ?_⟩
    · refine { holds with jobs := ?_, fences := ?_, attempts := ?_ }
      · refine filter_update_of_selected holds.jobs ?_
        simp [holds.job_mem.2, isTarget]
      · refine (filter_append_of_eq (by exact isTarget)).trans ?_
        rw [holds.fences, noFence]
        rfl
      · refine (filter_append_of_eq (by exact isTarget)).trans ?_
        rw [holds.attempts]
    · rw [← sound.jobOwner, isJob]
      exact owner.symm
    · rw [← sound.jobDevice, isJob]
      exact device.symm
    · intro other present isAttempt
      have free := granting.attemptFree _ mem_cons_self other (holds.mem_attempts.mp present).1
      exact Table.Index.on_free_iff.mp free attemptId rfl (congrArg some isAttempt)
  · left
    exact ⟨rfl, filter_update_of_ne isTarget,
      filter_append_of_ne isTarget, filter_append_of_ne isTarget, rfl, rfl⟩

section Recording

variable {next : MessageState}

section

variable (coherent : tables.Coherent)
  (recording : Recording deployment tables event code current next)

include coherent recording

/-- A recorded report is one that the record of its message admits. -/
theorem Recording.reports : ∃ record fence, tables.Holds event.messageId record ∧ record.Coherent ∧
      record.message.accountId = event.accountId ∧
      record.Reports deployment event code next fence := by
  obtain ⟨message, stored, owner, named, isState⟩ := recording.message
  obtain ⟨attempt, listed, isAttempt, attemptMessage⟩ := recording.attempt
  obtain ⟨fence, fenced, isHolder, fenceMessage⟩ := recording.fence
  obtain ⟨record, holds, sound, rfl⟩ := coherent.record_of_message stored
  rw [named] at holds
  have holdsAttempt : tables.Holds attempt.messageId record := by
    rw [attemptMessage]
    exact holds
  refine ⟨record, fence, holds, sound, owner, ?_⟩
  exact
    { isCode := recording.isCode, wellFormed := recording.wellFormed
      fenced := holds.fence_eq fenced fenceMessage, holder := isHolder
      transition := by
        unfold Record.evidence
        rw [← isAttempt, ← coherent.attempt_events listed holdsAttempt,
          isAttempt, isState]
        exact recording.transition
      free := fun index isIndex other present =>
        recording.free index isIndex other (holds.mem_events.mp present).1 }

theorem Recording.message_of_attempt (row : MessageAttempt) (present : row ∈ tables.attempts)
    (same : (row.id == event.attemptId)) : row.messageId = event.messageId := by
  obtain ⟨attempt, listed, isAttempt, attemptMessage⟩ := recording.attempt
  rw [coherent.attempt_eq present listed ((beq_iff_eq.mp same).trans isAttempt.symm)]
  exact attemptMessage

theorem Recording.message_of_fence (row : DispatchFence) (present : row ∈ tables.fences)
    (same : (row.attemptId == event.attemptId)) : row.messageId = event.messageId := by
  obtain ⟨fence, listed, isHolder, fenceMessage⟩ := recording.fence
  rw [coherent.fence_eq present listed ((beq_iff_eq.mp same).trans isHolder.symm)]
  exact fenceMessage

end

theorem report_messages (deployment : Deployment) (code : EvidenceCode)
    (holds : tables.Holds event.messageId record)
    (owner : record.message.accountId = event.accountId) :
    (tables.report deployment clock event code next).messages.filter (·.id == event.messageId) =
      [record.message.moveTo next clock.now] := by
  refine filter_update_of_selected holds.messages ?_
  simp [owner, holds.message_mem.2]

theorem released_touches (coherent : tables.Coherent)
    (recording : Recording deployment tables event code current next)
    (isProof : event.evidence = .provenNoSubmit) :
    tables.Touches deployment (tables.release deployment clock event code next) id := by
  by_cases isTarget : event.messageId = id
  · right
    subst isTarget
    obtain ⟨record, fence, holds, sound, owner, reports⟩ := recording.reports coherent
    refine ⟨record, _, holds, sound, ?_, @Record.Step.release _ _ clock _ _ _ _ reports isProof⟩
    refine { holds with
      messages := report_messages deployment code holds owner
      jobs := ?_, fences := ?_, attempts := ?_, events := ?_ }
    · refine filter_update_of_selected holds.jobs ?_
      simp [holds.job_mem.2]
    · refine (filter_delete _ _).trans ?_
      rw [holds.fences, reports.fenced]
      refine delete_of_selected ?_
      simp [reports.holder]
    · refine (filter_update (by intro row; rfl) _).trans ?_
      rw [holds.attempts]
    · refine (filter_append_of_eq (by rfl)).trans ?_
      rw [holds.events]
  · left
    refine ⟨filter_update_of_ne isTarget, filter_update_of_ne isTarget, ?_,
      filter_update_of_ne isTarget (recording.message_of_attempt coherent),
      filter_append_of_ne isTarget, rfl⟩
    refine (filter_delete _ _).trans (delete_of_unselected fun row listed => ?_)
    obtain ⟨present, isId⟩ := (mem_part rfl).mp listed
    refine Bool.eq_false_iff.mpr fun same => isTarget ?_
    rw [← recording.message_of_fence coherent row present same, isId]

theorem Tables.Holds.follow (deployment : Deployment) (code : EvidenceCode) (status : AttemptStatus)
    (holds : tables.Holds event.messageId record)
    (owner : record.message.accountId = event.accountId) (fenced : record.fence = some fence)
    (holder : fence.attemptId = event.attemptId) :
    (tables.follow deployment clock event code next status).Holds event.messageId
      (record.follow deployment clock event code next fence status) := by
  have fences := holds.fences
  rw [fenced] at fences
  refine { holds with
    messages := report_messages deployment code holds owner
    fences := ?_, attempts := ?_, events := ?_ }
  · refine filter_update_of_selected fences ?_
    simp [holder]
  · refine (filter_update (by intro row; rfl) _).trans ?_
    rw [holds.attempts]
    rfl
  · refine (filter_append_of_eq (by rfl)).trans ?_
    rw [holds.events]
    rfl

theorem followed_touches (coherent : tables.Coherent)
    (recording : Recording deployment tables event code current next)
    (notProof : event.evidence ≠ .provenNoSubmit) (isStatus : attemptStatus next = some status) :
    tables.Touches deployment (tables.follow deployment clock event code next status) id := by
  by_cases isTarget : event.messageId = id
  · right
    subst isTarget
    obtain ⟨record, fence, holds, sound, owner, reports⟩ := recording.reports coherent
    exact ⟨record, _, holds, sound,
      holds.follow deployment code status owner reports.fenced reports.holder,
      @Record.Step.follow _ _ clock _ _ _ _ _ reports notProof isStatus⟩
  · left
    exact ⟨filter_update_of_ne isTarget, rfl,
      filter_update_of_ne isTarget (recording.message_of_fence coherent),
      filter_update_of_ne isTarget (recording.message_of_attempt coherent),
      filter_append_of_ne isTarget, rfl⟩

end Recording

section Sweeping

theorem swept_messages_of_ne (unswept : ∀ row ∈ rows, row.message.id ≠ id) :
    (tables.swept clock state rows []).messages.filter (·.id == id) =
      tables.messages.filter (·.id == id) := by
  refine filter_update_of_unselected fun message _ isId => ?_
  rw [any_eq_false]
  intro row listed
  simp [isId, unswept row listed]

theorem swept_messages (listed : row ∈ rows) (holds : tables.Holds row.message.id record)
    (isMessage : record.message = row.message) :
    (tables.swept clock state rows []).messages.filter (·.id == row.message.id) =
      [record.message.moveTo state clock.now] := by
  refine filter_update_of_selected holds.messages ?_
  simp only [mem_singleton, any_eq_true, Bool.and_eq_true, beq_iff_eq, forall_eq]
  exact ⟨row, listed, by rw [isMessage], by rw [isMessage]⟩

section

variable (coherent : tables.Coherent) (sweeping : Sweeping tables selects rows events)
  (present : attempt ∈ tables.attempts)

include coherent sweeping present

theorem Sweeping.message_of_attempt (listed : other ∈ rows)
    (same : other.attempt.id = attempt.id) : other.message.id = attempt.messageId := by
  obtain ⟨record, holds, _, _, _, own, _⟩ := coherent.record_of_row (sweeping.rowOf other listed).1
  obtain ⟨ownPresent, ownMessage⟩ := holds.mem_attempts.mp own
  rw [← coherent.attempt_eq ownPresent present same, ownMessage]

/-- An attempt of a swept message is swept if it is the one of its row. -/
theorem Sweeping.any_attempt (listed : row ∈ rows) (isId : attempt.messageId = row.message.id) :
    rows.any (·.attempt.id == attempt.id) = (attempt.id == row.attempt.id) := by
  rw [Bool.eq_iff_iff, any_eq_true, beq_iff_eq]
  constructor
  · rintro ⟨other, otherListed, same⟩
    rw [beq_iff_eq] at same
    have isMessage := sweeping.message_of_attempt coherent present otherListed same
    rw [inj_on_of_nodup_map sweeping.distinct listed otherListed (isMessage.trans isId).symm]
    exact same.symm
  · intro same
    exact ⟨row, listed, beq_iff_eq.mpr same.symm⟩

theorem Sweeping.any_attempt_of_ne (unswept : ∀ row ∈ rows, row.message.id ≠ id)
    (isId : attempt.messageId = id) : rows.any (·.attempt.id == attempt.id) = false := by
  rw [any_eq_false]
  intro other listed same
  exact unswept other listed
    ((sweeping.message_of_attempt coherent present listed (beq_iff_eq.mp same)).trans isId)

end

theorem swept_events (isEvents : events = sweepEvents deployment clock fresh codeOf state rows)
    (distinct : (rows.map (·.message.id)).Nodup) (listed : row ∈ rows)
    (holds : tables.Holds row.message.id record) :
    ∃ eventId, (tables.events ++ events).filter (·.messageId == row.message.id) =
      record.events ++ [sweepEvent deployment clock (codeOf row) state row eventId] := by
  have firsts : rows.zipIdx.map Prod.fst = rows := zipIdx_map_fst 0 rows
  have keys : rows.zipIdx.map (fun entry => entry.1.message.id) = rows.map (·.message.id) := by
    have mapped := congrArg (map (·.message.id)) firsts
    rwa [map_map] at mapped
  rw [← firsts] at listed
  obtain ⟨entry, entryListed, rfl⟩ := mem_map.mp listed
  refine ⟨fresh entry.2, ?_⟩
  have single : rows.zipIdx.filter
      (fun other => other.1.message.id == entry.1.message.id) = [entry] := by
    rw [← keys] at distinct
    exact filter_key_eq_singleton distinct entryListed
  rw [filter_append, holds.events, isEvents, sweepEvents, filter_map]
  change _ ++ (rows.zipIdx.filter fun other => other.1.message.id == entry.1.message.id).map _ = _
  rw [single]
  rfl

theorem swept_events_of_ne
    (isEvents : events = sweepEvents deployment clock fresh codeOf state rows)
    (unswept : ∀ row ∈ rows, row.message.id ≠ id) :
    (tables.events ++ events).filter (·.messageId == id) =
      tables.events.filter (·.messageId == id) := by
  subst isEvents
  refine filter_append_of_none ?_
  intro event present
  obtain ⟨entry, listed, rfl⟩ := mem_map.mp present
  have isRow : entry.1 ∈ rows := by
    rw [← zipIdx_map_fst 0 rows]
    exact mem_map.mpr ⟨entry, listed, rfl⟩
  simpa [sweepEvent] using unswept entry.1 isRow

/-- One row of a sweep of silent attempts is a step of its message. -/
theorem silenced_touches (coherent : tables.Coherent)
    (sweeping : Sweeping tables (isSilent clock) rows
      (sweepEvents deployment clock fresh silenceCode .unknown rows)) :
    tables.Touches deployment (tables.silence deployment clock fresh rows) id := by
  by_cases isSwept : ∃ row ∈ rows, row.message.id = id
  · right
    obtain ⟨⟨message, fence, attempt⟩, listed, rfl⟩ := isSwept
    have isRow := sweeping.rowOf _ listed
    obtain ⟨record, holds, sound, rfl, isFence, own, isHolder⟩ := coherent.record_of_row isRow.1
    obtain ⟨eventId, isEvent⟩ := swept_events rfl sweeping.distinct listed holds
    have fences := holds.fences
    rw [isFence] at fences
    refine ⟨record, _, holds, sound, ?_, @Record.Step.silence _ _ clock
      fence attempt eventId isFence own isHolder isRow.2⟩
    refine { holds with
      messages := swept_messages listed holds rfl, events := isEvent
      fences := ?_, attempts := ?_ }
    · refine filter_update_of_selected fences ?_
      intro fence present
      rw [Option.mem_toList, Option.some.injEq] at present
      rw [← present, any_eq_true]
      exact ⟨_, listed, beq_iff_eq.mpr isHolder⟩
    · refine (filter_update (by intro row; rfl) _).trans ?_
      rw [holds.attempts]
      refine update_congr fun attempt present => ?_
      obtain ⟨stored, isId⟩ := holds.mem_attempts.mp present
      exact sweeping.any_attempt coherent stored listed isId
  · left
    push Not at isSwept
    refine ⟨swept_messages_of_ne isSwept, rfl, ?_, ?_, swept_events_of_ne rfl isSwept, rfl⟩
    · refine filter_update_of_unselected fun fence present isId => ?_
      obtain ⟨record, holds, sound, isFence⟩ := coherent.record_of_fence present
      obtain ⟨attempt, own, isAttempt⟩ := sound.holder fence isFence
      obtain ⟨stored, attemptMessage⟩ := holds.mem_attempts.mp own
      rw [← isAttempt]
      exact sweeping.any_attempt_of_ne coherent stored isSwept (attemptMessage.trans isId)
    · refine filter_update_of_unselected fun attempt present isId => ?_
      exact sweeping.any_attempt_of_ne coherent present isSwept isId

theorem timedOut_touches (coherent : tables.Coherent)
    (sweeping : Sweeping tables (lacksReceipt clock) rows events)
    (isEvents : events = sweepEvents deployment clock fresh
      (fun _ => .deliveryTimeout) .deliveryUnknown rows) :
    tables.Touches deployment (tables.swept clock .deliveryUnknown rows events) id := by
  by_cases isSwept : ∃ row ∈ rows, row.message.id = id
  · right
    obtain ⟨⟨message, fence, attempt⟩, listed, rfl⟩ := isSwept
    have isRow := sweeping.rowOf _ listed
    obtain ⟨record, holds, sound, rfl, isFence, own, isHolder⟩ := coherent.record_of_row isRow.1
    obtain ⟨eventId, isEvent⟩ := swept_events isEvents sweeping.distinct listed holds
    refine ⟨record, _, holds, sound, ?_, @Record.Step.timeOut _ _ clock
      fence attempt eventId isFence own isHolder isRow.2⟩
    exact { holds with messages := swept_messages listed holds rfl, events := isEvent }
  · left
    push Not at isSwept
    exact ⟨swept_messages_of_ne isSwept, rfl, rfl, rfl, swept_events_of_ne isEvents isSwept, rfl⟩

end Sweeping

/-- An effect changes what the tables say about a message by one step of its
record, or not at all. -/
theorem Effect.touches (coherent : tables.Coherent)
    (effect : Effect deployment directory tables after) (id : Uuid) :
    tables.Touches deployment after id := by
  cases effect with
  | reserved reserving => exact reserved_touches coherent reserving
  | connected => exact .inl ⟨rfl, rfl, rfl, rfl, rfl, rfl⟩
  | claimed claiming => exact claimed_touches coherent claiming
  | closed isEnd closable => exact closed_touches coherent isEnd closable
  | granted granting => exact granted_touches coherent granting
  | released recording isProof =>
    exact released_touches coherent recording isProof
  | followed recording notProof isStatus =>
    exact followed_touches coherent recording notProof isStatus
  | silenced sweeping => exact silenced_touches coherent sweeping
  | timedOut sweeping => exact timedOut_touches coherent sweeping rfl

/-- The record of a message that was just accepted. -/
def Record.new (clock : Clock) (row : Message) : Record :=
  { message := row, job := newJob clock row.accountId row.deviceId row.id, fence := none
    attempts := [], events := [], ledger := [] }

theorem Record.new_coherent (accepting : Accepting tables key row) :
    (Record.new clock row).Coherent where
  jobOwner := rfl
  jobDevice := rfl
  mode := accepting.mode
  content := accepting.content
  granted := rfl
  unfenced := by
    intro _
    change isUnfenced row.state
    rw [accepting.queued]
    rfl
  fenced := nofun
  fenceOwner := nofun
  holder := nofun
  holderStatus := nofun
  retired := nofun
  eventAttempt := by rintro _ ⟨⟩
  ledgerOwner := by rintro _ ⟨⟩

/-- An arrival changes nothing that the tables say about a message, or adds the
record of a new one. -/
theorem Arrival.touches (coherent : tables.Coherent) (arrival : Arrival clock key tables after)
    (id : Uuid) : tables.Agrees after id ∨ tables.Lacks id ∧ ∃ row,
      Accepting tables key row ∧ after.Holds id (Record.new clock row) := by
  cases arrival with
  | known => exact .inl ⟨rfl, rfl, rfl, rfl, rfl, rfl⟩
  | @created keys row inserted accepting =>
    by_cases isTarget : row.id = id
    · right
      have lacks : tables.Lacks id := by
        rcases coherent.described id with lacks | ⟨record, holds, _⟩
        · exact lacks
        · obtain ⟨present, isId⟩ := holds.message_mem
          exact absurd (isId.trans isTarget.symm) (accepting.fresh _ present)
      refine ⟨lacks, row, accepting, ?_⟩
      refine ⟨?_, ?_, lacks.fences, lacks.attempts, lacks.events, lacks.ledger⟩
      · refine (filter_append_of_eq (by exact isTarget)).trans ?_
        rw [lacks.messages]
        rfl
      · refine (filter_append_of_eq (by exact isTarget)).trans ?_
        rw [lacks.jobs]
        rfl
    · left
      exact ⟨filter_append_of_ne isTarget, filter_append_of_ne isTarget, rfl,
        rfl, rfl, rfl⟩

section

variable (agrees : tables.Agrees after id)

include agrees

theorem Tables.Agrees.symm : after.Agrees tables id :=
  ⟨agrees.messages.symm, agrees.jobs.symm, agrees.fences.symm, agrees.attempts.symm,
    agrees.events.symm, agrees.ledger.symm⟩

theorem Tables.Agrees.lacks (lacks : tables.Lacks id) : after.Lacks id :=
  ⟨agrees.messages.trans lacks.messages, agrees.jobs.trans lacks.jobs,
    agrees.fences.trans lacks.fences, agrees.attempts.trans lacks.attempts,
    agrees.events.trans lacks.events, agrees.ledger.trans lacks.ledger⟩

theorem Tables.Agrees.holds (holds : tables.Holds id record) : after.Holds id record :=
  ⟨agrees.messages.trans holds.messages, agrees.jobs.trans holds.jobs,
    agrees.fences.trans holds.fences, agrees.attempts.trans holds.attempts,
    agrees.events.trans holds.events, agrees.ledger.trans holds.ledger⟩

theorem Tables.Agrees.described (coherent : tables.Coherent) :
    after.Lacks id ∨ ∃ record, after.Holds id record ∧ record.Coherent := by
  rcases coherent.described id with lacks | ⟨record, holds, sound⟩
  · exact .inl (agrees.lacks lacks)
  · exact .inr ⟨record, agrees.holds holds, sound⟩

end

theorem attempts_unique_become (coherent : tables.Coherent) :
    ∀ index ∈ attemptIndexes, Table.Unique index
      (update selects (MessageAttempt.become status time) tables.attempts) := by
  have unique := coherent.attemptsUnique
  simp only [attemptIndexes, forall_mem_cons, not_mem_nil,
    false_implies, implies_true, and_true] at unique ⊢
  exact ⟨unique.1.update (fun _ => rfl), unique.2.update (fun _ => rfl)⟩

section

variable (coherent : tables.Coherent) (effect : Effect deployment directory tables after)

include coherent effect

theorem Effect.attempts_unique : ∀ index ∈ attemptIndexes, Table.Unique index after.attempts := by
  cases effect with
  | granted granting =>
    intro index isIndex
    exact (coherent.attemptsUnique index isIndex).append (granting.attemptFree index isIndex)
  | released | followed | silenced => exact attempts_unique_become coherent
  | reserved | connected | claimed | closed | timedOut =>
    exact coherent.attemptsUnique

theorem Effect.fences_unique : ∀ index ∈ fenceIndexes, Table.Unique index after.fences := by
  cases effect with
  | granted granting =>
    intro index isIndex
    exact (coherent.fencesUnique index isIndex).append (granting.fenceFree index isIndex)
  | released =>
    intro index isIndex
    exact (coherent.fencesUnique index isIndex).delete _
  | followed _ _ _ unique | silenced _ unique => exact unique
  | reserved | connected | claimed | closed | timedOut =>
    exact coherent.fencesUnique

theorem Effect.events_unique : ∀ index ∈ eventIndexes, Table.Unique index after.events := by
  cases effect with
  | released recording | followed recording =>
    intro index isIndex
    exact (coherent.eventsUnique index isIndex).append (recording.free index isIndex)
  | silenced sweeping | timedOut sweeping =>
    intro index isIndex
    exact sweeping.unique index isIndex (coherent.eventsUnique index isIndex)
  | reserved | connected | claimed | closed | granted =>
    exact coherent.eventsUnique

end

theorem Effect.coherent (before : tables.Coherent)
    (effect : Effect deployment directory tables after) : after.Coherent where
  described := by
    intro id
    rcases effect.touches before id with
      agrees | ⟨record, next, holds, sound, nextHolds, step⟩
    · exact agrees.described before
    · exact .inr ⟨next, nextHolds, step.coherent sound⟩
  attemptsUnique := effect.attempts_unique before
  fencesUnique := effect.fences_unique before
  eventsUnique := effect.events_unique before

theorem Arrival.coherent (before : tables.Coherent) (arrival : Arrival clock key tables after) :
    after.Coherent where
  described := by
    intro id
    rcases arrival.touches before id with
      agrees | ⟨_, row, accepting, holds⟩
    · exact agrees.described before
    · exact .inr ⟨_, holds, Record.new_coherent accepting⟩
  attemptsUnique := by
    cases arrival <;> exact before.attemptsUnique
  fencesUnique := by
    cases arrival <;> exact before.fencesUnique
  eventsUnique := by
    cases arrival <;> exact before.eventsUnique

end Effects

end Zrotext.Delivery
