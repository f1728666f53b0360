import Zrotext.Delivery.Projection
import Zrotext.Foundation.Fallible

/-!
# The effects of the transactions

Each transaction, run from the tables of a reachable state, has one of the
listed effects or none.
-/

namespace Zrotext.Delivery

open Domain Foundation Transaction List Table

/-- A transaction that writes nothing if it finishes. -/
abbrev Reads {α : Type} (tables : Tables) (transaction : StoreTransaction α) : Prop :=
  Finishes transaction (fun _ after => after = tables) tables

/-- A transaction that has listed effects if it finishes. -/
abbrev Affects {α : Type} (deployment : Deployment) (directory : Directory) (tables : Tables)
    (transaction : StoreTransaction α) : Prop :=
  Finishes transaction (fun _ after => Effects deployment directory tables after) tables

section Statements

variable {ρ α : Type}

theorem leads_checked (rows : Except UniqueIndex (List ρ)) :
    Leads (checked rows) finished failed tables ↔
      (∀ after, rows = .ok after → finished after tables) ∧ ∀ index, rows = .error index →
          failed (.database (.uniqueViolation index)) tables := by
  unfold checked
  cases rows <;> simp [leads_compute, Except.mapError]

theorem leads_expectRow (row : Option α) : Leads (expectRow row) finished failed tables ↔
      (∀ found, row = some found → finished found tables) ∧
        (row = none → failed (.database .missingRow) tables) :=
  leads_demand _ _

theorem leads_enterHostedTransaction (deployment : Deployment) :
    Leads (enterHostedTransaction deployment) finished failed tables ↔
      (deployment.hostedEntry → finished ⟨⟩ tables) ∧ (deployment.hostedEntry = false →
          failed .runtimeIdentityUnavailable tables) := by
  unfold enterHostedTransaction
  rw [leads_refuse, Bool.not_eq_false', Bool.not_eq_true']

theorem leads_insertMessage {finished : Bool → Tables → Prop} (message : Message) :
    Leads (insertMessage message) finished failed tables ↔
      ((∀ other ∈ tables.messages, other.id ≠ message.id) → finished true
          { tables with messages := tables.messages ++ [message] }) ∧
      ((∃ other ∈ tables.messages, other.id = message.id) → finished false tables) := by
  unfold insertMessage
  simp only [leads_bind, leads_get]
  have free : (∀ index ∈ messageIndexes, ∀ other ∈ tables.messages,
      index.clashes message other = false) ↔
      ∀ other ∈ tables.messages, other.id ≠ message.id := by
    simp only [messageIndexes, mem_singleton, forall_eq,
      Table.Index.on_free_iff, Option.some.injEq, forall_eq', ne_eq]
  cases inserted : insert messageIndexes message tables.messages with
  | ok messages =>
    obtain ⟨rfl, isFree⟩ := insert_eq_ok_iff.mp inserted
    have fresh := free.mp isFree
    refine ⟨fun holds => ⟨fun _ => holds, ?_⟩, fun both => both.1 fresh⟩
    rintro ⟨other, present, same⟩
    exact absurd same (fresh other present)
  | error index =>
    have taken : ¬ ∀ other ∈ tables.messages, other.id ≠ message.id := by
      intro fresh
      have isOk := insert_eq_ok_iff.mpr ⟨rfl, free.mpr fresh⟩
      rw [isOk] at inserted
      cases inserted
    refine ⟨fun holds => ⟨fun fresh => absurd fresh taken, fun _ => holds⟩, fun both => both.2 ?_⟩
    by_contra none
    exact taken fun other present same => none ⟨other, present, same⟩

theorem leads_insertEvent (event : MessageEvent) :
    Leads (insertEvent event) finished failed tables ↔
      ((∀ index ∈ eventIndexes, ∀ other ∈ tables.events, index.clashes event other = false) →
        finished ⟨⟩ { tables with events := tables.events ++ [event] }) ∧
      ∀ index, insert eventIndexes event tables.events = .error index →
        failed (.database (.uniqueViolation index)) tables := by
  unfold insertEvent
  simp only [leads_bind, leads_get, leads_checked, leads_set, insert_eq_ok_iff, and_imp, forall_eq]

theorem leads_updateFences (selects : DispatchFence → Bool)
    (change : DispatchFence → DispatchFence) :
    Leads (updateFences selects change) finished failed tables ↔
      ((∀ index ∈ fenceIndexes, Table.Unique index (update selects change tables.fences)) →
        finished ⟨⟩ { tables with fences := update selects change tables.fences }) ∧
      ∀ index, rewrite fenceIndexes selects change tables.fences = .error index →
        failed (.database (.uniqueViolation index)) tables := by
  unfold updateFences
  simp only [leads_bind, leads_get, leads_checked, leads_set, rewrite_eq_ok_iff, and_imp]
  constructor
  · rintro ⟨succeeds, fails⟩
    exact ⟨fun unique => succeeds _ rfl unique, fails⟩
  · rintro ⟨succeeds, fails⟩
    refine ⟨?_, fails⟩
    rintro after rfl unique
    exact succeeds unique

end Statements

/-! ## Admission -/

theorem replayedMessage_leads (accountId messageId : Uuid) (reservationRequired : Bool) :
    Reads tables (replayedMessage directory accountId messageId reservationRequired) := by
  unfold replayedMessage
  simp only [leads_bind, leads_get, leads_refuse, leads_pure, implies_true, and_self]

theorem replayKey_leads (input : NewMessage) (digest : Bytes) (metering : MeteringTime)
    (requireReservation : Bool) :
    Reads tables (replayKey directory clock input digest metering requireReservation) := by
  unfold replayKey
  simp only [leads_bind, leads_get]
  split
  · simp only [leads_bind, leads_compute, leads_throw, implies_true, and_self]
  · simp only [leads_bind, leads_refuse, implies_true, and_true]
    intro _
    exact replayedMessage_leads _ _ _

/-- A unit is reserved, or none is needed. -/
def Reserved (deployment : Deployment) (directory : Directory) (clock : Clock)
    (tables after : Tables) : Prop :=
  after = tables ∨ ∃ entry periods, Reserving deployment directory clock tables entry periods ∧
      after = { tables with periods, ledger := tables.ledger ++ [entry] }

/-- A reservation reads periods, ledger and messages. -/
theorem Reserving.carry {after : Tables} (reserving :
    Reserving deployment directory clock tables entry periods)
    (sameMessages : after.messages = tables.messages) (samePeriods : after.periods = tables.periods)
    (sameLedger : after.ledger = tables.ledger) :
    Reserving deployment directory clock after entry periods where
  kind := reserving.kind
  month := reserving.month
  period := samePeriods ▸ reserving.period
  free := sameLedger ▸ reserving.free
  queued := sameMessages ▸ reserving.queued

theorem reserveUnit_leads (billed : Bool)
    (queued : ∃ message ∈ tables.messages, message.accountId = accountId ∧
      message.id = messageId ∧ message.state = .queued) :
    Finishes (reserveUnit deployment directory clock accountId messageId billed)
      (fun _ after => Reserved deployment directory clock tables after) tables := by
  unfold reserveUnit
  simp only [leads_bind, leads_compute, leads_get, leads_demand, leads_set,
    insertLedgerEntry, leads_checked, insert_eq_ok_iff, and_imp, forall_eq, leads_refuse,
    implies_true, and_true]
  rintro ⟨limit, invoiceBound⟩ quota periods reserved free _
  refine .inr ⟨_, periods, ?_, rfl⟩
  exact
    { kind := rfl, month := rfl, period := ⟨billed, limit, invoiceBound, quota, reserved⟩
      free := by
        intro other present owner named isReserve
        have unclashing := free _ (mem_singleton_self _) other present
        refine Table.Index.on_free_iff.mp unclashing _ rfl ?_
        simp only [owner, named, isReserve]
      queued }

theorem reserveIf_leads (required : Bool) (bound : Option Bool)
    (queued : ∃ message ∈ tables.messages, message.accountId = accountId ∧
      message.id = messageId ∧ message.state = .queued) :
    Finishes (reserveIf required
        (reserveOutbound deployment directory clock accountId messageId bound))
      (fun _ after => Reserved deployment directory clock tables after) tables := by
  unfold reserveIf reserveOutbound
  refine (leads_ite _ _).mpr ⟨fun _ => ?_, fun _ => .inl rfl⟩
  cases bound with
  | some billed => exact reserveUnit_leads billed queued
  | none =>
    simp only [leads_bind, leads_compute, leads_ite, leads_pure, implies_true, and_true]
    intro scope _
    exact ⟨fun _ => .inl rfl, fun _ => reserveUnit_leads scope.2 queued⟩

/-- What an admitted request does to the tables: it arrives or it was known,
and it may reserve a unit. -/
def Admitted (deployment : Deployment) (directory : Directory) (clock : Clock)
    (key : IdempotencyKey) (tables after : Tables) : Prop :=
  ∃ arrived, (arrived = tables ∨ Arrival clock key tables arrived) ∧
    Effects deployment directory arrived after

theorem routeRequest_leads (input : NewMessage) (allowedDevice : Option Uuid) :
    Reads tables (routeRequest directory input allowedDevice) := by
  unfold routeRequest
  split
  · rfl
  · simp only [leads_bind, leads_compute, implies_true, and_true]
    intro outcome _
    cases outcome <;> trivial

theorem admissionScope_leads (accountId : Uuid) (metering : MeteringTime) :
    Reads tables (admissionScope directory accountId metering) := by
  unfold admissionScope
  split
  · unfold lockBillingAccount
    simp only [leads_bind, leads_compute, leads_expectRow, leads_ite,
      leads_refuse, leads_pure, implies_true, and_self]
  · simp only [leads_bind, leads_expectRow, leads_pure, implies_true, and_self]
  · simp only [leads_bind, leads_expectRow, leads_pure, implies_true, and_self]

variable {keys : List IdempotencyKey}

theorem createMessage_leads {input : NewMessage}
    (inserted : insertedKeys clock (newKey deployment clock input messageId)
      tables.keys = (.inserted, keys))
    (metering : MeteringTime) (allowedDevice : Option Uuid) (requireReservation : Bool)
    (bound : Option Bool) : Finishes (createMessage deployment directory clock input messageId
        (requestDigest deployment input) metering allowedDevice requireReservation bound)
      (fun _ after => Admitted deployment directory clock
        (newKey deployment clock input messageId) tables after) { tables with keys } := by
  unfold createMessage
  simp only [leads_bind, leads_compute, implies_true, and_true]
  intro _ _
  refine (routeRequest_leads input allowedDevice).imp ?_
  rintro ⟨lineId, deviceId, lineLabel⟩ after rfl
  simp only [leads_bind, leads_get, leads_refuse, leads_insertMessage,
    leads_ite, leads_expectRow, implies_true, and_true, true_and, not_true, Bool.false_eq_true,
    false_implies, true_implies, not_false_eq_true]
  intro _
  constructor
  · intro fresh _
    refine Leads.imp (reserveIf_leads requireReservation bound ?_) ?_
    · refine ⟨newMessageRow deployment clock input messageId
        (requestDigest deployment input) lineId deviceId, ?_, rfl, rfl, rfl⟩
      exact mem_append_right _ (mem_singleton_self _)
    intro _ after reserved
    simp only [insertJob, leads_bind, leads_get, leads_checked, leads_set, insert_eq_ok_iff,
      and_imp, forall_eq, leads_pure, implies_true, and_true]
    intro freeJob
    have accepting : Accepting tables (newKey deployment clock input messageId)
        (newMessageRow deployment clock input messageId
          (requestDigest deployment input) lineId deviceId) := by
      refine ⟨rfl, rfl, fresh, ?_, rfl, rfl, nofun⟩
      intro other present isId
      rcases reserved with rfl | ⟨entry, periods, _, rfl⟩ <;>
        · have free := freeJob _ (mem_singleton_self _) other present
          exact Table.Index.on_free_iff.mp free _ rfl (congrArg some isId)
    rcases reserved with rfl | ⟨entry, periods, reserving, rfl⟩
    · exact ⟨_, .inr (.created inserted accepting), .refl⟩
    · exact ⟨_, .inr (.created inserted accepting),
        .single (.reserved (reserving.carry rfl rfl rfl))⟩
  · rintro ⟨other, present, isId⟩
    intro message found _
    refine (replayedMessage_leads _ _ _).imp ?_
    rintro _ after rfl
    exact ⟨_, .inr (.known inserted ⟨other, present, isId⟩), .refl⟩

theorem insertedKeys_retained {after : List IdempotencyKey}
    (retained : insertedKeys clock row keys = (.retained, after)) : after = keys := by
  unfold insertedKeys at retained
  simp only at retained
  split at retained
  · split_ifs at retained
    · exact (Prod.mk.inj retained).2.symm
    · cases (Prod.mk.inj retained).1
    · cases (Prod.mk.inj retained).1
  · split_ifs at retained <;> cases (Prod.mk.inj retained).1

theorem acceptInner_leads (input : NewMessage) (messageId : Uuid) (metering : MeteringTime)
    (allowedDevice : Option Uuid) :
    Finishes (acceptInner deployment directory clock input messageId metering allowedDevice)
      (fun _ after => Admitted deployment directory clock
        (newKey deployment clock input messageId) tables after) tables := by
  unfold acceptInner
  simp only [leads_bind, leads_compute, leads_enterHostedTransaction, implies_true, and_true]
  intro _ _ _
  refine (admissionScope_leads _ _).imp ?_
  rintro ⟨requireReservation, bound⟩ after rfl
  simp only [leads_refuse, insertKey, leads_bind, leads_get, leads_set,
    leads_pure, implies_true, and_true]
  intro _
  cases inserted : insertedKeys clock (newKey deployment clock input messageId) after.keys with
  | mk insertion keys =>
    cases insertion with
    | messageIdTaken =>
      simp only [leads_bind, leads_compute, leads_throw, implies_true, and_self]
    | retained =>
      have kept := insertedKeys_retained inserted
      subst kept
      refine (replayKey_leads _ _ _ _).imp ?_
      rintro _ final rfl
      exact ⟨_, .inl rfl, .refl⟩
    | inserted => exact createMessage_leads inserted _ _ _ _

/-! ## Dispatch -/

section Dispatch

variable {tables : Tables}

theorem connectSession_leads (accountId deviceId : Uuid) (siteId instanceId : Text)
    (leaseSeconds : Int) :
    Affects deployment directory tables
      (connectSession deployment directory clock accountId deviceId siteId
        instanceId leaseSeconds) := by
  unfold connectSession
  simp only [leads_bind, leads_refuse, leads_enterHostedTransaction,
    leads_demand, leads_get, leads_set, leads_pure, implies_true, and_true]
  intro _ _ _ _ _ inRange
  rw [decide_eq_false_iff_not, not_lt] at inRange
  exact .single (.connected rfl inRange)

theorem mem_jobMessages_iff : row ∈ tables.jobMessages ↔
      row.1 ∈ tables.jobs ∧ row.2 ∈ tables.messages ∧ row.2.id = row.1.messageId := by
  obtain ⟨job, message⟩ := row
  simp only [Tables.jobMessages, mem_flatMap, mem_map, mem_filter, beq_iff_eq, Prod.mk.injEq]
  constructor
  · rintro ⟨_, listed, _, ⟨stored, joined⟩, rfl, rfl⟩
    exact ⟨listed, stored, joined⟩
  · rintro ⟨listed, stored, joined⟩
    exact ⟨job, listed, message, ⟨stored, joined⟩, rfl, rfl⟩

theorem claimDueWithContent_leads (request : ClaimRequest) (locked : Uuid → Bool) :
    Affects deployment directory tables
      (claimDueWithContent deployment directory clock request locked) := by
  unfold claimDueWithContent
  simp only [leads_bind, leads_refuse, leads_enterHostedTransaction, leads_get,
    implies_true, and_true]
  intro _ _
  cases picked : pickJob directory clock request locked tables with
  | none => exact .refl
  | some row =>
    obtain ⟨job, message⟩ := row
    have listed := mem_of_find?_eq_some picked
    rw [mem_insertionSort, mem_filter] at listed
    obtain ⟨joined, isClaimable⟩ := listed
    obtain ⟨jobListed, stored, isId⟩ := mem_jobMessages_iff.mp joined
    simp only [claimable, Bool.and_eq_true, Option.isNone_iff_eq_none]
      at isClaimable
    exact .single (.claimed
      { listed := jobListed, stored, joined := isId, ungranted := isClaimable.1.1.1.1.1.1.1.1.1.2
        pending := isClaimable.1.1.1.1.1.1.1.2 })

theorem cancelPreGrant_leads (accountId messageId : Uuid) :
    Leads (cancelPreGrant clock accountId messageId) (fun _ after => after = tables.close
        (fun account message => account == accountId && message == messageId)
        .cancelled (clock.reading 1) (clock.reading 2))
      (fun failure _ => failure = .database .checkViolation) tables := by
  unfold cancelPreGrant refundOutbound refundReserved
  simp only [updateMessages, updateJobs, leads_bind, leads_modify, leads_get,
    leads_refuse, leads_set, implies_true, and_true]
  intro _
  rfl

theorem closable_single (closable : Closable tables accountId messageId) : ∀ account message,
      (account == accountId && message == messageId) → Closable tables account message := by
  intro account message selected
  simp only [Bool.and_eq_true, beq_iff_eq] at selected
  rw [selected.1, selected.2]
  exact closable

variable {next : MessageState}

theorem isPending_of_apply_cancel (unfenced : Record.isUnfenced state)
    (applied : state.apply .cancel = .ok next) :
    isPending state := by
  cases state <;> simp_all [Record.isUnfenced, MessageState.apply, isPending]

/-- A message whose job has no grant and whose state permits a cancellation. -/
theorem Tables.Coherent.closable (coherent : tables.Coherent) (listed : job ∈ tables.jobs)
    (stored : message ∈ tables.messages) (joined : job.messageId = message.id)
    (ungranted : job.grantIssuedAt = none) (applied : message.state.apply .cancel = .ok next) :
    Closable tables message.accountId message.id := by
  obtain ⟨record, holds, sound, rfl⟩ := coherent.record_of_message stored
  have isJob := holds.job_eq listed joined
  have noFence := sound.fence_eq_none (isJob ▸ ungranted)
  refine ⟨⟨job, listed, ?_, joined, ungranted⟩, record.message, stored, rfl, rfl,
    isPending_of_apply_cancel (sound.unfenced noFence) applied⟩
  rw [← isJob, sound.jobOwner]

theorem cancelInTransaction_leads (coherent : tables.Coherent) (accountId messageId : Uuid) :
    Affects deployment directory tables
      (cancelInTransaction clock accountId messageId) := by
  unfold cancelInTransaction
  simp only [leads_bind, leads_get]
  cases foundJob : tables.jobs.find? (fun job =>
      job.accountId == accountId && job.messageId == messageId) with
  | none => exact .refl
  | some job =>
    simp only [leads_bind, leads_refuse, leads_expectRow, implies_true, and_true]
    intro ungranted message foundMessage
    have isJob := find?_some foundJob
    have isMessage := find?_some foundMessage
    simp only [Bool.and_eq_true, beq_iff_eq] at isJob isMessage
    unfold cancelMessage
    simp only [leads_bind, leads_refuse, leads_ite, leads_compute,
      leads_pure, implies_true, and_true]
    intro _
    refine ⟨fun _ => .refl, fun _ _ next applied => ?_⟩
    refine (cancelPreGrant_leads accountId messageId).imp ?_
    rintro _ after rfl
    have closable := coherent.closable (mem_of_find?_eq_some foundJob)
      (mem_of_find?_eq_some foundMessage)
      (isJob.2.trans isMessage.2.symm)
      (Option.isNone_iff_eq_none.mp (by simpa using ungranted))
      (mapError_eq_ok_iff.mp applied)
    rw [isMessage.1, isMessage.2] at closable
    exact .single (.closed (.inl rfl) (closable_single closable))

theorem cancel_leads (coherent : tables.Coherent) (accountId messageId : Uuid) :
    Affects deployment directory tables
      (cancel deployment clock accountId messageId) := by
  unfold cancel
  simp only [leads_bind, leads_enterHostedTransaction, implies_true, and_true]
  intro _
  exact cancelInTransaction_leads coherent accountId messageId

/-- Closing one message leaves another one closable. -/
theorem Closable.after_close (closable : Closable tables accountId messageId)
    (different : messageId ≠ other) : Closable (tables.close
        (fun account message => account == accountId && message == other)
        state messageAt jobAt) accountId messageId := by
  obtain ⟨job, listed, owner, isId, ungranted⟩ := closable.job
  obtain ⟨message, stored, messageOwner, isMessage, pending⟩ := closable.message
  refine ⟨⟨job, ?_, owner, isId, ungranted⟩, message, ?_, messageOwner, isMessage, pending⟩
  · refine mem_update_iff.mpr (.inl ⟨listed, ?_⟩)
    simp [isId, different]
  · refine mem_update_iff.mpr (.inl ⟨stored, ?_⟩)
    simp [isMessage, different]

theorem cancelAll_leads {ids : List Uuid} (distinct : ids.Nodup)
    (closable : ∀ id ∈ ids, Closable tables accountId id) : Affects deployment directory tables
      (cancelAll clock accountId ids) := by
  induction ids generalizing tables with
  | nil => exact .refl
  | cons id rest ih =>
    rw [nodup_cons] at distinct
    unfold cancelAll
    simp only [leads_bind]
    refine (cancelPreGrant_leads accountId id).imp ?_
    rintro _ after rfl
    have first := closable id mem_cons_self
    refine (ih distinct.2 ?_).imp ?_
    · intro other present
      refine (closable other (mem_cons_of_mem _ present)).after_close ?_
      rintro rfl
      exact distinct.1 present
    · intro _ after effects
      exact .head (.closed (.inl rfl) (closable_single first)) effects

theorem Tables.Coherent.nodup_jobMessages (coherent : tables.Coherent) :
    (tables.jobMessages.map (·.1.messageId)).Nodup := by
  refine nodup_join DispatchJob.messageId ?_ ?_ ?_
  · refine nodup_map_of_filter fun id => ?_
    rcases coherent.described id with lacks | ⟨record, holds, _⟩
    · rw [lacks.jobs]
      exact Nat.zero_le 1
    · rw [holds.jobs]
      exact Nat.le_refl 1
  · intro job _
    rw [length_map]
    exact coherent.messages_le_one job.messageId
  · intro job _ partner present
    obtain ⟨_, _, rfl⟩ := mem_map.mp present
    rfl

theorem cancelPendingRecipient_leads (coherent : tables.Coherent) (accountId : Uuid)
    (recipient : Text) : Affects deployment directory tables
      (cancelPendingRecipient directory clock accountId recipient) := by
  unfold cancelPendingRecipient
  simp only [leads_bind, leads_expectRow, leads_get, leads_pure, implies_true, and_true]
  intro _ _
  refine cancelAll_leads ?_ ?_
  · unfold Tables.pendingRecipient
    rw [(perm_insertionSort _ _).nodup_iff]
    exact coherent.nodup_jobMessages.sublist (filter_sublist.map _)
  · intro id present
    unfold Tables.pendingRecipient at present
    rw [mem_insertionSort] at present
    obtain ⟨row, picked, rfl⟩ := mem_map.mp present
    obtain ⟨joined, selected⟩ := mem_filter.mp picked
    obtain ⟨listed, stored, isId⟩ := mem_jobMessages_iff.mp joined
    simp only [Bool.and_eq_true, beq_iff_eq, Option.isNone_iff_eq_none]
      at selected
    exact ⟨⟨row.1, listed, selected.1.1.1.1.1.1, rfl, selected.1.1.1.2⟩,
      row.2, stored, selected.1.1.1.1.1.2, isId, selected.2⟩

theorem expireDue_leads (limit : Nat) (locked : Uuid → Bool) :
    Affects deployment directory tables
      (expireDue deployment clock limit locked) := by
  unfold expireDue refundReserved
  simp only [updateMessages, updateJobs, leads_bind, leads_refuse,
    leads_enterHostedTransaction, leads_modify, leads_get, leads_set,
    leads_pure, implies_true, and_true]
  intro _ _ _
  refine .single (.closed (.inr rfl) ?_)
  intro accountId messageId selected
  obtain ⟨message, expired, isMessage⟩ := any_eq_true.mp selected
  obtain ⟨stored, isExpired⟩ := mem_filter.mp expired
  rw [Bool.and_eq_true] at isMessage isExpired
  obtain ⟨row, picked, isJob⟩ := any_eq_true.mp isExpired.1
  simp only [Bool.and_eq_true, beq_iff_eq] at isMessage isJob
  have candidate := mem_of_mem_filter (mem_of_mem_take picked)
  rw [mem_insertionSort, mem_filter] at candidate
  obtain ⟨joined, chosen⟩ := candidate
  obtain ⟨listed, _, _⟩ := mem_jobMessages_iff.mp joined
  simp only [Bool.and_eq_true, Option.isNone_iff_eq_none] at chosen
  have pending : isPending message.state := by
    have whole := isExpired.2
    simp only [hasExpired, Bool.and_eq_true] at whole
    exact whole.1.1
  exact ⟨⟨row.1, listed, isJob.1.trans isMessage.1,
    isJob.2.trans isMessage.2, chosen.1.1⟩, message, stored, isMessage.1,
    isMessage.2, pending⟩

theorem sessionCurrent_row (current : sessionCurrent clock tables session) :
    ∃ row ∈ tables.sessions, row.deviceId = session.deviceId ∧
      row.connectionEpoch = session.epoch := by
  unfold sessionCurrent at current
  split at current
  · cases current
  next row found =>
    have isRow := find?_some found
    simp only [Bool.and_eq_true, beq_iff_eq] at isRow current
    exact ⟨row, mem_of_find?_eq_some found, isRow.2, current.1.1.1.2⟩

theorem grantAuthority_eq_ok (authorized : grantAuthority directory clock tables claim session =
    .ok value) :
    claim.deviceId = session.deviceId ∧ directory.dispatchEnabled ∧
      sessionCurrent clock tables session := by
  unfold grantAuthority at authorized
  match revoked : directory.deviceRevoked claim.accountId claim.deviceId with
  | none =>
    simp only [revoked] at authorized
    split_ifs at authorized
  | some true =>
    simp only [revoked] at authorized
    split_ifs at authorized
  | some false =>
    simp only [revoked] at authorized
    split_ifs at authorized with mismatch enabled epoch account current
    push Not at mismatch
    exact ⟨mismatch.2, enabled, current⟩

theorem grantable_eq_ok (allowed : grantable clock tables claim transport =
    .ok (message, recipient)) :
    ∃ job ∈ tables.jobs, job.accountId = claim.accountId ∧
      job.messageId = claim.messageId ∧ job.deviceId = claim.deviceId ∧
      job.grantIssuedAt = none ∧ message ∈ tables.messages ∧
      message.id = claim.messageId ∧ message.state = .claimed := by
  unfold grantable at allowed
  simp only at allowed
  split at allowed
  · cases allowed
  next job found joined =>
    have isRow := find?_some joined
    obtain ⟨listed, stored, isId⟩ := mem_jobMessages_iff.mp (mem_of_find?_eq_some joined)
    simp only [Bool.and_eq_true, beq_iff_eq] at isRow
    split_ifs at allowed with stale
    push Not at stale
    split at allowed
    · cases allowed
    · obtain ⟨rfl, rfl⟩ := allowed
      obtain ⟨_, _, _, ungranted, claimed, _⟩ := stale
      refine ⟨job, listed, isRow.1.1.1, isRow.1.1.2, isRow.1.2,
        Option.isNone_iff_eq_none.mp (by simpa using ungranted), stored,
        isId.trans isRow.1.1.2, claimed⟩

theorem issueGrant_leads (coherent : tables.Coherent) (claim : Claim) (session : SessionRecord)
    (attemptId : Uuid) : Leads (issueGrant deployment directory clock claim session attemptId)
      (fun _ after => Effects deployment directory tables after)
      (fun failure after => grantCommits (.error failure) →
        Effects deployment directory tables after) tables := by
  unfold issueGrant grantInTransaction
  simp only [leads_bind, leads_enterHostedTransaction, leads_get,
    leads_compute, leads_ite, leads_throw]
  refine ⟨fun entered => ⟨fun _ authorized => ⟨?_, fun _ _ _ => .refl⟩,
    fun _ _ _ => .refl⟩, fun _ _ => .refl⟩
  rintro ⟨message, recipient⟩ allowed
  obtain ⟨job, listed, owner, isJobId, device, ungranted, stored, isId,
    claimed⟩ := grantable_eq_ok allowed
  refine ⟨fun _ => ?_, fun _ => ?_⟩
  · refine (cancelPreGrant_leads _ _).mono ?_ ?_
    · rintro _ after rfl _
      have closable := coherent.closable listed stored
        (isJobId.trans isId.symm) ungranted (by rw [claimed]; rfl)
      obtain ⟨record, holds, sound, rfl⟩ := coherent.record_of_message stored
      have isOwner : record.message.accountId = claim.accountId := by
        rw [← sound.jobOwner, holds.job_eq listed (isJobId.trans isId.symm)]
        exact owner
      rw [isOwner, isId] at closable
      exact .single (.closed (.inl rfl) (closable_single closable))
    · rintro _ _ rfl kept
      cases kept
  · obtain ⟨isDevice, enabled, current⟩ := grantAuthority_eq_ok authorized
    unfold writeGrant
    simp only [updateJobs, insertAttempt, insertFence, leads_bind, leads_rethrow, leads_get,
      leads_checked, leads_set, insert_eq_ok_iff, and_imp, forall_eq, leads_modify, leads_pure]
    refine ⟨fun attemptFree => ⟨fun fenceFree => ?_, ?_⟩, fun _ _ kept => by cases kept⟩
    · exact .single (.granted
        { entered, enabled, device := isDevice, live := sessionCurrent_row current
          job := ⟨job, listed, owner, isJobId, device, ungranted⟩
          message := ⟨message, stored, isId, claimed⟩, attemptFree, fenceFree })
    · intro index _ kept
      cases index <;> cases kept

end Dispatch

/-! ## Evidence -/

section Evidence

variable {tables : Tables}

theorem radioMessage_eq_ok (found : radioMessage directory tables event = .ok message) :
    message ∈ tables.messages ∧ message.accountId = event.accountId ∧
      message.id = event.messageId := by
  unfold radioMessage at found
  simp only at found
  split_ifs at found
  split at found
  · cases found
  next row isHead =>
    split_ifs at found
    cases found
    obtain ⟨present, isRow⟩ := mem_filter.mp (mem_of_head? isHead)
    simp only [Bool.and_eq_true, beq_iff_eq] at isRow
    exact ⟨present, isRow.1, isRow.2⟩

theorem admitEvidence_eq_ok {value : Unit}
    (admitted : admitEvidence clock tables event = .ok value) :
    (∃ attempt ∈ tables.attempts, attempt.id = event.attemptId ∧
      attempt.messageId = event.messageId ∧
      validateRadioTimestamp event.observedAtMs (toMillis attempt.createdAt)
        (toMillis (clock.reading 0)) = .ok ()) ∧
    ∃ fence ∈ tables.fences, fence.attemptId = event.attemptId ∧
      fence.accountId = event.accountId ∧ fence.messageId = event.messageId ∧
      fence.deviceId = event.deviceId := by
  unfold admitEvidence at admitted
  split at admitted
  · cases admitted
  next attempt found =>
    have isAttempt := find?_some found
    simp only [RadioEvent.isOf, Bool.and_eq_true, beq_iff_eq] at isAttempt
    obtain ⟨_, timely, fenced⟩ := Fallible.bind_eq_ok.mp admitted
    split_ifs at fenced with held
    obtain ⟨fence, present, isFence⟩ := any_eq_true.mp held
    simp only [Bool.and_eq_true, beq_iff_eq] at isFence
    exact ⟨⟨attempt, mem_of_find?_eq_some found, isAttempt.1.1.1,
      isAttempt.1.2, timely⟩, fence, present, isFence.1.1.1, isFence.1.1.2,
      isFence.1.2, isFence.2⟩

variable {next : MessageState}

theorem apply_attemptStatus {current : MessageState} (isCode : evidenceCode evidence = some code)
    (notProof : evidence ≠ .provenNoSubmit)
    (applied : current.apply evidence = .ok next) : ∃ status, attemptStatus next = some status := by
  unfold MessageState.apply at applied
  split at applied <;> cases applied <;>
    first
      | exact absurd rfl notProof
      | exact ⟨_, rfl⟩
      | cases isCode

theorem radioState_attemptStatus (isCode : evidenceCode event.evidence = some code)
    (notProof : event.evidence ≠ .provenNoSubmit)
    (transition : radioState current event prior = .ok next) :
    ∃ status, attemptStatus next = some status := by
  cases (radioState_eq_ok_iff.mp transition).2 with
  | failed | lost | complete => exact ⟨_, rfl⟩
  | waiting _ _ _ waits =>
    rcases awaitsCallbacks_iff.mp waits with rfl | rfl <;> exact ⟨_, rfl⟩
  | applied _ applied => exact apply_attemptStatus isCode notProof applied

theorem sealedIntentLive_leads (event : RadioEvent) (message : Message) :
    Reads tables (sealedIntentLive directory clock event message) := by
  unfold sealedIntentLive
  simp only [leads_ite, leads_bind, leads_refuse, leads_get, leads_pure, implies_true, and_self]

/-- What an accepted report does: it was on record, or it is recorded. -/
inductive Recorded (deployment : Deployment) (directory : Directory) (event : RadioEvent)
    (tables : Tables) : MessageState → Tables → Prop
  | known {code : EvidenceCode} {row : MessageEvent} {message : Message} :
      evidenceCode event.evidence = some code → malformedRadioEvent event = false →
      radioMessage directory tables event = .ok message → row ∈ tables.events →
      row.id = event.eventId → row.eventDigest = radioEventDigest deployment event code →
      Recorded deployment directory event tables row.resultingState tables
  | fresh {code : EvidenceCode} {current next : MessageState} {after : Tables} :
      Recording deployment tables event code current next →
      after.events = tables.events ++ [eventRow deployment event code next] →
      Effect deployment directory tables after →
      Recorded deployment directory event tables next after

theorem recordFresh_leads (isCode : evidenceCode event.evidence = some code)
    (wellFormed : malformedRadioEvent event = false)
    (found : radioMessage directory tables event = .ok message) :
    Finishes (recordFresh deployment directory clock event code message) (fun value after =>
        Recorded deployment directory event tables value after) tables := by
  unfold recordFresh writeEvidence
  simp only [updateMessages, leads_bind, leads_get, leads_compute,
    leads_modify, leads_insertEvent, leads_ite, leads_pure, implies_true,
    and_true]
  intro _ admitted next transition free
  obtain ⟨stored, owner, named⟩ := radioMessage_eq_ok found
  obtain ⟨⟨attempt, listed, isAttempt, isMessage, _⟩, fence, fenced, isHolder,
    _, fenceMessage, _⟩ := admitEvidence_eq_ok admitted
  have recording : Recording deployment tables event code message.state
      next :=
    { isCode, wellFormed, transition, free
      message := ⟨message, stored, owner, named, rfl⟩
      attempt := ⟨attempt, listed, isAttempt, isMessage⟩
      fence := ⟨fence, fenced, isHolder, fenceMessage⟩ }
  refine ⟨fun isProof => ?_, fun notProof => ?_⟩
  · unfold releaseFence
    refine (sealedIntentLive_leads event message).imp ?_
    rintro _ after rfl
    exact .fresh recording rfl (.released recording isProof)
  · obtain ⟨status, isStatus⟩ := radioState_attemptStatus isCode notProof transition
    unfold followState
    simp only [isStatus, updateAttempts, leads_bind, leads_modify,
      leads_updateFences, implies_true, and_true]
    intro unique
    refine (sealedIntentLive_leads event message).imp ?_
    rintro _ after rfl
    exact .fresh recording rfl (.followed recording notProof isStatus unique)

theorem recordRadioEvent_leads_recorded (event : RadioEvent) :
    Finishes (recordRadioEvent deployment directory clock event)
      (fun value after => deployment.hostedEntry ∧
        Recorded deployment directory event tables value after) tables := by
  unfold recordRadioEvent
  simp only [leads_bind, leads_demand, leads_refuse,
    leads_enterHostedTransaction, leads_get, leads_compute, implies_true,
    and_true]
  intro code isCode wellFormed entered message found
  cases existing : tables.events.find? (·.id == event.eventId) with
  | some row =>
    simp only [leads_bind, leads_refuse, leads_pure, implies_true, and_true]
    intro sameDigest
    have isRow := find?_some existing
    rw [beq_iff_eq] at isRow
    exact ⟨entered, .known isCode wellFormed found
      (mem_of_find?_eq_some existing) isRow (by simpa using sameDigest)⟩
  | none =>
    refine (recordFresh_leads isCode wellFormed found).imp ?_
    exact fun _ _ recorded => ⟨entered, recorded⟩

theorem recordRadioEvent_leads (event : RadioEvent) :
    Affects deployment directory tables
      (recordRadioEvent deployment directory clock event) := by
  refine (recordRadioEvent_leads_recorded event).imp ?_
  rintro _ after ⟨_, recorded⟩
  cases recorded with
  | known => exact .refl
  | fresh _ _ effect => exact .single effect

theorem insertEvents_leads (events : List MessageEvent) : Finishes (insertEvents events)
      (fun _ after =>
        after = { tables with events := tables.events ++ events } ∧
          ∀ index ∈ eventIndexes, Table.Unique index tables.events →
            Table.Unique index (tables.events ++ events)) tables := by
  induction events generalizing tables with
  | nil => exact ⟨by rw [append_nil], by simp [append_nil]⟩
  | cons event rest ih =>
    unfold insertEvents
    simp only [leads_bind, leads_insertEvent, implies_true, and_true]
    intro free
    refine ih.imp ?_
    rintro _ after ⟨rfl, unique⟩
    simp only [append_assoc, singleton_append] at unique
    refine ⟨by rw [append_assoc]; rfl, fun index isIndex before => ?_⟩
    exact unique index isIndex (before.append (free index isIndex))

theorem Tables.Coherent.nodup_fencedAttempts (coherent : tables.Coherent) :
    (tables.fencedAttempts.map (·.message.id)).Nodup := by
  refine nodup_join Message.id ?_ ?_ ?_
  · exact nodup_map_of_filter coherent.messages_le_one
  · intro message _
    refine length_flatMap_le_one ?_ ?_
    · have few : (tables.fences.filter (fun fence => fence.messageId == message.id)).length ≤ 1 :=
        Table.Unique.filter_le_one (coherent.fencesUnique _ mem_cons_self) message.id
      refine le_trans (List.Sublist.length_le ?_) few
      rw [← filter_filter]
      exact filter_sublist
    · intro fence _
      rw [length_map]
      exact Table.Unique.filter_le_one (coherent.attemptsUnique _ mem_cons_self) fence.attemptId
  · intro message _ row present
    obtain ⟨_, _, inner⟩ := mem_flatMap.mp present
    obtain ⟨_, _, rfl⟩ := mem_map.mp inner
    rfl

theorem sweep_spec (coherent : tables.Coherent) (selects : FencedAttempt → Bool) (limit : Nat)
    (locked : Uuid → Bool) : (∀ row ∈ tables.sweep selects limit locked,
      row ∈ tables.fencedAttempts ∧ selects row) ∧
    ((tables.sweep selects limit locked).map (·.message.id)).Nodup := by
  constructor
  · intro row present
    have candidate := mem_of_mem_filter (mem_of_mem_take present)
    rw [mem_insertionSort, mem_filter] at candidate
    exact candidate
  · have sorted : (((tables.fencedAttempts.filter selects).insertionSort
        sweptBefore).map (·.message.id)).Nodup := by
      rw [((perm_insertionSort _ _).map _).nodup_iff]
      exact coherent.nodup_fencedAttempts.sublist (filter_sublist.map _)
    exact sorted.sublist (((take_sublist _ _).trans filter_sublist).map _)

theorem length_sweep_le (selects : FencedAttempt → Bool) (limit : Nat) (locked : Uuid → Bool) :
    (tables.sweep selects limit locked).length ≤ limit :=
  length_take_le _ _

/-- Codes under which silence is recorded. -/
def EvidenceCode.isTimeout : EvidenceCode → Bool
  | .grantTimeout | .sentCallbackTimeout | .deliveryTimeout => true
  | _ => false

theorem silenceCode_isTimeout (row : FencedAttempt) : (silenceCode row).isTimeout := by
  unfold silenceCode
  split_ifs <;> rfl

/-- What a sweep writes. -/
structure Swept (deployment : Deployment) (directory : Directory) (limit : Nat) (fresh : Nat → Uuid)
    (tables after : Tables) : Prop where
  effect : Effect deployment directory tables after
  events : ∃ added, after.events = tables.events ++ added ∧
    ∀ row ∈ added, row.evidenceCode.isTimeout = true ∧ ∃ index < limit, row.id = fresh index

theorem Swept.effects {after : Tables} (swept : Swept deployment directory limit fresh tables after) :
    Effects deployment directory tables after :=
  .single swept.effect

theorem mem_sweepEvents {rows : List FencedAttempt} (few : rows.length ≤ limit)
    (isTimeout : ∀ row, (codeOf row).isTimeout) :
    ∀ event ∈ sweepEvents deployment clock fresh codeOf state rows,
      event.evidenceCode.isTimeout ∧ ∃ index < limit, event.id = fresh index := by
  intro event listed
  obtain ⟨entry, indexed, rfl⟩ := mem_map.mp listed
  have bound := (mem_zipIdx indexed).2.1
  exact ⟨isTimeout entry.1, entry.2, by omega, rfl⟩

section

variable (coherent : tables.Coherent) (limit : Nat) (locked : Uuid → Bool) (fresh : Nat → Uuid)

include coherent limit locked fresh

theorem reconcileSilentAttempts_leads :
    Finishes (reconcileSilentAttempts deployment clock limit locked fresh)
      (fun _ after => Swept deployment directory limit fresh tables after) tables := by
  unfold reconcileSilentAttempts sweepMessages
  simp only [updateMessages, updateAttempts, leads_bind, leads_refuse,
    leads_enterHostedTransaction, leads_get, leads_modify, leads_updateFences,
    leads_pure, implies_true, and_true]
  intro _ _ unique
  refine (insertEvents_leads _).imp ?_
  rintro _ after ⟨rfl, eventsUnique⟩
  obtain ⟨rowOf, distinct⟩ := sweep_spec coherent (isSilent clock) limit locked
  exact ⟨.silenced ⟨rowOf, distinct, eventsUnique⟩ unique, _, rfl,
    mem_sweepEvents (length_sweep_le _ _ _) silenceCode_isTimeout⟩

theorem reconcileDeliveryTimeouts_leads :
    Finishes (reconcileDeliveryTimeouts deployment clock limit locked fresh)
      (fun _ after => Swept deployment directory limit fresh tables after) tables := by
  unfold reconcileDeliveryTimeouts sweepMessages
  simp only [updateMessages, leads_bind, leads_refuse,
    leads_enterHostedTransaction, leads_get, leads_modify, leads_pure,
    implies_true, and_true]
  intro _ _
  refine (insertEvents_leads _).imp ?_
  rintro _ after ⟨rfl, eventsUnique⟩
  obtain ⟨rowOf, distinct⟩ := sweep_spec coherent (lacksReceipt clock) limit locked
  exact ⟨.timedOut ⟨rowOf, distinct, eventsUnique⟩, _, rfl,
    mem_sweepEvents (length_sweep_le _ _ _) fun _ => rfl⟩

end

end Evidence

end Zrotext.Delivery
