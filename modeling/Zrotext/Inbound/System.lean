import Zrotext.Delivery.System
import Zrotext.Inbound.Ingest

/-!
# Runs of inbound events

Uploads of events and of withdrawals without an attempt, in any order, between
transactions of the rest of the service.  What was accepted is kept beside the
tables.
-/

namespace Zrotext.Inbound

open Foundation Delivery Fallible

variable {δ : Type}

def Classification.isWithdrawal : Classification → Bool
  | .optOut | .optOutReview => true
  | _ => false

/-- What an event says about a recipient. -/
def InboundEvent.reply (session : InboundSession) (recipient : Text)
    (event : InboundEvent) : Reply :=
  { accountId := session.accountId, recipientE164 := recipient, eventId := event.eventId
    attemptId := event.attemptId, observedAt := ofMillis event.observedAtMs }

/-- The changes of the suppressions, with whether one was cleared. -/
inductive Transition (reply : Reply) (before : Suppressions) :
    Classification → Suppressions → Bool → Prop
  | preserved {classification : Classification} {row : Suppression}
      (withdraws : classification.isWithdrawal = true) (found : before.lookup reply.key = some row)
      (final : row.isFinal = true) (passes : row.check = .ok ()) :
      Transition reply before classification (before.put row) false
  | withdrawn {classification : Classification} {row : Suppression}
      (withdraws : classification.isWithdrawal = true)
      (open' : ∀ old, before.lookup reply.key = some old → old.isFinal = false)
      (sameKey : row.key = reply.key) (passes : row.check = .ok ())
      (withdrew : reply.Withdrew row) :
      Transition reply before classification (before.put row) false
  | cleared {old row : Suppression} (found : before.lookup reply.key = some old)
      (clears : reply.clears old = true) (open' : old.isFinal = false)
      (sameKey : row.key = reply.key) (passes : row.check = .ok ()) (inactive : row.active = false)
      (event : row.sourceEventId = some reply.eventId) :
      Transition reply before .optIn (before.put row) true
  | unchanged {classification : Classification} (keeps : classification.isWithdrawal = false) :
      Transition reply before classification before false

theorem transition_of_withdraw {source : SuppressionSource} (bound : source.isUnsolicited = false)
    (withdraws : classification.isWithdrawal)
    (result : (reply.withdraw references source now before).map (·, false) = .ok (after, cleared)) :
    Transition reply before classification after cleared := by
  cases isResult : reply.withdraw references source now before with
  | error failure =>
    rw [isResult] at result
    cases result
  | ok found =>
    rw [isResult] at result
    cases result
    obtain ⟨row, rfl, sameKey, passes, isRow⟩ := Reply.withdraw_eq_ok bound isResult
    rcases isRow with ⟨isOld, final⟩ | ⟨open', withdrew⟩
    · exact .preserved withdraws isOld final passes
    · exact .withdrawn withdraws open' sameKey passes withdrew

theorem transition_eq_ok (checked : Checked before)
    (result : transition references classification reply now before = .ok (after, cleared)) :
    Transition reply before classification after cleared := by
  cases classification with
  | optOut | optOutReview => exact transition_of_withdraw rfl rfl result
  | optIn =>
    rcases Reply.resume_eq_ok checked result with
      ⟨rfl, rfl, _⟩ | ⟨old, found, clears, open', rfl, rfl, passes⟩
    · exact .unchanged rfl
    · refine .cleared found clears open' ?_ passes rfl rfl
      exact (Keyed.lookup_eq_some_iff.mp found).2
  | capturedLocal | simUnverified | sendUnverified | encryptionUnverified =>
    cases result
    exact .unchanged rfl

/-- The change of a recipient whose row is final is not refused and clears
nothing. -/
theorem transition_of_final (checked : Checked before)
    (found : before.lookup reply.key = some old) (final : old.isFinal) :
    ∃ after, transition references classification reply now before = .ok (after, false) := by
  unfold transition
  cases classification with
  | optOut | optOutReview =>
    simp only
    rw [Reply.withdraw_of_final checked found final rfl]
    exact ⟨_, rfl⟩
  | optIn => exact ⟨_, Reply.resume_of_final checked found final⟩
  | capturedLocal | simUnverified | sendUnverified | encryptionUnverified =>
    exact ⟨_, rfl⟩

section Complete

variable {records : Records δ}

theorem cancelPending_eq_ok (result : records.cancelPending surroundings accountId recipient =
    .ok after) :
    after.events = records.events ∧ after.lineOptOuts = records.lineOptOuts :=
    by
  unfold Records.cancelPending at result
  simp only at result
  split at result
  · cases result
    exact ⟨rfl, rfl⟩
  · cases result

theorem releaseHolds_eq_ok (result : records.releaseHolds surroundings stored recipient =
    .ok after) :
    after.events = records.events := by
  obtain ⟨_, _, result⟩ := bind_eq_ok.mp result
  cases result
  rfl

theorem complete_eq_ok (result : records.complete surroundings session stored recipient =
    .ok after) :
    after.events = records.events := by
  simp only [Records.complete, bind_eq_ok] at result
  obtain ⟨followed, isFollowed, _, _, _, _, ⟨⟩⟩ := result
  change followed.events = records.events
  unfold Records.follow at isFollowed
  split at isFollowed
  · exact (cancelPending_eq_ok (mapError_eq_ok.mp isFollowed)).1
  · exact (cancelPending_eq_ok (mapError_eq_ok.mp isFollowed)).1
  · exact releaseHolds_eq_ok isFollowed
  · cases isFollowed
    rfl

end Complete

section Uploads

variable [DecidableEq δ] {tables : Tables δ}

omit [DecidableEq δ] in
theorem authorize_eq_ok {records : Records δ}
    (result : records.authorize surroundings session event = .ok (recipient, digest)) :
    recipient = records.recipientOf session event := by
  simp only [Records.authorize, bind_eq_ok] at result
  obtain ⟨_, _, _, _, _, _, _, _, _, _, _, _, source, isSource, _, _, ⟨⟩⟩ := result
  unfold Records.recipientOf
  rw [demand_eq_ok.mp isSource]
  rfl

theorem admit_eq_ok {records : Records δ}
    (result : records.admitEvent surroundings session stored = .ok admitted) :
    admitted.events = records.events.put stored := by
  simp only [Records.admitEvent, bind_eq_ok] at result
  obtain ⟨_, _, _, _, _, _, ⟨⟩⟩ := result
  rfl

/-- What a committed upload of a new event has changed. -/
structure Ingests
    (session : InboundSession)
    (event : InboundEvent)
    (tables : Tables δ)
    (cleared : Bool)
    (after : Tables δ)
    (recipient : Text) : Prop where
  isRecipient : tables.recipientOf session event = some recipient
  new : tables.events.lookup event.eventId = none
  events : ∃ stored, after.events = tables.events.put stored ∧ stored.id = event.eventId
  suppressions : Checked tables.suppressions →
    Transition (event.reply session recipient) tables.suppressions
      event.classification after.suppressions cleared

theorem ingestNew_eq_ok (result : tables.ingestNew surroundings session stored known =
    .ok (outcome, after)) :
    outcome.created ∧ ∃ recipient, known = some recipient ∧
      after.events = tables.events.put stored ∧
      (Checked tables.suppressions → Transition (stored.reply recipient)
        tables.suppressions stored.classification after.suppressions
        outcome.suppressionCleared) := by
  simp only [Tables.ingestNew, bind_eq_ok] at result
  obtain ⟨_, _, recipient, isRecipient, records, isAdmitted, ⟨suppressions, cleared⟩, changes,
    completed, isCompleted, ⟨⟩⟩ := result
  refine ⟨rfl, recipient, demand_eq_ok.mp isRecipient, ?_, ?_⟩
  · rw [complete_eq_ok isCompleted, admit_eq_ok isAdmitted]
  · intro checked
    exact transition_eq_ok checked (mapError_eq_ok.mp changes)

/-- A committed upload answers for a stored event or stores a new one. -/
theorem ingestWithClock_eq_ok
    (result : ingestWithClock surroundings session event deviceSentAtMs tables =
      .ok (outcome, after)) :
    (outcome.created = false ∧ after = tables ∧
      outcome.suppressionCleared = suppressionCleared session.accountId
        (tables.recipientOf session event) event.eventId tables.suppressions) ∨
    (outcome.created ∧ ∃ recipient, Ingests session event tables
      outcome.suppressionCleared after recipient) := by
  obtain ⟨⟨known, digest⟩, authorized, result⟩ := bind_eq_ok.mp result
  have isKnown := authorize_eq_ok authorized
  simp only at result
  split at result
  · rename_i stored found
    obtain ⟨answer, isAnswer, result⟩ := bind_eq_ok.mp result
    cases result
    simp only [Tables.replay, bind_eq_ok] at isAnswer
    obtain ⟨_, _, _, _, ⟨⟩⟩ := isAnswer
    exact .inl ⟨rfl, rfl, by rw [isKnown]⟩
  · rename_i absent
    obtain ⟨created, recipient, isRecipient, isEvents, changes⟩ := ingestNew_eq_ok result
    exact .inr ⟨created, recipient,
      { isRecipient := isKnown.symm.trans isRecipient, new := absent, events := ⟨_, isEvents, rfl⟩
        suppressions := changes }⟩

end Uploads

section Lines

variable [DecidableEq δ] {after : Tables δ}

/-- What a committed withdrawal without an attempt has changed. -/
structure Suppresses (session : InboundSession) (event : LineOptOut)
    (tables after : Tables δ) : Prop where
  events : after.events = tables.events
  suppressions : ∃ row, after.suppressions = tables.suppressions.put row ∧
    row.key = (session.accountId, event.recipientE164) ∧
    row.check = .ok () ∧ row.isFinal = true ∧ row.sourceEventId = none

theorem ingestLineOptOut_eq_ok (result : ingestLineOptOut surroundings session event tables =
      .ok (created, after)) :
    (created = false ∧ after = tables) ∨
      (created ∧ Suppresses session event tables after) := by
  obtain ⟨digest, _, result⟩ := bind_eq_ok.mp result
  split at result
  · simp only [bind_eq_ok] at result
    obtain ⟨_, _, _, _, ⟨⟩⟩ := result
    exact .inl ⟨rfl, rfl⟩
  · obtain ⟨stored, isStored, result⟩ := bind_eq_ok.mp result
    cases result
    simp only [Tables.ingestNewLine, bind_eq_ok] at isStored
    obtain ⟨records, isAdmitted, suppressions, changes, completed, isCompleted, _, _,
      ⟨⟩⟩ := isStored
    refine .inr ⟨rfl, ?_, ?_⟩
    · simp only [Records.admitLine, bind_eq_ok] at isAdmitted
      obtain ⟨_, _, _, _, _, _, ⟨⟩⟩ := isAdmitted
      exact (cancelPending_eq_ok (mapError_eq_ok.mp isCompleted)).1
    · refine LineWithdrawal.withdraw_eq_ok ?_ (mapError_eq_ok.mp changes)
      generalize (LineOptOut.stored session digest event).action = action
      cases action <;> rfl

end Lines

/-- An accepted change of the consent of a recipient. -/
structure Consent where
  accountId : Uuid
  recipientE164 : Text
  eventId : Uuid
  withdrawn : Bool
  observedAt : Time
deriving DecidableEq

def Consent.key (consent : Consent) : Uuid × Text := (consent.accountId, consent.recipientE164)

/-- The tables, the changes of consent that were accepted, and the recipients
who have withdrawn without an attempt. -/
structure System (δ : Type) where
  tables : Tables δ
  accepted : List Consent
  withdrawnOnLine : List (Uuid × Text)

/-- An upload of an event. -/
structure Upload (δ : Type) where
  surroundings : Surroundings δ
  session : InboundSession
  event : InboundEvent
  deviceSentAtMs : Option Int

/-- The change of consent that an upload of a new event stands for. -/
def Upload.consent (upload : Upload δ) (recipient : Text) : Consent :=
  { accountId := upload.session.accountId, recipientE164 := recipient
    eventId := upload.event.eventId, withdrawn := upload.event.classification.isWithdrawal
    observedAt := ofMillis upload.event.observedAtMs }

/-- The change of consent that was accepted with an upload. -/
def Upload.accepted (upload : Upload δ) (outcome : IngestOutcome)
    (tables : Tables δ) : List Consent :=
  if outcome.created && upload.event.classification.changesConsent then
    ((tables.recipientOf upload.session upload.event).map upload.consent).toList
  else []

inductive Action (δ : Type)
  | upload (upload : Upload δ)
  | lineOptOut (surroundings : Surroundings δ) (session : InboundSession) (event : LineOptOut)
  /-- The rest of the service writes its tables. -/
  | elsewhere (delivery : Delivery.Tables) (holds : Keyed OwnerHold.id)
      (audit : Keyed OwnerAudit.id) (counters : Abuse.Counters δ) (outbox : Webhook.Outbox)

section System

variable [DecidableEq δ]

def Upload.perform (upload : Upload δ) (tables : Tables δ) :
    Except InboundError (IngestOutcome × Tables δ) :=
  ingestWithClock upload.surroundings upload.session upload.event upload.deviceSentAtMs tables

namespace System

def step (system : System δ) : Action δ → System δ
  | .upload upload =>
    match upload.perform system.tables with
    | .ok (outcome, after) =>
      { system with
        tables := after, accepted := system.accepted ++
          upload.accepted outcome system.tables }
    | .error _ => system
  | .lineOptOut surroundings session event =>
    match ingestLineOptOut surroundings session event system.tables with
    | .ok (true, after) =>
      { system with
        tables := after, withdrawnOnLine := system.withdrawnOnLine ++
          [(session.accountId, event.recipientE164)] }
    | .ok (false, after) => { system with tables := after }
    | .error _ => system
  | .elsewhere delivery holds audit counters outbox =>
    { system with
      tables := { system.tables with
        delivery, holds, audit, counters, outbox } }

def run (actions : List (Action δ)) (system : System δ) : System δ := actions.foldl step system

/-- Nothing was accepted yet. -/
def start (tables : Tables δ) : System δ := ⟨tables, [], []⟩

end System
end System

namespace Drill

/-- The device 2 of the account 1 has sent the message 5 with the attempt 7. -/
def delivery : Delivery.Tables :=
  { Delivery.Tables.empty with
    messages := [
      { id := 5, accountId := 1, deviceId := 2, recipientE164 := some "+15550001111".toList
        recipientDigest := [], transportMode := .syntheticAlpha
        transportPayload := some [1], requestDigest := []
        state := .submitted, stateVersion := 4, expiresAt := seconds 900
        updatedAt := 0, lineId := none }]
    attempts := [
      { id := 7, accountId := 1, messageId := 5, deviceId := 2
        generation := 1, sessionEpoch := 1, deploymentEpoch := 1
        status := .submitted, createdAt := 0, updatedAt := 0 }]
    events := [
      { id := 8, accountId := 1, messageId := 5, attemptId := 7
        evidenceCode := .sentCallbackOk, eventDigest := [], observedAt := 0
        resultingState := .submitted, segmentIndex := none, segmentCount := none }]
    sessions := [
      { deviceId := 2, accountId := 1, siteId := "site".toList
        instanceId := "hub".toList, connectionEpoch := 1
        leaseUntil := seconds 3600, deploymentEpoch := 1 }]
    sites := [⟨"site".toList, true, false⟩] }

def tables : Tables Text :=
  { delivery, events := .empty
    lineOptOuts := .empty, holds := .empty, audit := .empty, counters := .empty
    outbox :=
      { endpoints := .empty, accounts := .empty, deliveries := .empty
        attempts := .empty, replays := .empty, claimSequence := 0 }
    suppressions := .empty }

/-- Surroundings at one second in which every signature is valid. -/
def surroundings (second : Int) : Surroundings Text :=
  { directory := Delivery.Drill.directory, clock := Delivery.Drill.clock second, inRecovery := false
    signingKey := fun _ _ => some []
    curve := ⟨fun _ => true, fun _ => true, fun _ => true, fun _ _ _ => true⟩
    sha256 := id, hasher := Abuse.plainHasher
    smsLineBindingReady := fun _ _ _ _ => true
    lineBindingActive := fun _ _ _ _ _ => true
    drawnDelivery := id, drawnAudit := id }

def session : InboundSession :=
  { accountId := 1, deviceId := 2, siteId := "site".toList
    instanceId := "hub".toList, connectionEpoch := 1, deploymentEpoch := 1 }

/-- The device uploads at one second a reply to the attempt that it observed at
another. -/
def reply (eventId : Uuid) (classification : Classification)
    (observedSecond second : Int) : Upload Text :=
  { surroundings := surroundings second, session
    event :=
      { eventId, sequence := eventId.val, messageId := 5, attemptId := 7
        classification, observedAtMs := observedSecond * 1000, partCount := 1
        content := .metadataOnly, signatureDer := List.replicate 8 0 }
    deviceSentAtMs := none }

/-- The device uploads a withdrawal that answers no attempt. -/
def stop (id : Uuid) (second : Int) : Action Text := .lineOptOut (surroundings second) session
    { id, lineId := 3, bindingGeneration := 1, sequence := id.val
      recipientE164 := "+15550001111".toList, action := .stop
      observedAtMs := second * 1000, signatureDer := List.replicate 8 0 }

end Drill
end Zrotext.Inbound
