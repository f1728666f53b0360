import Zrotext.Foundation.Table
import Zrotext.Foundation.Text
import Zrotext.Foundation.Transaction
import Zrotext.Foundation.Word

/-!
# The radio journal of the phone

The rows that the phone keeps about the attempts it was granted, and the
operations of its data access object.  An operation is one transaction: an
exception rolls it back.  Beside the table of events the model carries the
history of the events that were ever inserted, which no operation reads.
-/

namespace Zrotext.Phone

open Foundation Transaction Phone

/-- The state of an attempt. -/
inductive AttemptState
  | reserved | radioStarted | submitting | unknown | submitted | delivered | deliveryFailed
  | deliveryUnknown | failed | partialFailure | notSubmitted
deriving DecidableEq

/-- What an event reports. -/
inductive Evidence
  | durableSubmitIntent | provenNoSubmit | callbackConflict | sentCallbackOk | sentCallbackFailed
  | deliveryCallbackOk
deriving DecidableEq

/-- The result code of a successful callback. -/
def resultOk : Int := -1

namespace DeliveryStatus

/-- The message arrived. -/
def received : Int := 0

/-- The message did not arrive. -/
def failed : Int := 1

/-- The platform cannot tell. -/
def unverified : Int := 2

end DeliveryStatus

/-- Sixty-four lowercase hexadecimal digits. -/
def isDigestText (text : Text) : Bool :=
  text.length == 64 && text.all fun char =>
    decide ('0' ≤ char ∧ char ≤ '9') || decide ('a' ≤ char ∧ char ≤ 'f')

/-- The account, device and origin under which evidence is recorded. -/
structure EvidenceIdentity where
  (accountId deviceId : Identifier)
  originHash : Text
  originHashed : isDigestText originHash = true
deriving DecidableEq

/-- One attempt to send a message by radio. -/
structure SmsAttempt where
  attemptId : Identifier
  (subscriptionId segmentCount : Int)
  state : AttemptState
  (createdAtMs updatedAtMs : Int)
  evidenceConflict : Bool
  (messageId accountId deviceId : Option Identifier)
  originHash : Option Text
deriving DecidableEq

/-- The callback results of one segment of an attempt. -/
structure SmsSegment where
  attemptId : Identifier
  segmentIndex : Int
  (sentResultCode deliveryResultCode deliveryStatus : Option Int)
deriving DecidableEq

/-- An event about an attempt that is uploaded to the server. -/
structure AlphaRadioEvent where
  (eventId messageId attemptId : Identifier)
  evidence : Evidence
  observedAtMs : Int
  (segmentIndex segmentCount acknowledgedAtMs : Option Int)
  (accountId deviceId : Option Identifier)
  originHash : Option Text
  quarantinedAtMs : Option Int
deriving DecidableEq

/-- The tables of the journal, and the history of the inserted events. -/
structure Journal where
  attempts : List SmsAttempt
  segments : List SmsSegment
  (events inserted : List AlphaRadioEvent)

/-- Nothing recorded yet. -/
def Journal.empty : Journal := ⟨[], [], [], []⟩

/-- What the operations read from the tables of other components. -/
structure Surroundings where
  (isTypedSubmit03 hasProfile03EffectFence : Identifier → Bool)
  hasSealedPreparation : Identifier → Identifier → Identifier → Bool

/-- Why an operation throws. -/
inductive Failure
  | constraint | illegalState | illegalArgument | arithmetic
deriving DecidableEq

/-- A transaction on the journal. -/
abbrev JournalTransaction := Transaction Failure Journal

/-- No callback result was stored for the segment. -/
def SmsSegment.isBlank (segment : SmsSegment) : Bool :=
  segment.sentResultCode.isNone && segment.deliveryResultCode.isNone &&
    segment.deliveryStatus.isNone

/-- The segments that were sent. -/
def sentCount (segments : List SmsSegment) : Nat :=
  segments.countP (·.sentResultCode == some resultOk)

/-- The state that the stored results give an attempt. -/
def AttemptState.fromEvidence (prior : AttemptState) (segments : List SmsSegment) : AttemptState :=
  if prior = .notSubmitted then .notSubmitted
  else if segments = [] ∨ segments.any (·.sentResultCode.isNone) then
    if prior = .submitting ∨ prior = .radioStarted then .submitting
    else .unknown
  else if sentCount segments = 0 then .failed
  else if sentCount segments ≠ segments.length then .partialFailure
  else if segments.any (·.deliveryStatus == some DeliveryStatus.failed) then
    .deliveryFailed
  else if segments.all (·.deliveryStatus == some DeliveryStatus.received) then
    .delivered
  else if prior = .deliveryUnknown then .deliveryUnknown
  else .submitted

/-- What is done with the result of a callback. -/
inductive Decision
  | store | ignore | conflict
deriving DecidableEq

namespace CallbackEvidence

/-- The first result of sending stays. -/
def sent (previous : Option Int) (incoming : Int) : Decision :=
  match previous with
  | none => .store
  | some stored => if stored = incoming then .ignore else .conflict

/-- A verified delivery status replaces an unverified one, and stays. -/
def delivery (previous : Option Int) (incoming : Int) : Decision :=
  match previous with
  | none => .store
  | some stored =>
    if stored = DeliveryStatus.unverified ∧ incoming ≠ DeliveryStatus.unverified then .store
    else if stored ≠ DeliveryStatus.unverified ∧
        incoming ≠ DeliveryStatus.unverified ∧ stored ≠ incoming then
      .conflict
    else .ignore

end CallbackEvidence

/-- A callback of the platform for one segment. -/
structure Callback where
  index : Int
  delivery : Bool
  result : Int
  deliveryStatus : Option Int
deriving DecidableEq

namespace Callback

/-- The delivery status that a callback reports. -/
def status (callback : Callback) : Int := callback.deliveryStatus.getD DeliveryStatus.unverified

/-- What is done with a callback for a segment. -/
def decision (callback : Callback) (segment : SmsSegment) : Decision :=
  if callback.delivery then
    CallbackEvidence.delivery segment.deliveryStatus callback.status
  else
    CallbackEvidence.sent segment.sentResultCode callback.result

/-- The event that a callback about sending is reported with. -/
def sentEvidence (callback : Callback) : Evidence :=
  if callback.result = resultOk then .sentCallbackOk else .sentCallbackFailed

end Callback

namespace Journal

variable (journal : Journal) (attemptId : Identifier)

/-- The attempt with an identifier. -/
def getAttempt : Option SmsAttempt := journal.attempts.find? (·.attemptId == attemptId)

/-- The segments of an attempt. -/
def getSegments : List SmsSegment := journal.segments.filter (·.attemptId == attemptId)

/-- The segment of an attempt at an index. -/
def getSegment (index : Int) : Option SmsSegment :=
  journal.segments.find? fun segment =>
    segment.attemptId == attemptId && segment.segmentIndex == index

/-- The event with an identifier. -/
def getAlphaEvent (eventId : Identifier) : Option AlphaRadioEvent :=
  journal.events.find? (·.eventId == eventId)

/-- It is proven that the attempt was not submitted. -/
def hasNoRadioProof : Bool :=
  journal.events.any fun event =>
    event.attemptId == attemptId && event.evidence == .provenNoSubmit

end Journal

/-- The event still waits for its acknowledgement. -/
def AlphaRadioEvent.isOpen (event : AlphaRadioEvent) : Bool :=
  event.acknowledgedAtMs.isNone && event.quarantinedAtMs.isNone

namespace Journal

variable (journal : Journal)

/-- The next event to upload, in the order of insertion. -/
def nextAlphaEvent (surroundings : Surroundings) (accountId deviceId : Identifier)
    (originHash : Text) (excluded : List Identifier) : Option AlphaRadioEvent :=
  journal.events.find? fun event =>
    !surroundings.isTypedSubmit03 event.attemptId && event.isOpen &&
      event.accountId == some accountId && event.deviceId == some deviceId &&
      event.originHash == some originHash &&
      (event.evidence != .durableSubmitIntent || (!excluded.contains event.eventId &&
          !surroundings.hasSealedPreparation accountId event.messageId event.attemptId))

/-- Intents whose attempt was never submitted. -/
def orphanedAlphaIntents (surroundings : Surroundings)
    (excluded : List Identifier) : List AlphaRadioEvent :=
  journal.events.filter fun event =>
    !surroundings.isTypedSubmit03 event.attemptId &&
      event.evidence == .durableSubmitIntent && event.isOpen &&
      (journal.attempts.any fun attempt =>
        attempt.attemptId == event.attemptId &&
          (attempt.state == .reserved || attempt.state == .notSubmitted)) &&
      !excluded.contains event.eventId

end Journal

/-- Change the attempts that a condition selects, and count them. -/
def updateAttempts (selects : SmsAttempt → Bool)
    (change : SmsAttempt → SmsAttempt) : JournalTransaction Nat := do
  let journal ← get
  set { journal with
    attempts := Table.update selects change journal.attempts }
  pure (journal.attempts.countP selects)

/-- Change the segments that a condition selects, and count them. -/
def updateSegments (selects : SmsSegment → Bool)
    (change : SmsSegment → SmsSegment) : JournalTransaction Nat := do
  let journal ← get
  set { journal with
    segments := Table.update selects change journal.segments }
  pure (journal.segments.countP selects)

/-- Insert an attempt under a new identifier. -/
def insertAttempt (attempt : SmsAttempt) : JournalTransaction PUnit := do
  let journal ← get
  refuse .constraint (journal.attempts.any (·.attemptId == attempt.attemptId))
  set { journal with attempts := journal.attempts ++ [attempt] }

/-- Insert segments that no attempt has. -/
def insertSegments (segments : List SmsSegment) : JournalTransaction PUnit := do
  let journal ← get
  refuse .constraint <| segments.any fun segment =>
    (journal.getSegment segment.attemptId segment.segmentIndex).isSome
  set { journal with segments := journal.segments ++ segments }

/-- Insert an event under a new identifier. -/
def insertAlphaEvent (event : AlphaRadioEvent) : JournalTransaction PUnit := do
  let journal ← get
  refuse .constraint (journal.events.any (·.eventId == event.eventId))
  set { journal with
    events := journal.events ++ [event], inserted := journal.inserted ++ [event] }

/-- A change of state that is written to one attempt. -/
def SmsAttempt.moveTo (state : AttemptState) (now : Int) (attempt : SmsAttempt) : SmsAttempt :=
  { attempt with state, updatedAtMs := now }

/-- An event about an attempt that belongs to a message. -/
def SmsAttempt.alphaEvent (attempt : SmsAttempt)
    (messageId eventId : Identifier) (evidence : Evidence) (now : Int) : AlphaRadioEvent where
  eventId
  messageId
  attemptId := attempt.attemptId
  evidence
  observedAtMs := now
  segmentIndex := none
  segmentCount := none
  acknowledgedAtMs := none
  accountId := attempt.accountId
  deviceId := attempt.deviceId
  originHash := attempt.originHash
  quarantinedAtMs := none

section Operations

variable (surroundings : Surroundings)

/-- Move the attempts that a condition selects, except typed ones. -/
def moveAttempts (selects : SmsAttempt → Bool) (state : AttemptState)
    (now : Int) : JournalTransaction Nat :=
  updateAttempts (fun attempt =>
      !surroundings.isTypedSubmit03 attempt.attemptId && selects attempt)
    (SmsAttempt.moveTo state now)

variable (attempt : SmsAttempt) (attemptId : Identifier) (now : Int) (fresh : Identifier)

/-- Move one attempt, unless it is typed. -/
def setState (state : AttemptState) (now : Int) : JournalTransaction PUnit := do
  let _ ← moveAttempts surroundings (·.attemptId == attemptId) state now

/-- Acknowledge an open event, and count what changed. -/
def acknowledgeAlphaEvent (eventId : Identifier) (now : Int) : JournalTransaction Nat := do
  let journal ← get
  let selects := fun event : AlphaRadioEvent =>
    !surroundings.isTypedSubmit03 event.attemptId && event.eventId == eventId && event.isOpen
  set { journal with
    events := Table.update selects
      (fun event => { event with acknowledgedAtMs := some now })
      journal.events }
  pure (journal.events.countP selects)

/-- Open the gate to the radio, once for an attempt as it was granted. -/
def consumeRadioStart (messageId : Identifier)
    (subscriptionId segmentCount now : Int) : JournalTransaction Nat :=
  moveAttempts surroundings (fun attempt =>
      attempt.attemptId == attemptId && attempt.messageId == some messageId &&
        attempt.subscriptionId == subscriptionId &&
        attempt.segmentCount == segmentCount && attempt.state == .submitting)
    .radioStarted now

/-- Prove that an attempt was not submitted, unless something speaks against
it. -/
def recordNoRadioProof : JournalTransaction PUnit := do
  let journal ← get
  match journal.getAttempt attemptId with
  | none => pure ⟨⟩
  | some attempt =>
    match attempt.messageId with
    | none => pure ⟨⟩
    | some messageId =>
      if attempt.state ≠ .notSubmitted ∨ attempt.evidenceConflict ∨
          journal.hasNoRadioProof attemptId ∨
          (journal.getSegments attemptId).any (!·.isBlank) then
        pure ⟨⟩
      else
        insertAlphaEvent (attempt.alphaEvent messageId fresh .provenNoSubmit now)

/-- Give up an attempt in a state, and prove it. -/
def markNoRadio (state : AttemptState) (attemptId : Identifier) (now : Int)
    (fresh : Identifier) : JournalTransaction Nat := do
  let changed ← moveAttempts surroundings (fun attempt =>
      attempt.attemptId == attemptId && attempt.state == state && attempt.messageId.isSome)
    .notSubmitted now
  onlyIf (changed = 1) (recordNoRadioProof attemptId now fresh)
  pure changed

/-- Give up an attempt that was acknowledged. -/
def markAcknowledgedNoRadio : JournalTransaction Nat :=
  markNoRadio surroundings .submitting attemptId now fresh

/-- Give up an attempt that did not pass the checks before the radio. -/
def markPreflightNoRadio : JournalTransaction Nat :=
  markNoRadio surroundings .radioStarted attemptId now fresh

/-- Retire one orphaned intent. -/
def retireAlphaIntent (keepCurrent : AlphaRadioEvent → Bool)
    (fresh : Identifier) (event : AlphaRadioEvent) : JournalTransaction PUnit := do
  let journal ← get
  match journal.getAttempt event.attemptId with
  | none => pure ⟨⟩
  | some attempt =>
    if keepCurrent event then pure ⟨⟩
    else do
      onlyIf (attempt.state = .reserved) (setState surroundings event.attemptId .notSubmitted now)
      let acknowledged ← acknowledgeAlphaEvent surroundings event.eventId now
      refuse .illegalState (acknowledged != 1)
      recordNoRadioProof event.attemptId now fresh

/-- The exclusions are few enough and none of them is the nil identifier. -/
def intentExclusions (excluded : List Identifier) : Bool :=
  decide (excluded.length ≤ 1024) && excluded.all (· != 0)

/-- Retire the orphaned intents one after the other.  An identifier is drawn
for each of them. -/
def retireAlphaIntents (now : Int) (keepCurrent : AlphaRadioEvent → Bool)
    (fresh : Identifier → Identifier) : List AlphaRadioEvent → JournalTransaction PUnit
  | [] => pure ⟨⟩
  | event :: rest => do
    retireAlphaIntent surroundings now keepCurrent (fresh event.eventId) event
    retireAlphaIntents now keepCurrent fresh rest

/-- Retire the intents of attempts that were never submitted. -/
def retireOrphanedAlphaIntents (excluded : List Identifier) (keepCurrent : AlphaRadioEvent → Bool)
    (fresh : Identifier → Identifier) : JournalTransaction PUnit := do
  refuse .illegalArgument (!intentExclusions excluded)
  let journal ← get
  retireAlphaIntents surroundings now keepCurrent fresh
    (journal.orphanedAlphaIntents surroundings excluded)

/-- Mark an attempt whose callbacks contradict each other. -/
def markCallbackConflict : JournalTransaction Nat :=
  updateAttempts (fun attempt =>
      !surroundings.isTypedSubmit03 attempt.attemptId &&
        attempt.attemptId == attemptId && !attempt.evidenceConflict)
    (fun attempt =>
      { attempt.moveTo .unknown now with evidenceConflict := true })

/-- Withdraw a proof that was not acknowledged. -/
def removePendingNoRadioProof : JournalTransaction PUnit :=
  modify fun journal =>
    { journal with
      events := Table.delete
        (fun event =>
          event.attemptId == attemptId && event.evidence == .provenNoSubmit &&
            event.acknowledgedAtMs.isNone)
        journal.events }

/-- Mark a conflict and report it. -/
def recordConflict : JournalTransaction PUnit := do
  let marked ← markCallbackConflict surroundings attempt.attemptId now
  if marked ≠ 1 then pure ⟨⟩
  else
    match attempt.messageId with
    | none => pure ⟨⟩
    | some messageId =>
      removePendingNoRadioProof attempt.attemptId
      insertAlphaEvent (attempt.alphaEvent messageId fresh .callbackConflict now)

/-- Store the first result of sending a segment. -/
def recordSent (index result : Int) : JournalTransaction Nat :=
  updateSegments (fun segment =>
      !surroundings.isTypedSubmit03 segment.attemptId &&
        segment.attemptId == attemptId && segment.segmentIndex == index &&
        segment.sentResultCode.isNone)
    (fun segment => { segment with sentResultCode := some result })

/-- Store a delivery status, unless a verified one is stored. -/
def recordDelivery (index result status : Int) : JournalTransaction Nat :=
  updateSegments (fun segment =>
      !surroundings.isTypedSubmit03 segment.attemptId &&
        segment.attemptId == attemptId && segment.segmentIndex == index &&
        (segment.deliveryStatus.isNone ||
          (segment.deliveryStatus == some DeliveryStatus.unverified &&
            status != DeliveryStatus.unverified)))
    (fun segment =>
      { segment with
        deliveryResultCode := some result, deliveryStatus := some status })

/-- An attempt for which no callback can arrive. -/
def SmsAttempt.isUnsubmitted : Bool := attempt.state == .notSubmitted || attempt.state == .reserved

/-- The state after a callback was stored. -/
def SmsAttempt.nextState (segments : List SmsSegment) : AttemptState :=
  if attempt.evidenceConflict then .unknown
  else attempt.state.fromEvidence segments

variable (callback : Callback)

/-- Report a callback that was stored. -/
def reportCallback
    (next : AttemptState) (now : Int) (fresh later : Identifier) : JournalTransaction PUnit :=
  match attempt.messageId with
  | none => pure ⟨⟩
  | some messageId => do
    onlyIf (callback.delivery = false ∧ attempt.evidenceConflict = false) (insertAlphaEvent
        { attempt.alphaEvent messageId fresh callback.sentEvidence now with
          segmentIndex := some callback.index, segmentCount := some attempt.segmentCount })
    onlyIf (next = .delivered ∧ attempt.state ≠ .delivered) (insertAlphaEvent
        (attempt.alphaEvent messageId later .deliveryCallbackOk now))

/-- Store the result of a callback, where there is room for it. -/
def writeCallback : JournalTransaction Nat :=
  if callback.delivery then
    recordDelivery surroundings attemptId callback.index callback.result callback.status
  else
    recordSent surroundings attemptId callback.index callback.result

/-- Store a callback and draw the consequences. -/
def storeCallback (now : Int) (fresh later : Identifier) : JournalTransaction PUnit := do
  let changed ← writeCallback surroundings attempt.attemptId callback
  if changed = 0 then pure ⟨⟩
  else
    let journal ← get
    let segments := journal.getSegments attempt.attemptId
    if attempt.isUnsubmitted ∨ (segments.length : Int) ≠ attempt.segmentCount then
      recordConflict surroundings attempt now fresh
    else do
      let next := attempt.nextState segments
      reportCallback attempt callback next now fresh later
      setState surroundings attempt.attemptId next now

/-- Record a callback.  Identifiers for at most two events are drawn. -/
def recordCallback (now : Int) (fresh later : Identifier) : JournalTransaction PUnit := do
  if surroundings.isTypedSubmit03 attemptId then pure ⟨⟩
  else
    let journal ← get
    match journal.getAttempt attemptId with
    | none => pure ⟨⟩
    | some attempt =>
      if ¬ (0 ≤ callback.index ∧ callback.index < attempt.segmentCount) then
        pure ⟨⟩
      else
        match journal.getSegment attemptId callback.index with
        | none => recordConflict surroundings attempt now fresh
        | some segment =>
          match callback.decision segment with
          | .ignore =>
            if attempt.isUnsubmitted then
              recordConflict surroundings attempt now fresh
            else pure ⟨⟩
          | .conflict => recordConflict surroundings attempt now fresh
          | .store =>
            storeCallback surroundings attempt callback now fresh later

/-- The radio may be working on the attempt. -/
def isUnderWay (state : AttemptState) : Bool := state == .submitting || state == .radioStarted

/-- After a restart nothing is known of the attempts under way. -/
def markInterrupted : JournalTransaction PUnit := do
  let _ ← moveAttempts surroundings (isUnderWay ·.state) .unknown now

/-- After a restart reservations are not submitted. -/
def markUnsentReservations : JournalTransaction PUnit := do
  let _ ← moveAttempts surroundings (·.state == .reserved) .notSubmitted now

/-- Nothing is known of an attempt that stalls. -/
def markStalledSubmission : JournalTransaction PUnit := do
  let _ ← moveAttempts surroundings
    (fun attempt => attempt.attemptId == attemptId && isUnderWay attempt.state)
    .unknown now

/-- Nothing is known of deliveries that take too long. -/
def markTimedOutDeliveries (cutoff now : Int) : JournalTransaction PUnit := do
  let _ ← moveAttempts surroundings (fun attempt =>
      attempt.state == .submitted && decide (attempt.updatedAtMs < cutoff))
    .deliveryUnknown now

/-- The segments of a new attempt. -/
def blankSegments (segmentCount : Int) : List SmsSegment :=
  (List.range segmentCount.toNat).map fun index : Nat =>
    { attemptId, segmentIndex := (index : Int)
      sentResultCode := none, deliveryResultCode := none, deliveryStatus := none }

/-- How long answers from an approved sender are awaited. -/
def inboundPilotWindowMs : Int := 24 * 60 * 60 * 1000

/-- An approved sender is given by a digest, and its window ends within the
range of the clock. -/
def checkApprovedSender : Option Text → JournalTransaction PUnit
  | none => pure ⟨⟩
  | some token => do
    refuse .illegalArgument (!isDigestText token)
    refuse .arithmetic (decide (2 ^ 63 ≤ now + inboundPilotWindowMs))

/-- An attempt that was just reserved. -/
def reservedAttempt (messageId : Identifier) (subscriptionId segmentCount now : Int)
    (identity : EvidenceIdentity) : SmsAttempt where
  attemptId
  subscriptionId
  segmentCount
  state := .reserved
  createdAtMs := now
  updatedAtMs := now
  evidenceConflict := false
  messageId := some messageId
  accountId := some identity.accountId
  deviceId := some identity.deviceId
  originHash := some identity.originHash

/-- Reserve an attempt with its segments and its intent. -/
def reserveAlpha (messageId : Identifier)
    (subscriptionId segmentCount : Int) (intentEventId : Identifier)
    (now : Int) (approvedSenderToken : Option Text)
    (identity : EvidenceIdentity) : JournalTransaction PUnit := do
  refuse .illegalState
    (surroundings.hasProfile03EffectFence identity.accountId)
  refuse .illegalState (surroundings.isTypedSubmit03 attemptId)
  refuse .illegalArgument
    (!decide (1 ≤ segmentCount ∧ segmentCount ≤ 6))
  let attempt := reservedAttempt attemptId messageId subscriptionId segmentCount now identity
  insertAttempt attempt
  insertSegments (blankSegments attemptId segmentCount)
  insertAlphaEvent (attempt.alphaEvent messageId intentEventId .durableSubmitIntent now)
  checkApprovedSender now approvedSenderToken

/-- Acknowledge the intent of an attempt.  The result says whether the attempt
may start. -/
def acknowledgeAlphaIntent (eventId : Identifier) (permitted : Bool)
    (now : Int) (fresh : Identifier) : JournalTransaction Bool := do
  let journal ← get
  match journal.getAlphaEvent eventId with
  | none => pure false
  | some event =>
    if surroundings.isTypedSubmit03 event.attemptId then pure false
    else if event.evidence ≠ .durableSubmitIntent ∨ event.isOpen = false then
      pure false
    else
      match journal.getAttempt event.attemptId with
      | none => pure false
      | some attempt =>
        if attempt.state ≠ .reserved ∨ attempt.messageId ≠ some event.messageId then do
          let _ ← acknowledgeAlphaEvent surroundings eventId now
          onlyIf (attempt.state = .notSubmitted) (recordNoRadioProof event.attemptId now fresh)
          pure false
        else do
          let acknowledged ← acknowledgeAlphaEvent surroundings eventId now
          if acknowledged ≠ 1 then pure false
          else if permitted then do
            setState surroundings event.attemptId .submitting now
            pure true
          else do
            setState surroundings event.attemptId .notSubmitted now
            recordNoRadioProof event.attemptId now fresh
            pure false

end Operations

/-- The operations of the data access object. -/
inductive Operation
  | reserveAlpha (attemptId messageId : Identifier)
      (subscriptionId segmentCount : Int) (intentEventId : Identifier)
      (now : Int) (approvedSenderToken : Option Text) (identity : EvidenceIdentity)
  | acknowledgeAlphaIntent (eventId : Identifier) (permitted : Bool)
      (now : Int) (fresh : Identifier)
  | consumeRadioStart (attemptId messageId : Identifier) (subscriptionId segmentCount now : Int)
  | markAcknowledgedNoRadio (attemptId : Identifier) (now : Int) (fresh : Identifier)
  | markPreflightNoRadio (attemptId : Identifier) (now : Int) (fresh : Identifier)
  | retireOrphanedAlphaIntents (now : Int) (excluded : List Identifier)
      (keepCurrent : AlphaRadioEvent → Bool) (fresh : Identifier → Identifier)
  | recordCallback (attemptId : Identifier) (callback : Callback) (now : Int)
      (fresh later : Identifier)
  | markInterrupted (now : Int)
  | markUnsentReservations (now : Int)
  | markStalledSubmission (attemptId : Identifier) (now : Int)
  | markTimedOutDeliveries (cutoff now : Int)
  | acknowledgeAlphaEvent (eventId : Identifier) (now : Int)

namespace Journal

/-- The journal after an operation. -/
def perform (journal : Journal) (surroundings : Surroundings) : Operation → Journal
  | .reserveAlpha attemptId messageId subscriptionId segmentCount intentEventId
    now approvedSenderToken identity =>
    ((reserveAlpha surroundings attemptId messageId subscriptionId
      segmentCount intentEventId now approvedSenderToken identity).commit journal).2
  | .acknowledgeAlphaIntent eventId permitted now fresh =>
    ((acknowledgeAlphaIntent surroundings eventId permitted now fresh).commit journal).2
  | .consumeRadioStart attemptId messageId subscriptionId segmentCount now =>
    ((consumeRadioStart surroundings attemptId messageId subscriptionId
      segmentCount now).commit journal).2
  | .markAcknowledgedNoRadio attemptId now fresh =>
    ((markAcknowledgedNoRadio surroundings attemptId now fresh).commit journal).2
  | .markPreflightNoRadio attemptId now fresh =>
    ((markPreflightNoRadio surroundings attemptId now fresh).commit journal).2
  | .retireOrphanedAlphaIntents now excluded keepCurrent fresh =>
    ((retireOrphanedAlphaIntents surroundings now excluded keepCurrent
      fresh).commit journal).2
  | .recordCallback attemptId callback now fresh later =>
    ((recordCallback surroundings attemptId callback now fresh later).commit journal).2
  | .markInterrupted now =>
    ((markInterrupted surroundings now).commit journal).2
  | .markUnsentReservations now =>
    ((markUnsentReservations surroundings now).commit journal).2
  | .markStalledSubmission attemptId now =>
    ((markStalledSubmission surroundings attemptId now).commit journal).2
  | .markTimedOutDeliveries cutoff now =>
    ((markTimedOutDeliveries surroundings cutoff now).commit journal).2
  | .acknowledgeAlphaEvent eventId now =>
    ((acknowledgeAlphaEvent surroundings eventId now).commit journal).2

/-- An operation, with what it reads from the other components. -/
abbrev Step := Surroundings × Operation

/-- The journal after a sequence of operations. -/
def run (journal : Journal) (steps : List Step) : Journal :=
  steps.foldl (fun current step => current.perform step.1 step.2) journal

end Journal

end Zrotext.Phone
