import Zrotext.Delivery.Dispatch

/-!
# Radio evidence

What devices report about their attempts, and what the sweeps conclude from
silence.
-/

namespace Zrotext.Delivery

open Domain Foundation Transaction

/-- Callbacks of the radio, and conflicts between them. -/
def EvidenceCode.isContrary : EvidenceCode → Bool
  | .sentCallbackOk | .sentCallbackFailed | .deliveryCallbackOk
  | .callbackConflict => true
  | _ => false

/-- What the recorded evidence of an attempt already says. -/
structure PriorAttemptEvidence where
  (conflicted contrary durableIntent : Bool)
  (sentCallbacks sentOk sentOtherCount : Nat)
deriving DecidableEq

/-- What some events say, seen from a report that declares a segment count. -/
def evidenceOf (events : List MessageEvent) (segmentCount : Option Int) : PriorAttemptEvidence :=
  { conflicted := events.any (·.evidenceCode == .callbackConflict)
    contrary := events.any (·.evidenceCode.isContrary)
    durableIntent := events.any (·.evidenceCode == .durableIntent)
    sentCallbacks := events.countP (·.evidenceCode.isSentCallback)
    sentOk := events.countP (·.evidenceCode == .sentCallbackOk)
    sentOtherCount := events.countP fun event =>
      event.evidenceCode.isSentCallback &&
        event.segmentCount.any fun count =>
          segmentCount.any fun declared => count != declared }

/-- What the recorded events say about an attempt. -/
def priorAttemptEvidence (tables : Tables) (attemptId : Uuid)
    (segmentCount : Option Int) : PriorAttemptEvidence :=
  evidenceOf (tables.events.filter (·.attemptId == attemptId)) segmentCount

/-- The message of a report.  A sealed intent needs the identity behind its
attempt. -/
def radioMessage (directory : Directory) (tables : Tables)
    (event : RadioEvent) : Except StoreError Message :=
  let rows := tables.messages.filter fun message =>
    message.accountId == event.accountId && message.id == event.messageId
  if event.evidence = .durableSubmitIntent ∧ rows.any (·.transportMode == .sealedCandidate02) ∧
      ¬ directory.sealedIdentityLocked event.accountId event.messageId
        event.deviceId event.attemptId then
    .error .staleFence
  else
    match rows.head? with
    | none => .error .notFound
    | some message =>
      if message.transportMode = .sealedProfile03 then
        .error .invalidTransition
      else if message.recipientE164 = none then
        .error .staleFence
      else
        .ok message

variable (deployment : Deployment) (clock : Clock) (event : RadioEvent)

/-- The report is about an attempt. -/
def RadioEvent.isOf (attempt : MessageAttempt) : Bool :=
  attempt.id == event.attemptId && attempt.accountId == event.accountId &&
    attempt.messageId == event.messageId && attempt.deviceId == event.deviceId

/-- The attempt of a report exists, the report is not out of its time, and the
attempt still holds the fence of its message. -/
def admitEvidence (tables : Tables) (event : RadioEvent) : Except StoreError PUnit :=
  match tables.attempts.find? event.isOf with
  | none => .error .staleFence
  | some attempt => do
    validateRadioTimestamp event.observedAtMs (toMillis attempt.createdAt)
      (toMillis (clock.reading 0))
    if tables.fences.any fun fence => fence.attemptId == event.attemptId &&
        fence.accountId == event.accountId &&
        fence.messageId == event.messageId &&
        fence.deviceId == event.deviceId then
      pure ⟨⟩
    else
      throw .staleFence

/-- What a callback of one segment makes of the state. -/
def segmentState (current : MessageState) (evidence : Evidence) (count : Int)
    (prior : PriorAttemptEvidence) : Except InvalidTransition MessageState :=
  if evidence = .sentCallbackFailed then
    if count = 1 then
      current.apply .sentCallbackFailed
    else if current = .unknown then
      .ok current
    else
      current.apply .partialSentCallbacks
  else if (prior.sentOk : Int) + 1 = count then
    current.apply .sentCallbackOk
  else if current = .submitting ∨ current = .unknown then
    .ok current
  else
    .error { state := current, evidence }

/-- The state after a callback of one segment. -/
def sentCallbackState (current : MessageState) (evidence : Evidence) (count : Int)
    (prior : PriorAttemptEvidence) : Except StoreError MessageState :=
  if prior.sentOtherCount ≠ 0 ∨ count ≤ prior.sentCallbacks then
    .error .invalidInput
  else
    (segmentState current evidence count prior).mapError fun _ => .invalidTransition

/-- The state after a report. -/
def radioState (current : MessageState) (event : RadioEvent)
    (prior : PriorAttemptEvidence) : Except StoreError MessageState :=
  if event.evidence ≠ .callbackConflict ∧ prior.conflicted then
    .error .invalidTransition
  else if event.evidence = .provenNoSubmit ∧ prior.contrary then
    .error .invalidTransition
  else if (event.evidence = .callbackConflict ∨
      isSentCallback event.evidence) ∧ ¬ prior.durableIntent then
    .error .invalidTransition
  else if isSentCallback event.evidence then
    match event.segmentCount with
    | none => .error .invalidInput
    | some count => sentCallbackState current event.evidence count prior
  else
    (current.apply event.evidence).mapError fun _ => .invalidTransition

/-- What a no-submit proof releases. -/
def releaseFence : StoreTransaction PUnit := do
  updateAttempts (·.id == event.attemptId)
    (MessageAttempt.become .provedNoSubmit clock.now)
  deleteFences (·.attemptId == event.attemptId)
  updateJobs (·.messageId == event.messageId) (DispatchJob.requeue clock.now)

/-- The attempt and its fence follow the state of the message. -/
def followState (next : MessageState) : StoreTransaction PUnit :=
  match attemptStatus next with
  | none => pure ⟨⟩
  | some status => do
    updateAttempts (·.id == event.attemptId) (MessageAttempt.become status clock.now)
    updateFences (·.attemptId == event.attemptId) (DispatchFence.record status)

variable (code : EvidenceCode) (directory : Directory)

/-- The row under which a report is kept. -/
def eventRow (resultingState : MessageState) : MessageEvent :=
  { id := event.eventId, accountId := event.accountId, messageId := event.messageId
    attemptId := event.attemptId, evidenceCode := code
    eventDigest := radioEventDigest deployment event code, observedAt := ofMillis event.observedAtMs
    resultingState, segmentIndex := event.segmentIndex
    segmentCount := event.segmentCount }

/-- Write a report that was admitted. -/
def writeEvidence (next : MessageState) : StoreTransaction PUnit := do
  updateMessages
    (fun message => message.accountId == event.accountId && message.id == event.messageId)
    (Message.moveTo next clock.now)
  insertEvent (eventRow deployment event code next)
  if event.evidence = .provenNoSubmit then
    releaseFence clock event
  else
    followState clock event next

/-- A sealed intent must still be live when it is written. -/
def sealedIntentLive (clock : Clock) (event : RadioEvent)
    (message : Message) : StoreTransaction PUnit :=
  if event.evidence = .durableSubmitIntent ∧ message.transportMode = .sealedCandidate02 then do
    refuse (.database .raised) (!directory.agentActionLive event.accountId event.messageId)
    let tables ← get
    refuse .staleFence (!(directory.sealedGrantCurrent event.attemptId &&
        tables.fences.any fun fence => fence.attemptId == event.attemptId &&
          fence.outcome == .submitting &&
          decide (clock.reading 1 < fence.grantExpiresAt)))
  else
    pure ⟨⟩

/-- Record a report that was not recorded before. -/
def recordFresh (clock : Clock) (event : RadioEvent) (code : EvidenceCode)
    (message : Message) : StoreTransaction MessageState := do
  let tables ← get
  compute (admitEvidence clock tables event)
  let next ← compute (radioState message.state event
    (priorAttemptEvidence tables event.attemptId event.segmentCount))
  writeEvidence deployment clock event code next
  sealedIntentLive directory clock event message
  pure next

/-- Record what a device reports.  A report that was recorded before is
answered as it was then. -/
def recordRadioEvent (clock : Clock) (event : RadioEvent) : StoreTransaction MessageState := do
  let code ← demand .invalidInput (evidenceCode event.evidence)
  refuse .invalidInput (malformedRadioEvent event)
  enterHostedTransaction deployment
  let tables ← get
  let message ← compute (radioMessage directory tables event)
  match tables.events.find? (·.id == event.eventId) with
  | some existing => do
    refuse .eventIdConflict (existing.eventDigest != radioEventDigest deployment event code)
    pure existing.resultingState
  | none => recordFresh deployment directory clock event code message

/-- A message with its fence and the attempt that holds it. -/
structure FencedAttempt where
  message : Message
  fence : DispatchFence
  attempt : MessageAttempt
deriving DecidableEq

/-- Messages with their fences and attempts. -/
def Tables.fencedAttempts (tables : Tables) : List FencedAttempt :=
  tables.messages.flatMap fun message =>
    (tables.fences.filter fun fence => fence.accountId == message.accountId &&
      fence.messageId == message.id).flatMap fun fence =>
        (tables.attempts.filter (·.id == fence.attemptId)).map fun attempt =>
          { message, fence, attempt }

/-- The order of a sweep. -/
def sweptBefore (first second : FencedAttempt) : Prop :=
  first.message.updatedAt < second.message.updatedAt ∨
    first.message.updatedAt = second.message.updatedAt ∧
      first.message.id ≤ second.message.id

instance : DecidableRel sweptBefore := fun _ _ =>
  inferInstanceAs (Decidable (_ ∨ _))

/-- The rows of one batch of a sweep. -/
def Tables.sweep (tables : Tables) (selects : FencedAttempt → Bool) (limit : Nat)
    (locked : Uuid → Bool) : List FencedAttempt :=
  (((tables.fencedAttempts.filter selects).insertionSort sweptBefore).filter
    fun row => !locked row.message.id).take limit

/-- Insert events one after the other. -/
def insertEvents : List MessageEvent → StoreTransaction PUnit
  | [] => pure ⟨⟩
  | event :: rest => do
    insertEvent event
    insertEvents rest

/-- The event that a sweep writes for a row. -/
def sweepEvent (resultingState : MessageState) (row : FencedAttempt) (id : Uuid) : MessageEvent :=
  { id, accountId := row.message.accountId
    messageId := row.message.id, attemptId := row.attempt.id, evidenceCode := code
    eventDigest := sweepEventDigest deployment row.message.accountId
      row.message.id row.attempt.id code
    observedAt := clock.now, resultingState, segmentIndex := none, segmentCount := none }

/-- The events that a sweep writes, under identifiers of its own. -/
def sweepEvents (fresh : Nat → Uuid)
    (codeOf : FencedAttempt → EvidenceCode) (resultingState : MessageState)
    (rows : List FencedAttempt) : List MessageEvent :=
  rows.zipIdx.map fun (row, index) =>
    sweepEvent deployment clock (codeOf row) resultingState row (fresh index)

/-- The messages of swept rows move to another state. -/
def sweepMessages (state : MessageState) (rows : List FencedAttempt) : StoreTransaction PUnit :=
  updateMessages (fun message => rows.any fun row =>
      row.message.accountId == message.accountId && row.message.id == message.id)
    (Message.moveTo state clock.now)

/-- Attempts that have been silent for too long. -/
def isSilent (row : FencedAttempt) : Bool := row.message.transportMode != .sealedProfile03 &&
    (row.message.state == .claimed && row.fence.outcome == .granted &&
        decide (row.fence.grantExpiresAt ≤ clock.now) ||
      row.message.state == .submitting && row.fence.outcome == .submitting &&
        decide (row.attempt.updatedAt ≤ clock.now - seconds 120))

/-- The evidence that silence amounts to. -/
def silenceCode (row : FencedAttempt) : EvidenceCode :=
  if row.message.state = .claimed then .grantTimeout else .sentCallbackTimeout

/-- Silence after a grant is ambiguous: the attempt becomes unknown and keeps
its fence. -/
def reconcileSilentAttempts (limit : Nat)
    (locked : Uuid → Bool) (fresh : Nat → Uuid) : StoreTransaction Nat := do
  refuse .invalidInput (invalidLimit limit)
  enterHostedTransaction deployment
  let tables ← get
  let rows := tables.sweep (isSilent clock) limit locked
  sweepMessages clock .unknown rows
  updateAttempts (fun attempt => rows.any (·.attempt.id == attempt.id))
    (MessageAttempt.become .unknown clock.now)
  updateFences (fun fence => rows.any (·.attempt.id == fence.attemptId))
    (DispatchFence.record .unknown)
  insertEvents (sweepEvents deployment clock fresh silenceCode .unknown rows)
  pure rows.length

/-- Submitted messages without a receipt for a day. -/
def lacksReceipt (row : FencedAttempt) : Bool :=
  row.message.state == .submitted && row.fence.outcome == .submitted &&
    row.attempt.status == .submitted &&
    row.message.transportMode != .sealedProfile03 &&
    decide (row.message.updatedAt ≤ clock.now - seconds 86400)

/-- An absent receipt leaves the delivery unknown. -/
def reconcileDeliveryTimeouts (limit : Nat)
    (locked : Uuid → Bool) (fresh : Nat → Uuid) : StoreTransaction Nat := do
  refuse .invalidInput (invalidLimit limit)
  enterHostedTransaction deployment
  let tables ← get
  let rows := tables.sweep (lacksReceipt clock) limit locked
  sweepMessages clock .deliveryUnknown rows
  insertEvents (sweepEvents deployment clock fresh (fun _ => .deliveryTimeout)
    .deliveryUnknown rows)
  pure rows.length

end Zrotext.Delivery
