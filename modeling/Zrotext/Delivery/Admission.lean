import Zrotext.Delivery.Request

/-!
# Admission

The acceptance of a message: idempotency key, quota reservation, message and job
are written together or not at all.  A reservation is refunded when its message
is cancelled or expires before any grant.
-/

namespace Zrotext.Delivery

open Domain Foundation Transaction

/-- Whether a message holds a reservation. -/
def Tables.reservationExists (tables : Tables) (accountId messageId : Uuid) : Bool :=
  tables.ledger.any fun entry => entry.accountId == accountId &&
    entry.messageId == messageId && entry.entryKind == .reserve

variable (account : BillingAccount)

/-- Whether billing lets a billed account send. -/
def billingAllows (clockNow : Time) : Except StoreError Unit :=
  if account.riskHeld then
    .error .paymentHold
  else if account.reconciliations = 0 ∨
      account.processedReconciliations ≠ account.reconciliations then
    .error .quotaNotConfigured
  else if account.policy.any QuotaPolicy.invoiceBound ∧ ¬ account.invoiceTriggersInstalled then
    .error .quotaNotConfigured
  else if 0 < account.pastDueSubscriptions ∧ account.graceElapsed clockNow then
    .error .quotaExceeded
  else
    .ok ()

/-- What the policy of an account says. -/
def policyLimit (billed : Bool) : Except StoreError (Int × Bool) :=
  match account.policy with
  | none => .error .quotaNotConfigured
  | some policy =>
    if policy.invoiceBound ∧ ¬ billed then
      .error .quotaNotConfigured
    else if billed ∧ ¬ policy.stripeTest then
      .error .quotaNotConfigured
    else
      .ok (policy.limitUnits, policy.invoiceBound)

/-- The limit of an account and whether it is bound to an invoice, if billing
lets the account send. -/
def quotaLimit (billed : Bool) (clockNow : Time) : Except StoreError (Int × Bool) := do
  if billed then billingAllows account clockNow else .ok ()
  policyLimit account billed

/-- The rows of a period with one more unit reserved, if there is one left. -/
def reservePeriod (accountId : Uuid) (periodStart limit : Int) (invoiceBound : Bool)
    (periods : List UsagePeriod) : Option (List UsagePeriod) :=
  let selects (period : UsagePeriod) : Bool :=
    period.accountId == accountId && period.periodStart == periodStart
  match periods.find? selects with
  | none =>
    if invoiceBound ∨ 0 < limit then
      some (periods ++ [{ accountId, periodStart, limitUnits := limit
                          reservedUnits := 1, refundedUnits := 0 }])
    else
      none
  | some period =>
    if invoiceBound ∨ period.reservedUnits - period.refundedUnits < period.limitUnits then
      some (Table.update selects
        (fun period => { period with reservedUnits := period.reservedUnits + 1 }) periods)
    else
      none

variable (deployment : Deployment) (directory : Directory) (clock : Clock) (input : NewMessage)

variable (accountId messageId : Uuid)

/-- Reserve a unit for a message. -/
def reserveUnit (billed : Bool) : StoreTransaction PUnit := do
  let (limit, invoiceBound) ← compute
    (quotaLimit (directory.billing accountId) billed (clock.reading 0))
  let periodStart := deployment.monthStart clock.now
  let tables ← get
  let periods ← demand .quotaExceeded
    (reservePeriod accountId periodStart limit invoiceBound tables.periods)
  set { tables with periods }
  insertLedgerEntry { accountId, messageId, periodStart, entryKind := .reserve }
  refuse .quotaExceeded (invoiceBound && !(directory.billing accountId).invoiceBudgetAvailable)

/-- Reserve a unit if the account is metered. -/
def reserveOutbound : Option Bool → StoreTransaction PUnit
  | some billed =>
    reserveUnit deployment directory clock accountId messageId billed
  | none => do
    let (hosted, billed) ← compute (directory.billing accountId).scope
    if hosted then
      pure ⟨⟩
    else
      reserveUnit deployment directory clock accountId messageId billed

/-- Whether the reservation of an entry was refunded. -/
def isRefunded (ledger : List LedgerEntry) (entry : LedgerEntry) : Bool :=
  ledger.any fun other => other.entryKind == .refund &&
    other.accountId == entry.accountId && other.messageId == entry.messageId

/-- The refunds of the selected reservations that were not refunded before. -/
def pendingRefunds (selects : LedgerEntry → Bool) (ledger : List LedgerEntry) : List LedgerEntry :=
  (ledger.filter fun entry => entry.entryKind == .reserve && selects entry &&
    !isRefunded ledger entry).map
    fun entry => { entry with entryKind := .refund }

/-- The periods with some entries of the ledger refunded. -/
def refundPeriods (refunds : List LedgerEntry) (periods : List UsagePeriod) : List UsagePeriod :=
  periods.map fun period =>
    { period with
      refundedUnits := period.refundedUnits + refunds.countP fun entry =>
        entry.accountId == period.accountId &&
          entry.periodStart == period.periodStart }

/-- No period refunds more than it reserved. -/
def refundsCovered (periods : List UsagePeriod) : Bool :=
  periods.all fun period => decide (period.refundedUnits ≤ period.reservedUnits)

/-- Refund the selected reservations, each once. -/
def refundReserved (selects : LedgerEntry → Bool) : StoreTransaction PUnit := do
  let tables ← get
  let refunds := pendingRefunds selects tables.ledger
  let periods := refundPeriods refunds tables.periods
  refuse (.database .checkViolation) (!refundsCovered periods)
  set { tables with ledger := tables.ledger ++ refunds, periods }

/-- Refund the reservation of a message. -/
def refundOutbound : StoreTransaction PUnit := refundReserved fun entry =>
    entry.accountId == accountId && entry.messageId == messageId

/-- Lock the account of an acceptance.  The result says whether a reservation
is required and whether the account is billed, where that is known. -/
def lockBillingAccount (billingEnabled : Bool) : StoreTransaction (Bool × Option Bool) := do
  let (hosted, bound) ← compute (directory.billing accountId).scope
  let _ ← expectRow (directory.accountDisabled accountId)
  if hosted then
    pure (false, none)
  else if bound then
    pure (true, some true)
  else do
    refuse .quotaNotConfigured (directory.billing accountId).boundAfterLock
    pure (billingEnabled, some false)

/-- Whether the account is hosted, and whether it is billed. -/
def admissionScope : MeteringTime → StoreTransaction (Bool × Option Bool)
  | .alpha billingEnabled =>
    lockBillingAccount directory accountId billingEnabled
  | .database => do
    let _ ← expectRow (directory.accountDisabled accountId)
    pure (true, none)
  | .unmetered => do
    let _ ← expectRow (directory.accountDisabled accountId)
    pure (false, none)

/-- What became of a new idempotency key. -/
inductive KeyInsertion
  | inserted | retained | messageIdTaken
deriving DecidableEq

/-- The keys after the insertion of one.  An expired key of the same name is
replaced, a retained one stays. -/
def insertedKeys (row : IdempotencyKey)
    (keys : List IdempotencyKey) : KeyInsertion × List IdempotencyKey :=
  let named (key : IdempotencyKey) : Bool := key.accountId == row.accountId && key.key == row.key
  let taken (key : IdempotencyKey) : Bool := !named key && key.messageId == row.messageId
  match keys.find? named with
  | some old =>
    if clock.now < old.expiresAt then
      (.retained, keys)
    else if keys.any taken then
      (.messageIdTaken, keys)
    else
      (.inserted, Table.update named (fun _ => row) keys)
  | none =>
    if keys.any taken then
      (.messageIdTaken, keys)
    else
      (.inserted, keys ++ [row])

/-- Insert an idempotency key. -/
def insertKey (row : IdempotencyKey) : StoreTransaction KeyInsertion := do
  let tables ← get
  let insertion := insertedKeys clock row tables.keys
  set { tables with keys := insertion.2 }
  pure insertion.1

/-- The current label of the line that a message was admitted for. -/
def messageLineLabel (tables : Tables) (accountId messageId : Uuid) : Option Text := do
  let message ← tables.messages.find? fun message =>
    message.accountId == accountId && message.id == messageId
  let lineId ← message.lineId
  directory.lineLabel accountId lineId

/-- A request whose message exists already. -/
def replayedMessage (reservationRequired : Bool) : StoreTransaction AcceptOutcome := do
  let tables ← get
  refuse .idempotencyConflict (reservationRequired && !tables.reservationExists accountId messageId)
  pure { messageId, created := false
         lineLabel := messageLineLabel directory tables accountId messageId }

/-- A request under a retained key. -/
def replayKey (digest : Bytes)
    (metering : MeteringTime) (requireReservation : Bool) : StoreTransaction AcceptOutcome := do
  let tables ← get
  let found := tables.keys.find? fun key => key.accountId == input.accountId &&
    key.key == input.idempotencyKey && decide (clock.now < key.expiresAt)
  match found with
  | none => do
    compute (validateNewExpiry clock input.expiresAtMs metering)
    throw .messageIdConflict
  | some key => do
    refuse .idempotencyConflict (key.requestDigest != digest)
    replayedMessage directory input.accountId key.messageId
      (requireReservation && !metering.isAlpha)

/-- The line, the device and the label that a request is routed to. -/
def routeRequest (allowedDevice : Option Uuid) :
    StoreTransaction (Option Uuid × Uuid × Option Text) :=
  match input.lineLabel with
  | none => pure (none, input.deviceId, none)
  | some label => do
    let outcome ← compute (directory.routeLine
      { accountId := input.accountId, deviceId := input.deviceId, label
        fallbackForbidden := input.noFallback, allowedDevice })
    match outcome with
    | .admitted lineId lineLabel deviceId =>
      pure (some lineId, deviceId, lineLabel)
    | .refused code refusedLabel => throw (.lineNotReady code refusedLabel)

/-- Queued and claimed messages that are still due. -/
def Tables.pending (tables : Tables) (now : Time) (accountId : Uuid) : List Message :=
  tables.messages.filter fun message => message.accountId == accountId &&
    (message.state == .queued || message.state == .claimed) &&
    decide (now < message.expiresAt)

/-- Make a reservation if one is required. -/
def reserveIf (required : Bool) (reserve : StoreTransaction PUnit) : StoreTransaction PUnit :=
  if required then reserve else pure ⟨⟩

/-- The job of a new message. -/
def newJob (deviceId messageId : Uuid) : DispatchJob :=
  { messageId, accountId, deviceId
    nextAttemptAt := clock.now, generation := 0, leaseOwner := none, leaseUntil := none
    grantIssuedAt := none, finishedAt := none }

/-- The row of a new message. -/
def newMessageRow (digest : Bytes) (lineId : Option Uuid) (deviceId : Uuid) : Message :=
  { id := messageId, accountId := input.accountId, deviceId
    recipientE164 := some input.recipientE164
    recipientDigest := deployment.sha256 (utf8 input.recipientE164)
    transportMode := .syntheticAlpha, transportPayload := some input.syntheticPayload
    requestDigest := digest, state := .queued, stateVersion := 1
    expiresAt := ofMillis input.expiresAtMs, updatedAt := clock.now
    lineId }

/-- Create the message of a new key. -/
def createMessage (digest : Bytes) (metering : MeteringTime)
    (allowedDevice : Option Uuid) (requireReservation : Bool)
    (bound : Option Bool) : StoreTransaction AcceptOutcome := do
  compute (validateNewExpiry clock input.expiresAtMs metering)
  let (lineId, deviceId, lineLabel) ← routeRequest directory input allowedDevice
  let tables ← get
  let pending := tables.pending clock.now input.accountId
  refuse .queueFull (decide (maxPendingPerDevice ≤ pending.countP (·.deviceId == deviceId)) ||
      decide (maxPendingPerAccount ≤ pending.length))
  let created ← insertMessage
    (newMessageRow deployment clock input messageId digest lineId deviceId)
  if created then do
    refuse (.database .foreignKeyViolation)
      (directory.deviceRevoked input.accountId deviceId).isNone
    reserveIf requireReservation
      (reserveOutbound deployment directory clock input.accountId messageId bound)
    insertJob (newJob clock input.accountId deviceId messageId)
    pure { messageId, created := true, lineLabel }
  else do
    let message ← expectRow (tables.messages.find? (·.id == messageId))
    refuse .messageIdConflict
      (message.accountId != input.accountId || message.requestDigest != digest)
    replayedMessage directory input.accountId messageId requireReservation

/-- The idempotency key of a request. -/
def newKey : IdempotencyKey :=
  { accountId := input.accountId, key := input.idempotencyKey
    requestDigest := requestDigest deployment input, messageId
    expiresAt := clock.now + seconds (deployment.idempotencyDays * 86400) }

/-- Accept a message. -/
def acceptInner (metering : MeteringTime)
    (allowedDevice : Option Uuid) : StoreTransaction AcceptOutcome := do
  compute (validateMessage input)
  let digest := requestDigest deployment input
  enterHostedTransaction deployment
  let (requireReservation, bound) ← admissionScope directory input.accountId metering
  refuse .recipientSuppressed (directory.suppressed input.accountId input.recipientE164)
  let insertion ← insertKey clock (newKey deployment clock input messageId)
  match insertion with
  | .messageIdTaken => do
    compute (validateNewExpiry clock input.expiresAtMs metering)
    throw .messageIdConflict
  | .retained =>
    replayKey directory clock input digest metering requireReservation
  | .inserted =>
    createMessage deployment directory clock input messageId digest metering
      allowedDevice requireReservation bound

/-- Accept a message without a quota. -/
def accept : StoreTransaction AcceptOutcome :=
  acceptInner deployment directory clock input input.clientMessageId .unmetered none

/-- Accept a message under the quota of its account. -/
def acceptMetered : StoreTransaction AcceptOutcome :=
  acceptInner deployment directory clock input input.clientMessageId .database none

/-- Accept a message of the alpha under an identifier of its own. -/
def acceptAlpha (billingEnabled : Bool)
    (allowedDevice : Option Uuid) : StoreTransaction AcceptOutcome :=
  acceptInner deployment directory clock input
    (alphaMessageId deployment input.accountId input.clientMessageId)
    (.alpha billingEnabled) allowedDevice

end Zrotext.Delivery
