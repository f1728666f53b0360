import Zrotext.Delivery.Admission

/-!
# Dispatch

Sessions, claims, grants, and the two ways in which a message ends before any
grant: it is cancelled, or it expires.
-/

namespace Zrotext.Delivery

open Domain Foundation Transaction

/-- Messages that no grant was issued for yet are queued or claimed. -/
def isPending : MessageState → Bool
  | .queued | .claimed => true
  | _ => false

/-- The largest number that the database stores in eight bytes. -/
def bigintMax : Nat := 2 ^ 63 - 1

/-- The sessions after a device has connected, and the epoch of its session. -/
def upsertSession (session : DeviceSession)
    (sessions : List DeviceSession) : List DeviceSession × Nat :=
  match sessions.find? (·.deviceId == session.deviceId) with
  | none => (sessions ++ [session], session.connectionEpoch)
  | some prior =>
    let epoch := prior.connectionEpoch + 1
    (Table.update (·.deviceId == session.deviceId)
      (fun _ => { session with connectionEpoch := epoch }) sessions, epoch)

/-- The sites with one more, unless it is known. -/
def insertSite (siteId : Text) (sites : List Site) : List Site :=
  if sites.any (·.siteId == siteId) then
    sites
  else
    sites ++ [{ siteId, enabled := true, draining := false }]

variable (deployment : Deployment)

/-- Give a device a session whose epoch is above that of the session before. -/
def connectSession (directory : Directory) (clock : Clock)
    (accountId deviceId : Uuid) (siteId instanceId : Text)
    (leaseSeconds : Int) : StoreTransaction SessionRecord := do
  refuse .invalidInput (siteId.isEmpty || instanceId.isEmpty ||
    decide (¬ (1 ≤ leaseSeconds ∧ leaseSeconds ≤ 300)))
  enterHostedTransaction deployment
  let revoked ← demand .notFound (directory.deviceRevoked accountId deviceId)
  refuse .revoked revoked
  let tables ← get
  let (sessions, epoch) := upsertSession
    { deviceId, accountId, siteId, instanceId
      connectionEpoch := 1, leaseUntil := clock.now + seconds leaseSeconds
      deploymentEpoch := directory.deploymentEpoch } tables.sessions
  refuse (.database .numericOutOfRange) (decide (bigintMax < epoch))
  set { tables with sites := insertSite siteId tables.sites, sessions }
  pure { accountId, deviceId, siteId, instanceId, epoch
         deploymentEpoch := directory.deploymentEpoch }

/-- Jobs with their messages. -/
def Tables.jobMessages (tables : Tables) : List (DispatchJob × Message) :=
  tables.jobs.flatMap fun job =>
    (tables.messages.filter (·.id == job.messageId)).map fun message =>
      (job, message)

/-- What a worker asks for. -/
structure ClaimRequest where
  workerId : Text
  (accountId deviceId : Option Uuid)
  recipientDigest : Option Bytes
  withContent : Bool
deriving DecidableEq

variable (directory : Directory) (clock : Clock)

/-- Whether a worker may lease a job. -/
def claimable (request : ClaimRequest) (job : DispatchJob) (message : Message) : Bool :=
  decide (job.nextAttemptAt ≤ clock.now) &&
    job.leaseUntil.all (fun lease => decide (lease < clock.now)) &&
    job.grantIssuedAt.isNone && job.finishedAt.isNone &&
    isPending message.state && decide (clock.now < message.expiresAt) &&
    message.transportMode == .syntheticAlpha &&
    directory.deviceRevoked job.accountId job.deviceId == some false &&
    message.lineId.all (fun lineId => directory.lineReady message.accountId
      lineId job.deviceId (clock.reading 0)) &&
    request.accountId.all (· == job.accountId) &&
    request.deviceId.all (· == job.deviceId) &&
    request.recipientDigest.all (· == message.recipientDigest)

/-- Jobs are leased in the order in which they are due. -/
def dueBefore (first second : DispatchJob × Message) : Prop :=
  first.1.nextAttemptAt < second.1.nextAttemptAt ∨
    first.1.nextAttemptAt = second.1.nextAttemptAt ∧
      first.1.messageId ≤ second.1.messageId

instance : DecidableRel dueBefore := fun _ _ =>
  inferInstanceAs (Decidable (_ ∨ _))

/-- The job that a worker gets: the first one that is due and that no other
transaction has locked. -/
def pickJob (request : ClaimRequest) (locked : Uuid → Bool)
    (tables : Tables) : Option (DispatchJob × Message) :=
  ((tables.jobMessages.filter fun row =>
    claimable directory clock request row.1 row.2).insertionSort
      dueBefore).find? fun row => !locked row.1.messageId

/-- What a claimed message says, unless it was erased. -/
def contentOf (message : Message) : Option ClaimedContent := do
  let recipientE164 ← message.recipientE164
  let transportPayload ← message.transportPayload
  pure { recipientE164, transportPayload
         transportMode := message.transportMode }

/-- Lease a job that is due to a worker. -/
def claimDueWithContent (directory : Directory) (clock : Clock)
    (request : ClaimRequest) (locked : Uuid → Bool) :
    StoreTransaction (Option (Claim × Option ClaimedContent)) := do
  refuse .invalidInput request.workerId.isEmpty
  enterHostedTransaction deployment
  let tables ← get
  match pickJob directory clock request locked tables with
  | none => pure none
  | some (job, message) => do
    updateJobs (·.messageId == job.messageId)
      (DispatchJob.lease request.workerId (clock.now + seconds 30))
    updateMessages (fun row => row.accountId == job.accountId &&
        row.id == job.messageId && isPending row.state)
      (Message.moveTo .claimed clock.now)
    pure (some (
      { accountId := job.accountId, messageId := job.messageId, deviceId := job.deviceId
        generation := job.generation + 1
        workerId := request.workerId },
      if request.withContent then contentOf message else none))

variable (tables : Tables) (accountId : Uuid) (claim : Claim) (session : SessionRecord)

/-- Cancel a message that has no grant. -/
def cancelPreGrant (messageId : Uuid) : StoreTransaction PUnit := do
  updateMessages
    (fun message => message.accountId == accountId && message.id == messageId)
    (Message.moveTo .cancelled (clock.reading 1))
  updateJobs
    (fun job => job.accountId == accountId && job.messageId == messageId)
    (DispatchJob.finish (clock.reading 2))
  refundOutbound accountId messageId

/-- Cancel the message of a locked job that has no grant. -/
def cancelMessage (messageId : Uuid) (message : Message) : StoreTransaction Bool := do
  refuse .invalidTransition
    (message.transportMode == .sealedProfile03)
  if message.state == .cancelled && message.transportMode == .sealedCandidate02 then
    pure true
  else do
    refuse .invalidTransition (message.transportMode == .sealedCandidate02 &&
        decide (message.expiresAt ≤ clock.reading 0))
    let _ ← compute ((message.state.apply .cancel).mapError fun _ =>
        StoreError.invalidTransition)
    cancelPreGrant clock accountId messageId
    pure true

/-- Cancel a message that was not granted. -/
def cancelInTransaction (messageId : Uuid) : StoreTransaction Bool := do
  let tables ← get
  match tables.jobs.find? fun job =>
      job.accountId == accountId && job.messageId == messageId with
  | none => pure false
  | some job => do
    refuse .invalidTransition job.grantIssuedAt.isSome
    let message ← expectRow (tables.messages.find? fun message =>
      message.accountId == accountId && message.id == messageId)
    cancelMessage clock accountId messageId message

/-- A tenant cancels a message. -/
def cancel (clock : Clock) (accountId messageId : Uuid) : StoreTransaction Bool := do
  enterHostedTransaction deployment
  cancelInTransaction clock accountId messageId

/-- Messages to a recipient that no grant was issued for. -/
def Tables.pendingRecipient (recipient : Text) : List Uuid := ((tables.jobMessages.filter fun row =>
    row.1.accountId == accountId && row.2.accountId == accountId &&
      row.2.recipientE164 == some recipient &&
      row.1.grantIssuedAt.isNone && row.1.finishedAt.isNone &&
      row.2.transportMode != .sealedProfile03 &&
      isPending row.2.state).map (·.1.messageId)).insertionSort (· ≤ ·)

/-- Cancel messages one after the other. -/
def cancelAll (clock : Clock) (accountId : Uuid) : List Uuid → StoreTransaction PUnit
  | [] => pure ⟨⟩
  | messageId :: rest => do
    cancelPreGrant clock accountId messageId
    cancelAll clock accountId rest

/-- Cancel what waits for a recipient who has withdrawn. -/
def cancelPendingRecipient (recipient : Text) : StoreTransaction Nat := do
  let _ ← expectRow (directory.accountDisabled accountId)
  let tables ← get
  let picked := tables.pendingRecipient accountId recipient
  cancelAll clock accountId picked
  pure picked.length

/-- The order in which messages expire. -/
def expiresBefore (first second : DispatchJob × Message) : Prop :=
  first.2.expiresAt < second.2.expiresAt ∨
    first.2.expiresAt = second.2.expiresAt ∧ first.2.id ≤ second.2.id

instance : DecidableRel expiresBefore := fun _ _ =>
  inferInstanceAs (Decidable (_ ∨ _))

/-- Whether a message has expired before any grant. -/
def hasExpired (message : Message) : Bool :=
  isPending message.state && decide (message.expiresAt ≤ clock.now) &&
    message.transportMode != .sealedProfile03

/-- The jobs of one batch of expired messages. -/
def Tables.expiredJobs (clock : Clock) (limit : Nat)
    (locked : Uuid → Bool) : List (DispatchJob × Message) :=
  (((tables.jobMessages.filter fun row =>
    row.1.grantIssuedAt.isNone && row.1.finishedAt.isNone &&
      hasExpired clock row.2).insertionSort expiresBefore).filter fun row =>
        !locked row.1.messageId).take limit

/-- The messages of a batch that have expired. -/
def Tables.expired (clock : Clock) (limit : Nat) (locked : Uuid → Bool) : List Message :=
  tables.messages.filter fun message =>
    (tables.expiredJobs clock limit locked).any (fun row =>
      row.1.accountId == message.accountId &&
        row.1.messageId == message.id) && hasExpired clock message

/-- The message is among those that expire. -/
def Tables.isExpired (clock : Clock) (limit : Nat) (locked : Uuid → Bool)
    (accountId messageId : Uuid) : Bool :=
  (tables.expired clock limit locked).any fun message =>
    message.accountId == accountId && message.id == messageId

/-- Batches have between one and a thousand rows. -/
def invalidLimit (limit : Nat) : Bool :=
  decide (¬ (1 ≤ limit ∧ limit ≤ 1000))

/-- End the messages that expired before any grant, a batch at a time. -/
def expireDue (clock : Clock) (limit : Nat) (locked : Uuid → Bool) : StoreTransaction Nat := do
  refuse .invalidInput (invalidLimit limit)
  enterHostedTransaction deployment
  let tables ← get
  let isExpired := tables.isExpired clock limit locked
  updateMessages (fun message => isExpired message.accountId message.id)
    (Message.moveTo .expired clock.now)
  updateJobs (fun job => isExpired job.accountId job.messageId) (DispatchJob.finish clock.now)
  refundReserved fun entry => isExpired entry.accountId entry.messageId
  pure (tables.expired clock limit locked).length

/-- The job, the message and the recipient that a grant is about. -/
def grantable (transport : TransportMode) : Except StoreError (Message × Text) :=
  let row := tables.jobMessages.find? fun row =>
    row.1.accountId == claim.accountId && row.1.messageId == claim.messageId &&
      row.1.deviceId == claim.deviceId && row.2.transportMode == transport
  match row with
  | none => .error .staleFence
  | some (job, message) =>
    if job.generation ≠ claim.generation ∨ job.leaseOwner ≠ some claim.workerId ∨
        ¬ job.leaseUntil.any (fun lease => clock.reading 1 < lease) ∨
        job.grantIssuedAt.isSome ∨ message.state ≠ .claimed ∨
        ¬ clock.reading 2 < message.expiresAt then
      .error .staleFence
    else
      match message.recipientE164 with
      | none => .error .staleFence
      | some recipient => .ok (message, recipient)

/-- The session of a device still belongs to the hub that asks. -/
def sessionCurrent : Bool :=
  match tables.sessions.find? fun row =>
      row.accountId == session.accountId && row.deviceId == session.deviceId with
  | none => false
  | some row =>
    tables.sites.any (fun site => site.siteId == row.siteId && site.enabled && !site.draining) &&
    row.connectionEpoch == session.epoch && row.siteId == session.siteId &&
    row.instanceId == session.instanceId &&
    decide (clock.reading 0 < row.leaseUntil)

/-- The errors of inserting a fence. -/
def fenceError : StoreError → StoreError
  | .database (.uniqueViolation .dispatchFencesActiveDevice) => .deviceBusy
  | error => error

/-- A grant lasts for thirty seconds at most. -/
def grantExpiry (deadlineMs : Option Int) : Time :=
  let limit := clock.reading 3 + seconds 30
  match deadlineMs with
  | none => limit
  | some deadline => min limit (ofMillis deadline)

variable (attemptId : Uuid)

/-- The attempt of a new grant. -/
def grantedAttempt : MessageAttempt :=
  { id := attemptId, accountId := claim.accountId, messageId := claim.messageId
    deviceId := claim.deviceId, generation := claim.generation, sessionEpoch := session.epoch
    deploymentEpoch := directory.deploymentEpoch, status := .granted, createdAt := clock.now
    updatedAt := clock.now }

/-- The fence of a new grant. -/
def grantedFence (recipientDigest : Bytes) (grantExpiresAt : Time) : DispatchFence :=
  { messageId := claim.messageId, accountId := claim.accountId, deviceId := claim.deviceId
    attemptId, generation := claim.generation
    sessionEpoch := session.epoch, deploymentEpoch := directory.deploymentEpoch, recipientDigest
    grantExpiresAt, outcome := .granted }

/-- Issue a grant: one attempt, one fence, and the mark on the job. -/
def writeGrant (deadlineMs : Option Int)
    (recipientDigest : Bytes) : StoreTransaction GrantRecord := do
  insertAttempt (grantedAttempt directory clock claim session attemptId)
  let grantExpiresAt := grantExpiry clock deadlineMs
  tryCatch (insertFence (grantedFence directory claim session attemptId
      recipientDigest grantExpiresAt))
    fun error => throw (fenceError error)
  updateJobs (·.messageId == claim.messageId) (DispatchJob.grant clock.now)
  pure
    { accountId := claim.accountId, messageId := claim.messageId, attemptId
      deviceId := claim.deviceId, generation := claim.generation, sessionEpoch := session.epoch
      deploymentEpoch := directory.deploymentEpoch, recipientDigest
      expiresAtMs := toMillis grantExpiresAt }

/-- Check authority, device, account and session of a grant. -/
def grantAuthority : Except StoreError PUnit :=
  if claim.accountId ≠ session.accountId ∨ claim.deviceId ≠ session.deviceId then
    .error .staleFence
  else if ¬ directory.dispatchEnabled then
    .error .dispatchDisabled
  else if directory.deploymentEpoch ≠ session.deploymentEpoch then
    .error .staleFence
  else
    match directory.deviceRevoked claim.accountId claim.deviceId with
    | none => .error .staleFence
    | some true => .error .revoked
    | some false =>
      if directory.accountDisabled claim.accountId ≠ some false then
        .error .staleFence
      else if ¬ sessionCurrent clock tables session then
        .error .staleFence
      else
        .ok ⟨⟩

/-- Check everything again and issue the grant. -/
def grantInTransaction (transport : TransportMode)
    (deadlineMs : Option Int) : StoreTransaction GrantRecord := do
  let tables ← get
  compute (grantAuthority directory clock tables claim session)
  let (message, recipient) ← compute (grantable clock tables claim transport)
  if directory.suppressed claim.accountId recipient then do
    cancelPreGrant clock claim.accountId claim.messageId
    throw .recipientSuppressed
  else
    writeGrant directory clock claim session attemptId deadlineMs message.recipientDigest

/-- The transaction of a grant.  It commits when the grant is issued, and when
it cancelled the message because its recipient is suppressed. -/
def issueGrant (directory : Directory) (clock : Clock) (claim : Claim)
    (session : SessionRecord) (attemptId : Uuid) : StoreTransaction GrantRecord := do
  enterHostedTransaction deployment
  grantInTransaction directory clock claim session attemptId .syntheticAlpha
    none

/-- Whether the transaction of a grant commits. -/
def grantCommits : Except StoreError GrantRecord → Bool
  | .ok _ => true
  | .error .recipientSuppressed => true
  | .error _ => false

end Zrotext.Delivery
