import Zrotext.Delivery.RadioEvidence

/-!
# Runs of the delivery store

A run is any interleaving of the transactions, each of them atomic, with any
clocks, on an empty database.  Between them the rest of the system may change
what the transactions read elsewhere, the sites, and the limits of the usage
periods.
-/

namespace Zrotext.Delivery

open Domain Foundation

/-- The database. -/
structure World where
  directory : Directory
  tables : Tables

/-- What happens in a run. -/
inductive Step
  | accept (clock : Clock) (input : NewMessage)
  | acceptMetered (clock : Clock) (input : NewMessage)
  | acceptAlpha (clock : Clock) (input : NewMessage) (billingEnabled : Bool)
      (allowedDevice : Option Uuid)
  | connectSession (clock : Clock) (accountId deviceId : Uuid)
      (siteId instanceId : Text) (leaseSeconds : Int)
  | claimDue (clock : Clock) (request : ClaimRequest) (locked : Uuid → Bool)
  | cancel (clock : Clock) (accountId messageId : Uuid)
  | cancelPendingRecipient (clock : Clock) (accountId : Uuid) (recipient : Text)
  | expireDue (clock : Clock) (limit : Nat) (locked : Uuid → Bool)
  | reconcileSilentAttempts (clock : Clock) (limit : Nat)
      (locked : Uuid → Bool) (fresh : Nat → Uuid)
  | reconcileDeliveryTimeouts (clock : Clock) (limit : Nat)
      (locked : Uuid → Bool) (fresh : Nat → Uuid)
  | issueGrant (clock : Clock) (claim : Claim) (session : SessionRecord) (attemptId : Uuid)
  | recordRadioEvent (clock : Clock) (event : RadioEvent)
  | administer (directory : Directory) (sites : List Site) (limits : UsagePeriod → Int)

/-- The limits of usage periods are set from outside. -/
def setLimits (limits : UsagePeriod → Int) (periods : List UsagePeriod) : List UsagePeriod :=
  periods.map fun period => { period with limitUnits := limits period }

namespace World

variable (deployment : Deployment)

/-- The tables after the transaction of a step. -/
def tablesAfter (world : World) : Step → Tables
  | .accept clock input =>
    ((accept deployment world.directory clock input).commit world.tables).2
  | .acceptMetered clock input =>
    ((acceptMetered deployment world.directory clock input).commit world.tables).2
  | .acceptAlpha clock input billingEnabled allowedDevice =>
    ((acceptAlpha deployment world.directory clock input billingEnabled
      allowedDevice).commit world.tables).2
  | .connectSession clock accountId deviceId siteId instanceId leaseSeconds =>
    ((connectSession deployment world.directory clock accountId deviceId
      siteId instanceId leaseSeconds).commit world.tables).2
  | .claimDue clock request locked =>
    ((claimDueWithContent deployment world.directory clock request locked).commit world.tables).2
  | .cancel clock accountId messageId =>
    ((cancel deployment clock accountId messageId).commit world.tables).2
  | .cancelPendingRecipient clock accountId recipient =>
    ((cancelPendingRecipient world.directory clock accountId recipient).commit world.tables).2
  | .expireDue clock limit locked =>
    ((expireDue deployment clock limit locked).commit world.tables).2
  | .reconcileSilentAttempts clock limit locked fresh =>
    ((reconcileSilentAttempts deployment clock limit locked fresh).commit world.tables).2
  | .reconcileDeliveryTimeouts clock limit locked fresh =>
    ((reconcileDeliveryTimeouts deployment clock limit locked fresh).commit world.tables).2
  | .issueGrant clock claim session attemptId =>
    ((issueGrant deployment world.directory clock claim session
      attemptId).commitWhen grantCommits world.tables).2
  | .recordRadioEvent clock event =>
    ((recordRadioEvent deployment world.directory clock event).commit world.tables).2
  | .administer _ sites limits =>
    { world.tables with
      sites, periods := setLimits limits world.tables.periods }

/-- The world after a step. -/
def step (world : World) (next : Step) : World :=
  { directory := match next with
      | .administer directory _ _ => directory
      | _ => world.directory
    tables := world.tablesAfter deployment next }

/-- The world after some steps. -/
def run (world : World) (steps : List Step) : World := steps.foldl (World.step deployment) world

/-- An empty database. -/
def start (directory : Directory) : World :=
  { directory, tables := .empty }

theorem run_append (world : World) (first second : List Step) :
    world.run deployment (first ++ second) = (world.run deployment first).run deployment second :=
  List.foldl_append

end World

namespace Drill

/-- A deployment whose digests are the bytes themselves. -/
def deployment : Deployment :=
  { hostedEntry := true, sha256 := id
    monthStart := fun _ => 0
    idempotencyDays := 7 }

/-- An account with a quota of five messages and no billing. -/
def account : BillingAccount :=
  { scope := .ok (false, false), boundAfterLock := false, riskHeld := false, reconciliations := 0
    processedReconciliations := 0, pastDueSubscriptions := 0
    graceElapsed := fun _ => false
    policy := some
      { limitUnits := 5, stripeTest := false, invoiceBound := false }
    invoiceTriggersInstalled := false, invoiceBudgetAvailable := false }

/-- Nobody is disabled, revoked or suppressed, and there are no lines. -/
def directory : Directory :=
  { accountDisabled := fun _ => some false
    deviceRevoked := fun _ _ => some false
    deploymentEpoch := 1, dispatchEnabled := true
    suppressed := fun _ _ => false
    billing := fun _ => account
    routeLine := fun _ => .error .notFound
    lineLabel := fun _ _ => none
    lineReady := fun _ _ _ _ => false
    sealedIdentityLocked := fun _ _ _ _ => false
    agentActionLive := fun _ _ => false
    sealedGrantCurrent := fun _ => false }

/-- All clocks at one second. -/
def clock (second : Int) : Clock :=
  { now := seconds second
    reading := fun _ => seconds second
    processMs := second * 1000 }

/-- A message of the account 1 to the device 2. -/
def message (id : Uuid) (key : String) : NewMessage :=
  { accountId := 1, clientMessageId := id, deviceId := 2, idempotencyKey := key.toList
    recipientE164 := "+15550001".toList, syntheticPayload := [104, 105], expiresAtMs := 10000000
    lineLabel := none, noFallback := false }

/-- A session of the device. -/
def session (epoch : Nat) : SessionRecord :=
  { accountId := 1, deviceId := 2, siteId := "site".toList, instanceId := "hub".toList, epoch
    deploymentEpoch := 1 }

/-- The claim of a worker on a message. -/
def claim (messageId : Uuid) (generation : Nat) : Claim :=
  { accountId := 1, messageId, deviceId := 2, generation, workerId := "worker".toList }

/-- A report without a segment. -/
def report (eventId messageId attemptId : Uuid) (evidence : Evidence) : RadioEvent :=
  { eventId, accountId := 1
    deviceId := 2, messageId, attemptId, evidence, observedAtMs := 100000, segmentIndex := none
    segmentCount := none }

/-- The callback of a message of one segment. -/
def callback (eventId messageId attemptId : Uuid) (evidence : Evidence) : RadioEvent :=
  { report eventId messageId attemptId evidence with
    segmentIndex := some 0, segmentCount := some 1 }

/-- A worker asks for any due message. -/
def request : ClaimRequest :=
  { workerId := "worker".toList, accountId := none, deviceId := none, recipientDigest := none
    withContent := true }

/-- A message is accepted, granted and sent. -/
def sending : List Step :=
  [.acceptMetered (clock 100) (message 10 "first"),
    .connectSession (clock 100) 1 2 "site".toList "hub".toList 300,
    .claimDue (clock 101) request fun _ => false,
    .issueGrant (clock 101) (claim 10 1) (session 1) 20,
    .recordRadioEvent (clock 102) (report 30 10 20 .durableSubmitIntent),
    .recordRadioEvent (clock 103) (callback 31 10 20 .sentCallbackOk)]

/-- A second message is granted to the same device. -/
def sendingTwo : List Step :=
  sending ++ [.accept (clock 103) (message 11 "second"),
    .claimDue (clock 104) request fun _ => false,
    .issueGrant (clock 105) (claim 11 1) (session 1) 21]

/-- The tables after some steps. -/
def tablesAfter (steps : List Step) : Tables :=
  ((World.start directory).run deployment steps).tables

end Drill
end Zrotext.Delivery
