import Zrotext.Foundation.Keyed
import Zrotext.Provider.Request

/-!
# Submit intents

The table of the attempts to send through a provider, with its checks, its
unique indexes and the trigger on its updates, and the transactions that record
an intent, lease it, check it again and record the response.  A transaction that
fails is rolled back.
-/

namespace Zrotext.Provider

open Foundation Delivery Fallible

inductive SendState
  | intended | dispatching | accepted | unknown | released
deriving DecidableEq

/-- A row of provider_send_attempts.  The provider is always the same. -/
structure SendAttempt where
  (accountId attemptId : Uuid)
  (routeFingerprint requestDigest recipientHash : Option Bytes)
  actionId : Uuid
  actionRevision : Int
  actionBindingDigest : Bytes
  (reservationId providerMessageId : Option Uuid)
  state : Option SendState
  leaseId : Option Uuid
  (leaseUntilMs createdEpoch : Option Int)
  (intendedAt dispatchedAt resolvedAt updatedAt erasedAt : Option Time)
deriving DecidableEq

namespace SendAttempt

variable (row : SendAttempt)

def key : Uuid × Uuid := (row.accountId, row.attemptId)

/-- The approved revision of an action. -/
def actionKey : Uuid × Uuid × Int := (row.accountId, row.actionId, row.actionRevision)

/-- The message of a provider that a live attempt is bound to. -/
def messageKey : Option (Uuid × Option Bytes × Uuid) :=
  if row.erasedAt.isNone then
    row.providerMessageId.map (row.accountId, row.routeFingerprint, ·)
  else none

/-- The columns that a state may have. -/
def fitsState : SendState → Bool
  | .intended => row.leaseId.isNone && row.dispatchedAt.isNone &&
      row.resolvedAt.isNone && row.providerMessageId.isNone
  | .dispatching => row.leaseId.isSome && row.dispatchedAt.isSome &&
      row.resolvedAt.isNone && row.providerMessageId.isNone
  | .accepted => row.providerMessageId.any (fun id => decide (id ≠ 0)) && row.resolvedAt.isSome
  | .unknown => row.providerMessageId.isNone && row.resolvedAt.isSome
  | .released => row.providerMessageId.isNone && row.resolvedAt.isSome

def isDigest (bytes : Bytes) : Bool := decide (bytes.length = 32)

/-- What both kinds of rows have. -/
def fitsAction : Bool :=
  decide (row.attemptId ≠ 0) && decide (row.actionId ≠ 0) &&
    decide (1 ≤ row.actionRevision ∧ row.actionRevision ≤ 128) &&
    isDigest row.actionBindingDigest

def isLive : Bool := row.erasedAt.isNone && row.routeFingerprint.any isDigest &&
    row.requestDigest.any isDigest && row.recipientHash.any isDigest &&
    row.reservationId.isSome && row.createdEpoch.any (fun epoch => 0 < epoch) &&
    row.intendedAt.isSome && row.updatedAt.isSome &&
    decide (row.leaseId.isNone = row.leaseUntilMs.isNone) && row.state.any row.fitsState

def isErased : Bool := row.erasedAt.isSome && row.routeFingerprint.isNone &&
    row.requestDigest.isNone && row.recipientHash.isNone &&
    row.reservationId.isNone && row.providerMessageId.isNone &&
    row.state.isNone && row.leaseId.isNone && row.leaseUntilMs.isNone &&
    row.createdEpoch.isNone && row.intendedAt.isNone &&
    row.dispatchedAt.isNone && row.resolvedAt.isNone && row.updatedAt.isNone

def check : Bool := row.fitsAction && (row.isLive || row.isErased)

/-- The states that may follow a state. -/
def movesTo : SendState → SendState → Bool
  | .intended, .dispatching | .intended, .released => true
  | .dispatching, .accepted | .dispatching, .unknown
  | .dispatching, .released => true
  | .unknown, .accepted => true
  | state, other => decide (state = other)

/-- What an intent commits to. -/
structure Commitment where
  (routeFingerprint requestDigest recipientHash : Option Bytes)
  actionId : Uuid
  actionRevision : Int
  actionBindingDigest : Bytes
  reservationId : Option Uuid
  createdEpoch : Option Int
  intendedAt : Option Time
deriving DecidableEq

def commitment : Commitment :=
  { routeFingerprint := row.routeFingerprint, requestDigest := row.requestDigest
    recipientHash := row.recipientHash, actionId := row.actionId
    actionRevision := row.actionRevision, actionBindingDigest := row.actionBindingDigest
    reservationId := row.reservationId, createdEpoch := row.createdEpoch
    intendedAt := row.intendedAt }

/-- An attempt is erased, but not while a lease on it may be live. -/
def allowsErasure (nowMs : Int) (old : SendAttempt) : Bool :=
  !(decide (old.state = some .dispatching) &&
    old.leaseUntilMs.all fun leaseUntil => decide (nowMs ≤ leaseUntil))

/-- A live attempt changes. -/
def allowsChange (old new : SendAttempt) : Bool :=
  decide (new.commitment = old.commitment) &&
    (old.leaseId.isNone || decide (new.leaseId = old.leaseId ∧
      new.leaseUntilMs = old.leaseUntilMs)) &&
    (old.leaseId.isSome || new.leaseId.isNone || (decide (old.state = some .intended) &&
        decide (new.state = some .dispatching) && new.dispatchedAt.isSome)) &&
    (old.providerMessageId.isNone ||
      decide (new.providerMessageId = old.providerMessageId)) &&
    (old.resolvedAt.isNone || decide (new.resolvedAt = old.resolvedAt)) &&
    old.state.any (fun state => new.state.any (movesTo state)) &&
    (decide (new.state ≠ some .accepted) || new.providerMessageId.isSome)

def allows (nowMs : Int) (old new : SendAttempt) : Bool :=
  old.erasedAt.isNone && decide (new.key = old.key) &&
    if new.erasedAt.isSome then old.allowsErasure nowMs
    else old.allowsChange new

end SendAttempt

/-- The attempts: one for each revision of an action, and one for each message
of the provider. -/
structure SendAttempts where
  table : Keyed SendAttempt.key
  distinctActions : (table.rows.map SendAttempt.actionKey).Nodup
  distinctMessages : (table.rows.filterMap SendAttempt.messageKey).Nodup

inductive DispatchError
  | unavailable | authority | invalid | suppressed | conflict | expired | inconsistent | database
deriving DecidableEq

namespace SendAttempts

def empty : SendAttempts := ⟨.empty, List.nodup_nil, List.nodup_nil⟩

def rows (attempts : SendAttempts) : List SendAttempt := attempts.table.rows

def lookup (accountId attemptId : Uuid) (attempts : SendAttempts) : Option SendAttempt :=
  attempts.table.lookup (accountId, attemptId)

/-- The attempt of a revision of an action. -/
def lookupAction (key : Uuid × Uuid × Int) (attempts : SendAttempts) : Option SendAttempt :=
  attempts.rows.find? fun row => decide (row.actionKey = key)

/-- The table with a row in the place of the one with its key, unless an index
refuses it. -/
def put (row : SendAttempt) (attempts : SendAttempts) : Except DispatchError SendAttempts :=
  let table := attempts.table.put row
  if distinct : (table.rows.map SendAttempt.actionKey).Nodup ∧
      (table.rows.filterMap SendAttempt.messageKey).Nodup then
    .ok ⟨table, distinct.1, distinct.2⟩
  else .error .database

/-- Insert an attempt, unless there is one of its action. -/
def insert (row : SendAttempt) (attempts : SendAttempts) :
    Except DispatchError (Option SendAttempts) := do
  require .database row.check
  match attempts.lookupAction row.actionKey with
  | some _ => return none
  | none =>
    require .database (attempts.table.lookup row.key).isNone
    let after ← attempts.put row
    return some after

/-- Change a row. -/
def update (nowMs : Int) (old new : SendAttempt) (attempts : SendAttempts) :
    Except DispatchError SendAttempts := do
  require .database (old.allows nowMs new)
  require .database new.check
  attempts.put new

end SendAttempts

structure ElectedWriterPermit where
  account : Uuid
  site : Text
  epoch : Int
deriving DecidableEq

structure ActionKey where
  (accountId actionId : Uuid)
  revision : Int
  bindingDigest : Bytes
deriving DecidableEq

def ActionKey.isValid (action : ActionKey) : Bool :=
  decide (action.accountId ≠ 0) && decide (action.actionId ≠ 0) &&
    decide (1 ≤ action.revision ∧ action.revision ≤ 128)

/-- A reservation with its route policy and its deployment. -/
structure Reservation where
  actionId : Uuid
  revision : Int
  bindingDigest : Bytes
  executing : Bool
  leaseUntilMs : Option Int
  (isProvider policyEnabled deploymentEnabled : Bool)
  (periodStartMs periodEndMs : Int)
deriving DecidableEq

/-- What a transaction reads elsewhere. -/
structure Surroundings where
  epoch : Int
  /-- Whether a site is enabled and whether it is draining. -/
  site : Text → Option (Bool × Bool)
  inRecovery : Bool
  accountExists : Uuid → Bool
  /-- Whether a recipient of an account is suppressed, reading by reading. -/
  suppressed : Nat → Uuid → Text → Bool
  reservation : Uuid → Uuid → Option Reservation
  nowMs : Int
  now : Time

namespace Surroundings

variable (surroundings : Surroundings)

def authority (permit : ElectedWriterPermit) : Except DispatchError Unit := do
  require .authority (decide (permit.account ≠ 0) && !permit.site.isEmpty &&
    decide (0 < permit.epoch))
  let (enabled, draining) ← demand .authority (surroundings.site permit.site)
  require .authority (decide (surroundings.epoch = permit.epoch) && enabled &&
    !draining && !surroundings.inRecovery)

def lockAccount (account : Uuid) : Except DispatchError Unit :=
  require .inconsistent (surroundings.accountExists account)

def requireLiveReservation (account : Uuid) (action : ActionKey)
    (reservation : Uuid) : Except DispatchError Unit := do
  let row ← demand .unavailable (surroundings.reservation account reservation)
  require .conflict (decide (row.actionId = action.actionId) &&
    decide (row.revision = action.revision) &&
    decide (row.bindingDigest = action.bindingDigest))
  require .expired (row.executing &&
    row.leaseUntilMs.any fun leaseUntil => surroundings.nowMs < leaseUntil)
  require .unavailable (row.isProvider && row.policyEnabled &&
    row.deploymentEnabled && decide (row.periodStartMs ≤ surroundings.nowMs ∧
      surroundings.nowMs < row.periodEndMs))

end Surroundings

structure CommitOutcome where
  attemptId : Uuid
  created : Bool
deriving DecidableEq

/-- What a caller asks to record. -/
structure Intent where
  permit : ElectedWriterPermit
  action : ActionKey
  (reservation attemptId : Uuid)
  request : Request
  recipientE164 : Text
deriving DecidableEq

section Digests

variable (sha256 : Bytes → Bytes)

variable (surroundings : Surroundings) (intent : Intent)

/-- The row of an intent. -/
def Intent.row : SendAttempt :=
  { accountId := intent.action.accountId, attemptId := intent.attemptId
    routeFingerprint :=
      some (routeFingerprint sha256 intent.request)
    requestDigest := some intent.request.digest, recipientHash := some intent.request.recipient
    actionId := intent.action.actionId, actionRevision := intent.action.revision
    actionBindingDigest := intent.action.bindingDigest, reservationId := some intent.reservation
    providerMessageId := none, state := some .intended, leaseId := none, leaseUntilMs := none
    createdEpoch := some intent.permit.epoch, intendedAt := some surroundings.now
    dispatchedAt := none, resolvedAt := none, updatedAt := some surroundings.now, erasedAt := none }

/-- The checks before an intent is written. -/
def Intent.admit : Except DispatchError Unit := do
  require .invalid intent.action.isValid
  require .invalid (decide (intent.permit.account = intent.action.accountId) &&
    decide (intent.permit.account = intent.request.route.account) &&
    decide (intent.attemptId ≠ 0) && decide (intent.reservation ≠ 0))
  require .invalid (decide (sha256 (utf8 intent.recipientE164) =
    intent.request.recipient))
  surroundings.authority intent.permit
  surroundings.lockAccount intent.action.accountId
  require .suppressed (!surroundings.suppressed 0 intent.action.accountId
    intent.recipientE164)
  surroundings.requireLiveReservation intent.action.accountId intent.action
    intent.reservation
  require .suppressed (!surroundings.suppressed 1 intent.action.accountId
    intent.recipientE164)

/-- An intent repeats the one that is stored. -/
def Intent.replays (row : SendAttempt) : Except DispatchError Unit := do
  require .conflict
    (row.erasedAt.isNone && decide (row.state = some .intended))
  require .conflict (decide (row.routeFingerprint =
      some (routeFingerprint sha256 intent.request)) &&
    decide (row.requestDigest = some intent.request.digest) &&
    decide (row.recipientHash = some intent.request.recipient) &&
    decide (row.reservationId = some intent.reservation))

/-- Record the intent to submit a revision of an action. -/
def commitSubmitIntent (attempts : SendAttempts) :
    Except DispatchError (CommitOutcome × SendAttempts) := do
  intent.admit sha256 surroundings
  let inserted ← attempts.insert (intent.row sha256 surroundings)
  match inserted with
  | some after =>
    return (⟨intent.attemptId, true⟩, after)
  | none =>
    let row ← demand .inconsistent
      (attempts.lookupAction (intent.row sha256 surroundings).actionKey)
    intent.replays sha256 row
    return (⟨intent.attemptId, false⟩, attempts)

end Digests

structure Lease where
  (attemptId leaseId : Uuid)
  leaseUntilMs : Int
deriving DecidableEq

/-- Attempts are leased in the order of their intents. -/
def SendAttempt.before (row other : SendAttempt) : Prop :=
  row.intendedAt.getD 0 < other.intendedAt.getD 0 ∨
    row.intendedAt.getD 0 = other.intendedAt.getD 0 ∧ row.attemptId ≤ other.attemptId

instance : DecidableRel SendAttempt.before := fun _ _ =>
  inferInstanceAs (Decidable (_ ∨ _))

def SendAttempt.isClaimable (accountId : Uuid) (row : SendAttempt) : Bool :=
  decide (row.accountId = accountId) && decide (row.state = some .intended) && row.erasedAt.isNone

/-- The attempts that are leased next. -/
def SendAttempts.claimable (accountId : Uuid) (locked : List Uuid) (limit : Nat)
    (attempts : SendAttempts) : List SendAttempt :=
  ((attempts.rows.filter fun row => row.isClaimable accountId &&
    !locked.contains row.attemptId).insertionSort SendAttempt.before).take limit

/-- The row of a leased attempt. -/
def SendAttempt.leased (leaseId : Uuid) (leaseUntilMs : Int) (now : Time)
    (row : SendAttempt) : SendAttempt :=
  { row with
    state := some .dispatching, leaseId := some leaseId, leaseUntilMs := some leaseUntilMs
    dispatchedAt := some now, updatedAt := some now }

def leaseMs : Int := 30000

variable (surroundings : Surroundings)

/-- Lease one attempt. -/
def leaseOne (account : Uuid) (lease : Lease)
    (attempts : SendAttempts) : Except DispatchError SendAttempts := do
  let row ← demand .inconsistent
    ((attempts.lookup account lease.attemptId).filter (·.isClaimable account))
  attempts.update surroundings.nowMs row
    (row.leased lease.leaseId lease.leaseUntilMs surroundings.now)

/-- The leases that are drawn for attempts. -/
def drawLeases (drawn : Uuid → Uuid) (rows : List SendAttempt) : List Lease := rows.map fun row =>
    { attemptId := row.attemptId, leaseId := drawn row.attemptId
      leaseUntilMs := saturate (surroundings.nowMs + leaseMs) }

/-- Lease recorded intents of an account. -/
def claimIntended (permit : ElectedWriterPermit) (account : Uuid)
    (limit : Int) (locked : List Uuid) (drawn : Uuid → Uuid) (attempts : SendAttempts) :
    Except DispatchError (List Lease × SendAttempts) := do
  require .invalid (decide (account ≠ 0) && decide (permit.account = account) &&
    decide (1 ≤ limit ∧ limit ≤ 100))
  surroundings.authority permit
  surroundings.lockAccount account
  let leases := drawLeases surroundings drawn (attempts.claimable account locked limit.toNat)
  let after ← leases.foldlM (fun table lease => leaseOne surroundings account lease table) attempts
  return (leases, after)

/-- What a caller has reconstructed for an attempt. -/
structure Material where
  request : Request
  recipient : Text
  content : Content
deriving DecidableEq

/-- Check a leased attempt again. -/
def preflight (sha256 : Bytes → Bytes) (surroundings : Surroundings) (permit : ElectedWriterPermit)
    (account attempt : Uuid) (material : Material)
    (attempts : SendAttempts) : Except DispatchError Unit := do
  require .invalid
    (decide (account ≠ 0) && decide (permit.account = account))
  surroundings.authority permit
  surroundings.lockAccount account
  let row ← demand .unavailable ((attempts.lookup account attempt).filter
    fun row => decide (row.state = some .dispatching) && row.erasedAt.isNone)
  require .conflict (decide (row.requestDigest = some material.request.digest) &&
      decide (row.recipientHash = some (sha256 (utf8 material.recipient))) &&
      row.leaseUntilMs.any fun leaseUntil => surroundings.nowMs < leaseUntil)
  require .suppressed (!surroundings.suppressed 0 account material.recipient)
  require .inconsistent (SendAttempt.isDigest row.actionBindingDigest)
  let reservation ← demand .inconsistent row.reservationId
  surroundings.requireLiveReservation account
    ⟨account, row.actionId, row.actionRevision, row.actionBindingDigest⟩
    reservation

inductive ResponseOutcome
  | accepted (messageId : Uuid)
  | lost | released
deriving DecidableEq

structure ResponseRecorded where
  state : SendState
  changed : Bool
deriving DecidableEq

/-- The row of an attempt in another state. -/
def SendAttempt.resolved (state : SendState) (message : Option Uuid) (setResolved : Bool)
    (now : Time) (row : SendAttempt) : SendAttempt :=
  { row with
    state := some state, providerMessageId := message
    resolvedAt := if setResolved then some now else row.resolvedAt
    updatedAt := some now }

/-- Move an attempt to a state. -/
def setState (row : SendAttempt) (state : SendState)
    (message : Option Uuid) (setResolved : Bool) (attempts : SendAttempts) :
    Except DispatchError (ResponseRecorded × SendAttempts) := do
  require .inconsistent row.providerMessageId.isNone
  let after ← attempts.update surroundings.nowMs row
    (row.resolved state message setResolved surroundings.now)
  return (⟨state, true⟩, after)

/-- What a response makes of an attempt. -/
def respond (row : SendAttempt) (outcome : ResponseOutcome)
    (attempts : SendAttempts) : Except DispatchError (ResponseRecorded × SendAttempts) :=
  match outcome, row.state, row.providerMessageId with
  | .accepted messageId, some .dispatching, none =>
    setState surroundings row .accepted (some messageId) true attempts
  | .accepted messageId, some .unknown, none =>
    setState surroundings row .accepted (some messageId) false attempts
  | .accepted messageId, some .accepted, some existing =>
    if existing = messageId then .ok (⟨.accepted, false⟩, attempts)
    else .error .conflict
  | .lost, some .dispatching, _ =>
    setState surroundings row .unknown none true attempts
  | .lost, some .unknown, _ => .ok (⟨.unknown, false⟩, attempts)
  | .lost, some .accepted, _ => .ok (⟨.accepted, false⟩, attempts)
  | .released, some .intended, _ | .released, some .dispatching, _ =>
    setState surroundings row .released none true attempts
  | .released, some .released, _ => .ok (⟨.released, false⟩, attempts)
  | _, _, _ => .error .conflict

def ResponseOutcome.isValid : ResponseOutcome → Bool
  | .accepted messageId => decide (messageId ≠ 0)
  | _ => true

/-- Record the response to a submission. -/
def recordResponse (permit : ElectedWriterPermit)
    (account attempt : Uuid) (outcome : ResponseOutcome) (attempts : SendAttempts) :
    Except DispatchError (ResponseRecorded × SendAttempts) := do
  require .invalid (decide (account ≠ 0) && decide (permit.account = account) &&
    decide (attempt ≠ 0))
  require .invalid outcome.isValid
  surroundings.authority permit
  surroundings.lockAccount account
  let row ← demand .unavailable
    ((attempts.lookup account attempt).filter fun row => row.erasedAt.isNone)
  respond surroundings row outcome attempts

/-- The row of an erased attempt: only the action stays. -/
def SendAttempt.erased (now : Time) (row : SendAttempt) : SendAttempt :=
  { row with
    routeFingerprint := none, requestDigest := none, recipientHash := none, reservationId := none
    providerMessageId := none, state := none, leaseId := none, leaseUntilMs := none
    createdEpoch := none, intendedAt := none, dispatchedAt := none, resolvedAt := none
    updatedAt := none, erasedAt := some now }

/-- Reduce an attempt to the fence around its action. -/
def eraseAttempt (nowMs : Int) (now : Time) (account attempt : Uuid)
    (attempts : SendAttempts) : Except DispatchError SendAttempts := do
  let row ← demand .unavailable (attempts.lookup account attempt)
  attempts.update nowMs row (row.erased now)

end Zrotext.Provider
