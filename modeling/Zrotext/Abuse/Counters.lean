import Zrotext.Abuse.Limits
import Zrotext.Foundation.Keyed

/-!
# Abuse counters

The table of counters, the database function that charges a subject and a route
together, and the operations on budgets that are built on it.
-/

namespace Zrotext.Abuse

open Foundation Delivery

variable {δ : Type}

/-- A row of the table of counters. -/
structure Counter (δ : Type) where
  scope : Text
  subjectHash : δ
  windowStartedAt : Time
  attempts : Int
  updatedAt : Time
deriving DecidableEq

/-- A scope and a hash. -/
abbrev Key (δ : Type) := Text × δ

/-- The key of a row. -/
def Counter.key (counter : Counter δ) : Key δ := (counter.scope, counter.subjectHash)

/-- The table, with at most one counter for a key. -/
abbrev Counters (δ : Type) := Keyed (@Counter.key δ)

/-- A write that the database rejects. -/
inductive Violation
  | counterScope | integerOutOfRange
deriving DecidableEq

/-- The largest integer of a column. -/
def maxInteger : Int := 2147483647

/-- The check of the column of scopes. -/
def validScope (scope : Text) : Bool :=
  decide (1 ≤ scope.length) && decide (scope.length ≤ 48)

namespace Counter

/-- The first charge of a key. -/
def fresh (key : Key δ) (now : Time) : Counter δ := ⟨key.1, key.2, now, 1, now⟩

/-- The window of the counter is over. -/
def isOver (window : Int) (now : Time) (counter : Counter δ) : Bool :=
  decide (counter.windowStartedAt ≤ now - seconds window)

/-- The counter after one more charge. -/
def renewed (window : Int) (now : Time) (counter : Counter δ) : Counter δ :=
  { counter with
    windowStartedAt :=
      if counter.isOver window now then now else counter.windowStartedAt
    attempts :=
      if counter.isOver window now then 1 else counter.attempts + 1
    updatedAt := now }

/-- The counter has room for one more charge. -/
def hasRoom (budget : Budget) (now : Time) (counter : Counter δ) : Bool :=
  counter.isOver budget.2 now || decide (counter.attempts < budget.1)

theorem renewed_of_isOver {counter : Counter δ} (ended : counter.isOver window now) :
    counter.renewed window now = fresh counter.key now := by
  simp [renewed, fresh, key, ended]

end Counter

/-- The counter of a key after one more charge. -/
def charged (key : Key δ) (window : Int) (now : Time) (current : Option (Counter δ)) : Counter δ :=
  match current with
  | none => .fresh key now
  | some counter => counter.renewed window now

variable [DecidableEq δ]

/-- Insert a counter, or charge the counter that is there if it satisfies a
condition. -/
def upsert (room : Counter δ → Bool) (key : Key δ) (window : Int) (now : Time)
    (counters : Counters δ) : Except Violation (Option (Counters δ)) :=
  let next := charged key window now (counters.lookup key)
  if !validScope key.1 then .error .counterScope
  else if !(counters.lookup key).all room then .ok none
  else if maxInteger < next.attempts then .error .integerOutOfRange
  else .ok (some (counters.put next))

/-- The arguments of the function that charges a subject and a route. -/
structure Call (δ : Type) where
  scope : Text
  globalHash : δ
  subjectHash : Option δ
  (globalMax globalSeconds subjectMax subjectSeconds : Int)
deriving DecidableEq

namespace Call

variable (call : Call δ)

/-- The key of the route. -/
def globalKey : Key δ := (call.scope, call.globalHash)

/-- What the route may spend. -/
def globalBudget : Budget := (call.globalMax, call.globalSeconds)

/-- What the subject may spend. -/
def subjectBudget : Budget := (call.subjectMax, call.subjectSeconds)

/-- The subject is charged if there is one. -/
def chargeSubject (now : Time) (counters : Counters δ) : Except Violation (Option (Counters δ)) :=
  match call.subjectHash with
  | none => .ok (some counters)
  | some hash => upsert (Counter.hasRoom call.subjectBudget now)
      (call.scope, hash) call.subjectSeconds now counters

/-- The route is charged. -/
def chargeGlobal (now : Time) (counters : Counters δ) : Except Violation (Option (Counters δ)) :=
  upsert (Counter.hasRoom call.globalBudget now) call.globalKey call.globalSeconds now counters

end Call

/-- A function of the database that charges counters. -/
abbrev Charging (δ : Type) := Time → Counters δ → Except Violation Bool × Counters δ

/-- Charge the subject and the route, or neither. -/
def authAbuseConsume (call : Call δ) : Charging δ := fun now counters =>
  if !(counters.lookup call.globalKey).all (Counter.hasRoom call.globalBudget now)
  then (.ok false, counters)
  else
    match call.chargeSubject now counters with
    | .error violation => (.error violation, counters)
    | .ok none => (.ok false, counters)
    | .ok (some charged) =>
      match call.chargeGlobal now charged with
      | .error violation => (.error violation, counters)
      | .ok none => (.ok false, counters)
      | .ok (some after) => (.ok true, after)

/-- The keyed digest of tokens, and the plain digest. -/
structure Hasher (δ : Type) where
  (mac sha256 : Text → δ)
  zeros : δ

namespace Hasher

/-- The digest of a token in a domain. -/
def digest (hasher : Hasher δ) (domain token : Text) : δ := hasher.mac (domain ++ '\x00' :: token)

/-- The hash of the storage budget of an account or device. -/
def budgetKey (hasher : Hasher δ) (kind : Text) (id : Uuid) : δ := hasher.sha256
    ("zrotext-inbound-budget-v1:".toList ++ kind ++ ':' :: uuidText id)

end Hasher

/-- Digests that keep their input. -/
def plainHasher : Hasher Text := ⟨id, id, []⟩

/-- The domain of the subjects of a scope. -/
def subjectDomain (scope : Text) : Text := "abuse-subject-".toList ++ scope ++ "-v1".toList

/-- The domain of the verified subjects of a scope. -/
def verifiedSubjectDomain (scope : Text) : Text :=
  "abuse-subject-".toList ++ scope ++ "-verified-v1".toList

/-- The domain of the routes of a lane. -/
def routeDomain : Lane → Text
  | .anonymous => "abuse-global-v1".toList
  | .verified => "abuse-verified-v1".toList

variable (hasher : Hasher δ) (limit : Limit) (subject : Text)

/-- The hash of the counter of a subject in a lane. -/
def subjectHash (lane : Lane) : Option δ :=
  match limit.subjectPolicy lane with
  | none => none
  | some _ =>
    let domain :=
      if lane = .verified ∧ limit.subjectIsSecret = false
      then verifiedSubjectDomain limit.scope
      else subjectDomain limit.scope
    some (hasher.digest domain subject)

/-- What is charged for a request. -/
def chargeCall (subject : Option Text) (lane : Lane) : Call δ :=
  let subjectBudget := (limit.subjectPolicy lane).getD (0, 0)
  let hash := subject.bind (subjectHash hasher limit · lane)
  match limit.subjectOnly, hash with
  | true, some hash =>
    ⟨limit.scope, hash, none, subjectBudget.1, subjectBudget.2, subjectBudget.1, subjectBudget.2⟩
  | _, _ =>
    let globalMax :=
      if lane = .verified then limit.policy.globalMax * verifiedCeilingFactor
      else limit.policy.globalMax
    ⟨limit.scope, hasher.digest (routeDomain lane) limit.scope, hash,
      globalMax, limit.policy.globalSeconds, subjectBudget.1,
      subjectBudget.2⟩

/-- Charge a request in a lane. -/
def charge (subject : Option Text) (lane : Lane) : Charging δ :=
  authAbuseConsume (chargeCall hasher limit subject lane)

/-- Charge the budget that anyone can spend. -/
def consume (subject : Option Text) : Charging δ :=
  charge hasher limit subject .anonymous

/-- Charge the budget of a subject that was verified. -/
def consumeVerified : Charging δ :=
  charge hasher limit (some subject) .verified

/-- Charge the verified ceiling of a route. -/
def consumeVerifiedRoute : Charging δ :=
  charge hasher limit none .verified

/-- What is charged for an inbound event. -/
def storageCall (accountId deviceId : Uuid) : Call δ :=
  ⟨"inbound_daily".toList, hasher.budgetKey "account".toList accountId,
    some (hasher.budgetKey "device".toList deviceId), 1000, 86400, 200, 86400⟩

/-- Charge the storage of an inbound event. -/
def consumeStorageBudget (accountId deviceId : Uuid) : Charging δ :=
  authAbuseConsume (storageCall hasher accountId deviceId)

/-- What is charged for a change of consent. -/
def consentCall (deviceId : Uuid) : Call δ :=
  ⟨"inbound_consent_daily".toList, hasher.budgetKey "device".toList deviceId,
    none, 10000, 86400, 1, 86400⟩

/-- Charge an inbound change of consent. -/
def consumeConsentBudget (deviceId : Uuid) : Charging δ :=
  authAbuseConsume (consentCall hasher deviceId)

/-- The attempts that a counter holds in its window. -/
def attemptsInWindow (key : Key δ) (window : Int) (now : Time) (counters : Counters δ) : Int :=
  match counters.lookup key with
  | none => 0
  | some counter => if counter.isOver window now then 0 else counter.attempts

/-- The key and the budget of the failures of a subject. -/
def failureSubject : Key δ × Budget :=
  ((limit.scope, hasher.digest (subjectDomain limit.scope) subject),
    limit.policy.subjectPolicy.getD (0, 0))

/-- The failures of a subject in its window. -/
def failuresInWindow : Time → Counters δ → Int :=
  let failures := failureSubject hasher limit subject
  attemptsInWindow failures.1 failures.2.2

/-- A subject may try another factor. -/
def failureBudgetOpen (now : Time) (counters : Counters δ) : Bool :=
  decide (failuresInWindow hasher limit subject now counters <
    (failureSubject hasher limit subject).2.1)

/-- A subject has room in its window. -/
def subjectBudgetOpen (lane : Lane) (now : Time) (counters : Counters δ) : Bool :=
  let budget := (limit.subjectPolicy lane).getD (0, 0)
  let hash := (subjectHash hasher limit subject lane).getD hasher.zeros
  decide (attemptsInWindow (limit.scope, hash) budget.2 now counters < budget.1)

/-- Record a rejected factor. -/
def recordFailure (now : Time) (counters : Counters δ) : Except Violation Unit × Counters δ :=
  let failures := failureSubject hasher limit subject
  match upsert (fun _ => true) failures.1 failures.2.2 now counters with
  | .error violation => (.error violation, counters)
  | .ok none => (.ok (), counters)
  | .ok (some after) => (.ok (), after)

end Zrotext.Abuse
