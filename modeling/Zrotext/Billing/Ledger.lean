import Zrotext.Delivery.Schema
import Zrotext.Foundation.Fallible
import Zrotext.Foundation.Keyed

/-!
# The billing inbox

Verified Stripe events are recorded once, and mark their subscription dirty when
the customer is bound to an account.  Binding a customer queues the events that
came before.  Each function is one transaction; one that fails changes nothing.
-/

namespace Zrotext.Billing

open Foundation Delivery Fallible

inductive Disposition
  | queued | unbound | ignored | conflict | unsupported
deriving DecidableEq

inductive IngestResult
  | queued | unbound | ignored | unsupported | conflict | duplicate
deriving DecidableEq

inductive BillingError
  | invalidEvent | eventConflict | tenantConflict
deriving DecidableEq

structure VerifiedEvent where
  (eventId eventType : Text)
  (objectId customerId subscriptionId riskChargeId riskPaymentIntentId : Option Text)
  paymentFailedAtUnix : Option Int
  bodySha256 : Bytes
  unsupported : Bool
deriving DecidableEq

/-- A row of billing_events. -/
structure BillingEvent where
  (eventId eventType : Text)
  (objectId customerId subscriptionId : Option Text)
  accountId : Option Uuid
  bodySha256 : Bytes
  disposition : Disposition
  paymentFailedAt : Option Time
  receivedAt : Time
deriving DecidableEq

/-- A row of billing_customers, in which accounts and customers are unique. -/
structure Customer where
  accountId : Uuid
  customerId : Text
deriving DecidableEq

inductive ReconciliationState
  | queued | needsReview
deriving DecidableEq

/-- A row of billing_reconciliations, with the defaults of an insert. -/
structure Reconciliation where
  subscriptionId : Text
  accountId : Uuid
  customerId : Text
  dirtyGeneration : Int := 1
  processedGeneration : Int := 0
  state : ReconciliationState := .queued
  failedAttempts : Int := 0
  lastFailureClass : Option Text := none
deriving DecidableEq

/-- The statuses of a subscription that are understood. -/
inductive Status
  | incomplete | incompleteExpired | trialing | active | pastDue | canceled | unpaid | paused
  | providerDeleted
deriving DecidableEq

/-- A row of billing_subscriptions. -/
structure Subscription where
  subscriptionId : Text
  accountId : Uuid
  customerId : Text
  status : Status
  priceId : Option Text
  recognizedPrice : Bool
  graceStartedAt : Option Int
  lastNonPastDueAt : Option Time
  (latestInvoiceId graceInvoiceId : Option Text)
deriving DecidableEq

structure Tables where
  customers : List Customer
  events : Keyed BillingEvent.eventId
  reconciliations : Keyed Reconciliation.subscriptionId
  subscriptions : Keyed Subscription.subscriptionId
deriving DecidableEq

/-- Nothing recorded yet. -/
def Tables.unused (customers : List Customer) : Tables := ⟨customers, .empty, .empty, .empty⟩

/-- An identifier with a lead and letters or digits after it. -/
def validId (id lead : Text) : Bool :=
  decide (lead.length < id.length) && decide (id.length ≤ 255) &&
    lead.isPrefixOf id && (id.drop lead.length).all Char.isAlphanum

namespace Tables

def accountOf (customerId : Text) (tables : Tables) : Option Uuid :=
  (tables.customers.find? (·.customerId == customerId)).map Customer.accountId

/-- The subscription belongs to another account or customer. -/
def ownedElsewhere (accountId : Uuid) (customerId subscriptionId : Text) (tables : Tables) : Bool :=
  (tables.subscriptions.lookup subscriptionId).any (fun row =>
    row.accountId != accountId || row.customerId != customerId) ||
  (tables.reconciliations.lookup subscriptionId).any fun row =>
    row.accountId != accountId || row.customerId != customerId

/-- Mark a subscription dirty; none when it belongs elsewhere. -/
def queueSubscription (accountId : Uuid) (customerId subscriptionId : Text)
    (tables : Tables) : Option Tables :=
  if tables.ownedElsewhere accountId customerId subscriptionId then none
  else
    let row : Reconciliation :=
      match tables.reconciliations.lookup subscriptionId with
      | none => { subscriptionId, accountId, customerId }
      | some known =>
        { known with
          dirtyGeneration := known.dirtyGeneration + 1, state := .queued, failedAttempts := 0
          lastFailureClass := none }
    some { tables with reconciliations := tables.reconciliations.put row }

end Tables

namespace VerifiedEvent

/-- What becomes of an event, before its subscription is queued. -/
def initial (event : VerifiedEvent) (accountId : Option Uuid) : IngestResult × Disposition :=
  if event.unsupported then (.unsupported, .unsupported)
  else if event.subscriptionId.isNone && event.riskChargeId.isNone &&
      event.riskPaymentIntentId.isNone then (.ignored, .ignored)
  else if accountId.isNone then (.unbound, .unbound)
  else (.queued, .queued)

def row (event : VerifiedEvent) (accountId : Option Uuid) (now : Time) : BillingEvent where
  eventId := event.eventId
  eventType := event.eventType
  objectId := event.objectId
  customerId := event.customerId
  subscriptionId := event.subscriptionId
  accountId
  bodySha256 := event.bodySha256
  disposition := (event.initial accountId).2
  paymentFailedAt := event.paymentFailedAtUnix.map fun unix =>
    min (seconds unix) now
  receivedAt := now

end VerifiedEvent

/-- Insert an event and mark its subscription dirty. -/
def ingest (now : Time) (event : VerifiedEvent) (tables : Tables) :
    Except BillingError (IngestResult × Tables) :=
  let accountId := event.customerId.bind tables.accountOf
  let row := event.row accountId now
  match tables.events.lookup event.eventId with
  | some existing =>
    if existing.bodySha256 = event.bodySha256 then .ok (.duplicate, tables)
    else .error .eventConflict
  | none =>
    let recorded := { tables with events := tables.events.put row }
    match event.unsupported, accountId, event.customerId, event.subscriptionId with
    | false, some accountId, some customerId, some subscriptionId =>
      match recorded.queueSubscription accountId customerId subscriptionId with
      | some queued => .ok ((event.initial accountId).1, queued)
      | none =>
        .ok (.conflict, { recorded with
          events := recorded.events.put { row with disposition := .conflict } })
    | _, _, _, _ => .ok ((event.initial accountId).1, recorded)

/-- The order in which unbound events are queued. -/
def Earlier (event other : BillingEvent) : Prop := event.receivedAt < other.receivedAt ∨
    event.receivedAt = other.receivedAt ∧ event.eventId ≤ other.eventId

instance : DecidableRel Earlier := fun _ _ =>
  inferInstanceAs (Decidable (_ ∨ _))

namespace Tables

/-- Bind a customer, unless it or the account has a row. -/
def insertCustomer (accountId : Uuid) (customerId : Text) (tables : Tables) : Tables :=
  if tables.customers.any fun row =>
      row.accountId == accountId || row.customerId == customerId then
    tables
  else
    { tables with customers := tables.customers ++ [⟨accountId, customerId⟩] }

/-- The events of a customer that wait with a subscription for a binding. -/
def unboundEvents (customerId : Text) (tables : Tables) : List BillingEvent :=
  (tables.events.rows.filter fun row => row.customerId == some customerId &&
    row.subscriptionId.isSome && row.disposition == .unbound).insertionSort Earlier

/-- Queue one event that waited for the binding. -/
def queueUnbound (accountId : Uuid) (customerId : Text) (tables : Tables)
    (event : BillingEvent) : Tables :=
  let settle (disposition : Disposition) (tables : Tables) : Tables :=
    { tables with
      events := tables.events.put
        { event with accountId := some accountId, disposition } }
  match event.subscriptionId.bind fun subscriptionId =>
      tables.queueSubscription accountId customerId subscriptionId with
  | some queued => settle .queued queued
  | none => settle .conflict tables

/-- The risk events of a customer that wait without a subscription. -/
def isUnboundRisk (customerId : Text) (row : BillingEvent) : Bool :=
  row.customerId == some customerId && row.subscriptionId.isNone &&
    ["charge.refunded".toList, "refund.created".toList,
      "charge.dispute.created".toList].contains row.eventType &&
    row.disposition == .unbound

end Tables

/-- Bind a customer to an account and queue the events that waited for it. -/
def bindCustomer (accountId : Uuid) (customerId : Text) (tables : Tables) :
    Except BillingError Tables := do
  require .invalidEvent (validId customerId "cus_".toList)
  let bound := tables.insertCustomer accountId customerId
  require .tenantConflict (bound.accountOf customerId == some accountId)
  let queued := (bound.unboundEvents customerId).foldl
    (Tables.queueUnbound accountId customerId) bound
  .ok { queued with
    events := queued.events.revise (Tables.isUnboundRisk customerId)
      (fun row => { row with
        accountId := some accountId
        disposition := .queued }) fun _ => rfl }

end Zrotext.Billing
