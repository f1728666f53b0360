import Zrotext.Billing.Ledger

/-!
# Payment grace

A reconciliation applies what the provider says of a subscription.  The grace of
a late payment starts at the first failure of the current invoice.
-/

namespace Zrotext.Billing

open Foundation Delivery Fallible Option Keyed

/-- A subscription as the provider has it, without a status when its text is not
understood. -/
structure SubscriptionSnapshot where
  (subscriptionId customerId : Text)
  status : Option Status
  (priceId latestInvoiceId : Option Text)

/-- A call of the reconciliation.  The device caps may refuse it, and so may the
projections of quotas and invoices that end it. -/
structure Reading where
  accountId : Uuid
  snapshot : SubscriptionSnapshot
  recognizedPrices : List Text
  expectedGeneration : Int
  now : Time
  capsConfigured : Bool := true
  projected : Except BillingError Unit := .ok ()

/-- The seconds of a time, rounded. -/
def epochSeconds (time : Time) : Int :=
  if 0 ≤ time then (time + 500000) / 1000000 else -((500000 - time) / 1000000)

/-- The first failure of an invoice after the subscription was last not late. -/
def Tables.firstFailure (accountId : Uuid) (subscriptionId : Text) (tables : Tables)
    (invoiceId : Text) : Option Int :=
  let boundary := ((tables.subscriptions.lookup subscriptionId).filter
    (·.accountId == accountId)).bind Subscription.lastNonPastDueAt
  let failures := tables.events.rows.filterMap fun row =>
    if row.accountId = some accountId ∧ row.subscriptionId = some subscriptionId ∧
        row.objectId = some invoiceId ∧ boundary.all (decide <| · < row.receivedAt) then
      row.paymentFailedAt.filter fun failed => boundary.all (decide <| · < failed)
    else none
  failures.min?.map epochSeconds

/-- The start of the grace and its invoice. -/
def grace (prior : Option Subscription) (status : Status) (latestInvoiceId : Option Text)
    (candidate : Option Int) : Option Int × Option Text :=
  let priorPastDue := prior.any (·.status == .pastDue)
  let priorStart := prior.bind Subscription.graceStartedAt
  let priorInvoice := prior.bind Subscription.graceInvoiceId
  if status = .pastDue then
    if priorPastDue && priorStart.isSome && priorInvoice == latestInvoiceId then
      (priorStart, priorInvoice)
    else
      match candidate, latestInvoiceId with
      | some candidate, some invoiceId =>
        (some (if priorPastDue then priorStart.elim candidate (min · candidate) else candidate),
          some invoiceId)
      | _, _ => if priorPastDue then (priorStart, priorInvoice) else (none, none)
  else (none, none)

/-- The rows that an applied snapshot writes. -/
def Tables.project (call : Reading) (row : Reconciliation) (status : Status) (tables : Tables) :
    Tables :=
  let snapshot := call.snapshot
  let known := tables.subscriptions.lookup snapshot.subscriptionId
  let anchor := grace (known.filter (·.accountId == call.accountId)) status
    snapshot.latestInvoiceId (snapshot.latestInvoiceId.bind
      (tables.firstFailure call.accountId snapshot.subscriptionId))
  let next : Subscription :=
    { subscriptionId := snapshot.subscriptionId, accountId := call.accountId
      customerId := snapshot.customerId, status, priceId := snapshot.priceId
      recognizedPrice := snapshot.priceId.any call.recognizedPrices.contains
      graceStartedAt := anchor.1
      lastNonPastDueAt :=
        if status = .pastDue then known.bind Subscription.lastNonPastDueAt else some call.now
      latestInvoiceId := snapshot.latestInvoiceId, graceInvoiceId := anchor.2 }
  { tables with
    subscriptions :=
      if known.all fun row =>
          row.accountId == call.accountId && row.customerId == snapshot.customerId then
        tables.subscriptions.put next
      else tables.subscriptions
    reconciliations := tables.reconciliations.put { row with
      processedGeneration := call.expectedGeneration, failedAttempts := 0, state := .queued
      lastFailureClass := none } }

/-- The generation was processed, or is not there yet. -/
def Reading.isStale (call : Reading) (row : Reconciliation) : Bool :=
  decide (call.expectedGeneration ≤ row.processedGeneration) ||
    decide (row.dirtyGeneration < call.expectedGeneration)

def reconcileWithInvoice (call : Reading) (tables : Tables) : Except BillingError Tables := do
  let snapshot := call.snapshot
  require .invalidEvent (validId snapshot.subscriptionId "sub_".toList)
  require .invalidEvent (validId snapshot.customerId "cus_".toList)
  require .invalidEvent (snapshot.priceId.all (validId · "price_".toList))
  require .invalidEvent call.capsConfigured
  require .tenantConflict (tables.customers.contains ⟨call.accountId, snapshot.customerId⟩)
  let row ← demand .tenantConflict ((tables.reconciliations.lookup snapshot.subscriptionId).filter
    (·.accountId == call.accountId))
  require .tenantConflict (row.customerId == snapshot.customerId)
  if call.isStale row then .ok tables
  else do
    let status ← demand .invalidEvent snapshot.status
    call.projected
    .ok (tables.project call row status)

namespace Grace

inductive Action
  | ingest (now : Time) (event : VerifiedEvent)
  | bind (accountId : Uuid) (customerId : Text)
  | reconcile (call : Reading)

/-- A transaction that fails changes nothing. -/
def step (tables : Tables) : Action → Tables
  | .ingest now event => ((ingest now event tables).map Prod.snd).toOption.getD tables
  | .bind accountId customerId => (bindCustomer accountId customerId tables).toOption.getD tables
  | .reconcile call => (reconcileWithInvoice call tables).toOption.getD tables

def run (actions : List Action) (tables : Tables) : Tables := actions.foldl step tables

/-- The start of the grace that is stored for a subscription. -/
def graceOf (subscriptionId : Text) (tables : Tables) : Option Int :=
  (tables.subscriptions.lookup subscriptionId).bind Subscription.graceStartedAt

/-- A snapshot that was applied, and whether a grace was stored by then. -/
structure Applied where
  subscriptionId : Text
  generation : Int
  status : Status
  inGrace : Bool

/-- The snapshot that an action applies. -/
def Action.applied (tables : Tables) : Action → Option Applied
  | .reconcile call =>
    match reconcileWithInvoice call tables, call.snapshot.status,
      tables.reconciliations.lookup call.snapshot.subscriptionId with
    | .ok _, some status, some row =>
      if call.isStale row then none
      else some
        ⟨call.snapshot.subscriptionId, call.expectedGeneration, status,
          (graceOf call.snapshot.subscriptionId tables).isSome⟩
    | _, _, _ => none
  | _ => none

/-- The snapshots that a run applies to a subscription. -/
def applied (subscriptionId : Text) : List Action → Tables → List Applied
  | [], _ => []
  | action :: actions, tables =>
    ((action.applied tables).filter (·.subscriptionId == subscriptionId)).toList ++
      applied subscriptionId actions (step tables action)

/-- The last generation that was processed for a subscription. -/
def processedOf (subscriptionId : Text) (tables : Tables) : Option Int :=
  (tables.reconciliations.lookup subscriptionId).map Reconciliation.processedGeneration

/-! ## Steps -/

/-- Only a reconciliation writes subscriptions and processed generations. -/
structure Quiet (tables after : Tables) : Prop where
  subscriptions : after.subscriptions = tables.subscriptions
  processed : ∀ subscriptionId generation, processedOf subscriptionId tables = some generation →
    processedOf subscriptionId after = some generation

theorem quiet_events (tables : Tables) (events : Keyed BillingEvent.eventId) :
    Quiet tables { tables with events } := ⟨rfl, fun _ _ => id⟩

theorem Quiet.trans (first : Quiet tables middle)
    (second : Quiet middle after) : Quiet tables after where
  subscriptions := second.subscriptions.trans first.subscriptions
  processed := fun subscriptionId generation isProcessed =>
    second.processed subscriptionId generation (first.processed _ _ isProcessed)

section Steps

variable {tables : Tables}

theorem quiet_settled {result : Except BillingError Tables}
    (quiet : ∀ after, result = .ok after → Quiet tables after) :
    Quiet tables (result.toOption.getD tables) := by
  cases result with
  | error failure => exact quiet_events tables _
  | ok after => exact quiet after rfl

theorem quiet_queueSubscription
    (queued : tables.queueSubscription accountId customerId subscriptionId = some after) :
    Quiet tables after := by
  unfold Tables.queueSubscription at queued
  split_ifs at queued
  cases queued
  refine ⟨rfl, fun sought generation isProcessed => ?_⟩
  unfold processedOf at isProcessed ⊢
  rw [lookup_put]
  cases found : tables.reconciliations.lookup subscriptionId with
  | none =>
    split_ifs with same
    · subst same
      simp [found] at isProcessed
    · exact isProcessed
  | some known =>
    obtain ⟨_, rfl⟩ := lookup_eq_some_iff.mp found
    split_ifs with same
    · subst same
      rwa [found] at isProcessed
    · exact isProcessed

theorem quiet_ingest (now : Time) (event : VerifiedEvent) :
    Quiet tables (step tables (.ingest now event)) := by
  refine quiet_settled fun after result => ?_
  cases ingested : ingest now event tables with
  | error failure => simp [ingested, Except.map] at result
  | ok pair =>
    rw [ingested] at result
    cases result
    unfold ingest at ingested
    simp only at ingested
    split at ingested
    · split_ifs at ingested
      cases ingested
      exact quiet_events tables _
    · split at ingested
      · split at ingested <;> cases ingested
        · rename_i isQueued
          exact (quiet_events tables _).trans (quiet_queueSubscription isQueued)
        · exact quiet_events tables _
      · cases ingested
        exact quiet_events tables _

theorem quiet_queueUnbound (event : BillingEvent) :
    Quiet tables (tables.queueUnbound accountId customerId event) := by
  unfold Tables.queueUnbound
  split
  · rename_i queued isQueued
    obtain ⟨own, _, isQueued⟩ := bind_eq_some_iff.mp isQueued
    exact (quiet_queueSubscription isQueued).trans (quiet_events _ _)
  · exact quiet_events tables _

theorem quiet_bind (accountId : Uuid) (customerId : Text) :
    Quiet tables (step tables (.bind accountId customerId)) := by
  have folded : ∀ (waiting : List BillingEvent) (bound : Tables),
      Quiet bound (waiting.foldl (Tables.queueUnbound accountId customerId) bound) := by
    intro waiting
    induction waiting with
    | nil => exact fun bound => quiet_events bound _
    | cons event rest ih =>
      exact fun bound => (quiet_queueUnbound event).trans (ih _)
  have inserted : Quiet tables (tables.insertCustomer accountId customerId) := by
    unfold Tables.insertCustomer
    split_ifs <;> exact ⟨rfl, fun _ _ => id⟩
  refine quiet_settled fun after result => ?_
  simp only [bindCustomer, bind_eq_ok] at result
  obtain ⟨_, _, _, _, ⟨⟩⟩ := result
  exact (inserted.trans (folded _ _)).trans (quiet_events _ _)

theorem step_reconcile (tables : Tables) (call : Reading) :
    step tables (.reconcile call) = tables ∧ (Action.reconcile call).applied tables = none ∨
    ∃ row status, tables.reconciliations.lookup call.snapshot.subscriptionId = some row ∧
      row.processedGeneration < call.expectedGeneration ∧ (Action.reconcile call).applied tables =
        some ⟨call.snapshot.subscriptionId, call.expectedGeneration, status,
          (graceOf call.snapshot.subscriptionId tables).isSome⟩ ∧
      step tables (.reconcile call) = tables.project call row status := by
  cases result : reconcileWithInvoice call tables with
  | error failure => exact .inl (by simp [step, Action.applied, result, Except.toOption])
  | ok after =>
    have isStep : step tables (.reconcile call) = after := by simp [step, result, Except.toOption]
    have inverted := result
    simp only [reconcileWithInvoice, bind_eq_ok] at inverted
    obtain ⟨_, _, _, _, _, _, _, _, _, _, row, isRow, _, _, inverted⟩ := inverted
    obtain ⟨isRow, _⟩ := filter_eq_some_iff.mp (demand_eq_ok.mp isRow)
    split_ifs at inverted with stale
    · cases inverted
      refine .inl ⟨isStep, ?_⟩
      cases isStatus : call.snapshot.status <;>
        simp [Action.applied, result, isRow, isStatus, stale]
    · simp only [bind_eq_ok] at inverted
      obtain ⟨status, isStatus, _, _, ⟨⟩⟩ := inverted
      refine .inr ⟨row, status, isRow, ?_, ?_, isStep⟩
      · simp [Reading.isStale] at stale
        exact stale.1
      · simp [Action.applied, result, isRow, demand_eq_ok.mp isStatus, stale]

/-- Only a reconciliation that applies its snapshot is not quiet. -/
theorem step_cases (tables : Tables) (action : Action) :
    Quiet tables (step tables action) ∧ action.applied tables = none ∨
    ∃ call row status, tables.reconciliations.lookup call.snapshot.subscriptionId = some row ∧
      row.processedGeneration < call.expectedGeneration ∧ action.applied tables =
        some ⟨call.snapshot.subscriptionId, call.expectedGeneration, status,
          (graceOf call.snapshot.subscriptionId tables).isSome⟩ ∧
      step tables action = tables.project call row status := by
  cases action with
  | ingest now event => exact .inl ⟨quiet_ingest now event, rfl⟩
  | bind accountId customerId => exact .inl ⟨quiet_bind accountId customerId, rfl⟩
  | reconcile call =>
    rcases step_reconcile tables call with ⟨same, unapplied⟩ | applies
    · rw [same]
      exact .inl ⟨quiet_events tables _, unapplied⟩
    · exact .inr ⟨call, applies⟩

theorem processed_step (action : Action) {generation : Int}
    (isProcessed : processedOf subscriptionId tables = some generation) :
    ∃ later, processedOf subscriptionId (step tables action) = some later ∧ generation ≤ later ∧
      ∀ entry, action.applied tables = some entry → entry.subscriptionId = subscriptionId →
        generation < entry.generation ∧ later = entry.generation := by
  rcases step_cases tables action with ⟨quiet, unapplied⟩ |
    ⟨call, row, status, isRow, grows, isApplied, isAfter⟩
  · rw [unapplied]
    exact ⟨generation, quiet.processed _ _ isProcessed, le_refl _, nofun⟩
  · obtain ⟨_, isKey⟩ := lookup_eq_some_iff.mp isRow
    rw [isAfter, isApplied]
    unfold processedOf at isProcessed ⊢
    simp only [Tables.project, lookup_put, isKey]
    by_cases same : subscriptionId = call.snapshot.subscriptionId
    · subst same
      rw [isRow] at isProcessed
      cases isProcessed
      rw [if_pos rfl]
      refine ⟨_, rfl, grows.le, ?_⟩
      rintro _ ⟨⟩ _
      exact ⟨grows, rfl⟩
    · rw [if_neg same]
      refine ⟨generation, isProcessed, le_refl _, ?_⟩
      rintro _ ⟨⟩ isOther
      exact absurd isOther.symm same

/-- A grace runs only while a payment is late. -/
def Sound (tables : Tables) : Prop :=
  ∀ subscriptionId row, tables.subscriptions.lookup subscriptionId = some row →
    row.graceStartedAt.isSome = true → row.status = .pastDue

theorem grace_of_pastDue {prior : Subscription} (late : prior.status = .pastDue)
    (isStart : prior.graceStartedAt = some start) (latestInvoiceId : Option Text)
    (candidate : Option Int) : ∃ next ≤ start,
      (grace (some prior) .pastDue latestInvoiceId candidate).1 = some next := by
  unfold grace
  simp only [any_some, late, bind_some, isStart, beq_self_eq_true, if_true]
  split_ifs
  · exact ⟨start, le_refl _, rfl⟩
  · cases candidate <;> cases latestInvoiceId <;> simp

/-- A late payment that stays late has no later grace. -/
theorem grace_step (sound : Sound tables) (action : Action) :
    Sound (step tables action) ∧ ∀ start, graceOf subscriptionId tables = some start →
      (∀ entry, action.applied tables = some entry → entry.subscriptionId = subscriptionId →
        entry.inGrace → entry.status = .pastDue) →
      ∃ next ≤ start, graceOf subscriptionId (step tables action) = some next := by
  have quietly : ∀ after : Tables, after.subscriptions = tables.subscriptions →
      Sound after ∧ ∀ start, graceOf subscriptionId tables = some start →
        ∃ next ≤ start, graceOf subscriptionId after = some next := by
    intro after same
    unfold Sound graceOf
    rw [same]
    exact ⟨sound, fun start isStart => ⟨start, le_refl _, isStart⟩⟩
  rcases step_cases tables action with ⟨quiet, _⟩ | ⟨call, row, status, _, _, isApplied, isAfter⟩
  · obtain ⟨isSound, kept⟩ := quietly _ quiet.subscriptions
    exact ⟨isSound, fun start isStart _ => kept start isStart⟩
  rw [isAfter, isApplied]
  by_cases owned : ((tables.subscriptions.lookup call.snapshot.subscriptionId).all fun row =>
      row.accountId == call.accountId && row.customerId == call.snapshot.customerId)
  · unfold Sound graceOf
    simp only [Tables.project, owned, if_true, lookup_put]
    refine ⟨fun sought next => ?_, fun start isStart late => ?_⟩
    · by_cases same : sought = call.snapshot.subscriptionId
      · rw [if_pos same]
        rintro ⟨⟩ isSet
        by_contra notLate
        simp [grace, notLate] at isSet
      · rw [if_neg same]
        exact sound sought next
    · by_cases same : subscriptionId = call.snapshot.subscriptionId
      · subst same
        obtain ⟨prior, found, isPrior⟩ := bind_eq_some_iff.mp isStart
        have isLate : status = .pastDue := late _ rfl rfl (by rw [isStart]; rfl)
        rw [found, all_some, Bool.and_eq_true] at owned
        simp only [if_true, found, filter_some, owned.1, isLate, bind_some]
        exact grace_of_pastDue (sound _ _ found (by rw [isPrior]; rfl)) isPrior _ _
      · rw [if_neg same]
        exact ⟨start, le_refl _, isStart⟩
  · obtain ⟨isSound, kept⟩ := quietly (tables.project call row status) (by
      simp only [Tables.project, owned, Bool.false_eq_true, if_false])
    exact ⟨isSound, fun start isStart _ => kept start isStart⟩

theorem sound_unused (customers : List Customer) : Sound (.unused customers) := by
  intro subscriptionId row found
  simp [Tables.unused, lookup, empty] at found

theorem sound_run (sound : Sound tables) (actions : List Action) : Sound (run actions tables) := by
  induction actions generalizing tables with
  | nil => exact sound
  | cons action rest ih =>
    exact ih (@grace_step tables [] sound action).1

theorem grace_run (sound : Sound tables)
    (isStart : graceOf subscriptionId tables = some start)
    (late : ∀ entry ∈ applied subscriptionId actions tables,
      entry.inGrace → entry.status = .pastDue) :
    ∃ next ≤ start, graceOf subscriptionId (run actions tables) = some next := by
  induction actions generalizing tables start with
  | nil => exact ⟨start, le_refl _, isStart⟩
  | cons action rest ih =>
    rw [applied, List.forall_mem_append] at late
    obtain ⟨isSound, kept⟩ := grace_step sound action
    obtain ⟨middle, before, isMiddle⟩ := kept start isStart fun entry isApplied isOwn =>
      late.1 entry (by simp [isApplied, isOwn])
    obtain ⟨next, below, isNext⟩ := ih isSound isMiddle late.2
    exact ⟨next, below.trans before, isNext⟩

theorem applied_append (earlier later : List Action) (tables : Tables) :
    applied subscriptionId (earlier ++ later) tables =
      applied subscriptionId earlier tables ++ applied subscriptionId later (run earlier tables) :=
      by
  induction earlier generalizing tables with
  | nil => rfl
  | cons action rest ih => simp [applied, ih, run]

theorem applied_above (actions : List Action)
    (isProcessed : processedOf subscriptionId tables = some generation) :
    ∀ entry ∈ applied subscriptionId actions tables, generation < entry.generation := by
  induction actions generalizing tables generation with
  | nil => exact nofun
  | cons action rest ih =>
    obtain ⟨later, isLater, grows, above⟩ := processed_step action isProcessed
    rw [applied, List.forall_mem_append]
    refine ⟨fun entry listed => ?_, fun entry listed =>
      grows.trans_lt (ih isLater entry listed)⟩
    obtain ⟨isApplied, isOwn⟩ := filter_eq_some_iff.mp (mem_toList.mp listed)
    exact (above entry isApplied (beq_iff_eq.mp isOwn)).1

theorem applied_increasing (actions : List Action) :
    (applied subscriptionId actions tables).Pairwise (·.generation < ·.generation) := by
  induction actions generalizing tables with
  | nil => exact .nil
  | cons action rest ih =>
    rw [applied, List.pairwise_append]
    refine ⟨?_, ih, fun entry listed => ?_⟩
    · cases (action.applied tables).filter (·.subscriptionId == subscriptionId) <;> simp
    · obtain ⟨isApplied, isOwn⟩ := filter_eq_some_iff.mp (mem_toList.mp listed)
      rw [beq_iff_eq] at isOwn
      refine applied_above rest ?_
      rcases step_cases tables action with ⟨_, unapplied⟩ | ⟨call, row, status, isRow, _, same, _⟩
      · rw [unapplied] at isApplied
        nomatch isApplied
      · rw [same] at isApplied
        cases isApplied
        obtain ⟨later, isLater, _, above⟩ := @processed_step tables subscriptionId action
          row.processedGeneration (by rw [processedOf, ← isOwn, isRow]; rfl)
        rw [isLater, (above _ same isOwn).2]

/-- While each snapshot that is applied in a grace says that the payment is late
or was made, the grace is never extended without a payment.  Generations are
applied in their order, and once, whatever the snapshots say. -/
theorem grace_never_extended (customers : List Customer) (subscriptionId : Text)
    (actions : List Action) :
    ((∀ entry ∈ applied subscriptionId actions (.unused customers), entry.inGrace →
        entry.status = .pastDue ∨ entry.status = .active ∨ entry.status = .trialing) →
      ∀ earlier later, actions = earlier ++ later →
        let before := run earlier (.unused customers)
        (∀ entry ∈ applied subscriptionId later before,
          entry.status ≠ .active ∧ entry.status ≠ .trialing) →
        ∀ start next, graceOf subscriptionId before = some start →
          graceOf subscriptionId (run actions (.unused customers)) = some next → next ≤ start) ∧
    (applied subscriptionId actions (.unused customers)).Pairwise (·.generation < ·.generation) ∧
    ∀ call, call.snapshot.subscriptionId = subscriptionId →
      (∀ generation, processedOf subscriptionId (run actions (.unused customers)) =
        some generation → call.expectedGeneration ≤ generation) →
      step (run actions (.unused customers)) (.reconcile call) =
        run actions (.unused customers) := by
  refine ⟨?_, applied_increasing actions, ?_⟩
  · rintro understood earlier later rfl before unpaid start next isStart isNext
    have isRun : run (earlier ++ later) (.unused customers) = run later before := List.foldl_append
    have late : ∀ entry ∈ applied subscriptionId later before,
        entry.inGrace → entry.status = .pastDue := by
      intro entry listed inGrace
      have isListed : entry ∈ applied subscriptionId (earlier ++ later) (.unused customers) := by
        rw [applied_append]
        exact List.mem_append_right _ listed
      rcases understood entry isListed inGrace with isLate | paid | tried
      · exact isLate
      · exact absurd paid (unpaid entry listed).1
      · exact absurd tried (unpaid entry listed).2
    obtain ⟨bounded, below, isBounded⟩ := grace_run
      (sound_run (sound_unused customers) earlier) isStart late
    rw [isRun, isBounded] at isNext
    cases isNext
    exact below
  · rintro call rfl processed
    rcases step_reconcile (run actions (.unused customers)) call with
      ⟨same, _⟩ | ⟨row, _, isRow, above, _⟩
    · exact same
    · exact absurd (processed row.processedGeneration (by rw [processedOf, isRow]; rfl))
        above.not_ge

end Steps

namespace Drill

/-- An event about an invoice or about the subscription. -/
def event (eventId eventType objectId : String) (failedAt : Option Int) (unix : Int) : Action :=
  .ingest (seconds unix)
    { eventId := eventId.toList, eventType := eventType.toList, objectId := some objectId.toList
      customerId := some "cus_1".toList, subscriptionId := some "sub_1".toList
      riskChargeId := none, riskPaymentIntentId := none, paymentFailedAtUnix := failedAt
      bodySha256 := [], unsupported := false }

/-- The payment of an invoice fails. -/
def failure (eventId invoiceId : String) (unix : Int) : Action :=
  event eventId "invoice.payment_failed" invoiceId (some unix) unix

/-- The subscription is read from the provider. -/
def reading (status : Status) (invoiceId : String) (generation unix : Int) : Action :=
  .reconcile
    { accountId := 7
      snapshot := ⟨"sub_1".toList, "cus_1".toList, some status, none, some invoiceId.toList⟩
      recognizedPrices := [], expectedGeneration := generation, now := seconds unix }

/-- The only customer. -/
def customers : List Customer := [⟨7, "cus_1".toList⟩]

/-- A payment fails, and the grace starts. -/
def late : List Action := [failure "evt_1" "in_1" 100, reading .pastDue "in_1" 1 101]

/-- The next invoice fails as well. -/
def later : List Action := [failure "evt_2" "in_2" 300, reading .pastDue "in_2" 2 301]

/-- The provider gives up on the first invoice before the next one fails. -/
def unpaid : List Action :=
  [event "evt_2" "customer.subscription.updated" "sub_1" none 200, reading .unpaid "in_1" 2 201,
    failure "evt_3" "in_2" 300, reading .pastDue "in_2" 3 301]

end Drill

/-- A second failed invoice leaves the grace as it started. -/
theorem grace_never_extended_late :
    graceOf "sub_1".toList (run (Drill.late ++ Drill.later) (.unused Drill.customers)) =
      some 100 ∧ (100 : Int) ≤ 100 :=
  ⟨by decide +kernel, (grace_never_extended Drill.customers "sub_1".toList
    (Drill.late ++ Drill.later)).1 (by decide +kernel) Drill.late Drill.later rfl
    (by decide +kernel) 100 100 (by decide +kernel) (by decide +kernel)⟩

/-- An unpaid subscription that is late again has a new grace. -/
theorem grace_extended_after_unpaid :
    ¬ ∀ earlier later, Drill.late ++ Drill.unpaid = earlier ++ later →
      let before := run earlier (.unused Drill.customers)
      (∀ entry ∈ applied "sub_1".toList later before,
        entry.status ≠ .active ∧ entry.status ≠ .trialing) →
      ∀ start next, graceOf "sub_1".toList before = some start →
        graceOf "sub_1".toList (run (Drill.late ++ Drill.unpaid) (.unused Drill.customers)) =
          some next → next ≤ start := by
  intro never
  have extended := never Drill.late Drill.unpaid rfl (by decide +kernel) 100 300
    (by decide +kernel) (by decide +kernel)
  omega

end Grace

end Zrotext.Billing
