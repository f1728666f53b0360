import Zrotext.Billing.Ledger

/-!
# Events and the binding of their customer commute

Whatever the order in which events arrive and their customer is bound, each
subscription ends with one generation for each of its distinct events.
-/

namespace Zrotext.Billing

open Foundation Delivery Fallible List Keyed

/-- An event that is delivered, or the binding. -/
inductive Input
  | ingest (now : Time) (event : VerifiedEvent)
  | bind
deriving DecidableEq

def Input.event? : Input → Option VerifiedEvent
  | .ingest _ event => some event
  | .bind => none

def step (accountId : Uuid) (customerId : Text) (tables : Tables) : Input → Tables
  | .ingest now event => ((ingest now event tables).map Prod.snd).toOption.getD tables
  | .bind => (bindCustomer accountId customerId tables).toOption.getD tables

def run (accountId : Uuid) (customerId : Text) (inputs : List Input) (tables : Tables) : Tables :=
  inputs.foldl (step accountId customerId) tables

/-- Supported events of subscriptions whose customers are given, delivered again
only with the same bytes. -/
structure Deliveries (owner : Text → Text) (events : List VerifiedEvent) : Prop where
  supported : ∀ event ∈ events, event.unsupported = false
  owned : ∀ event ∈ events, ∃ subscriptionId, event.subscriptionId = some subscriptionId ∧
    event.customerId = some (owner subscriptionId)
  redelivered : ∀ event ∈ events, ∀ other ∈ events, event.eventId = other.eventId → event = other

/-- The number of distinct events of a subscription. -/
def distinctEvents (events : List VerifiedEvent) (subscriptionId : Text) : Nat :=
  ((events.filter (·.subscriptionId == some subscriptionId)).map
    VerifiedEvent.eventId).toFinset.card

/-- The row of a subscription that so many events made dirty. -/
def queuedRow (accountId : Uuid) (customerId subscriptionId : Text) : Nat → Option Reconciliation
  | 0 => none
  | count + 1 => some { subscriptionId, accountId, customerId, dirtyGeneration := count + 1 }

def isOf (subscriptionId : Text) (row : BillingEvent) : Bool :=
  row.subscriptionId == some subscriptionId

/-- The tables once the events are recorded. -/
structure Settled (owner : Text → Text) (events : List VerifiedEvent) (tables : Tables) : Prop where
  rows : ∀ row ∈ tables.events.rows, ∃ event ∈ events, ∃ now,
    row = event.row (event.customerId.bind tables.accountOf) now
  recorded : ∀ event ∈ events, event.eventId ∈ tables.events.rows.map BillingEvent.eventId
  queued : ∀ subscriptionId, tables.reconciliations.lookup subscriptionId =
    (tables.accountOf (owner subscriptionId)).bind fun accountId =>
      queuedRow accountId (owner subscriptionId) subscriptionId
        (tables.events.rows.countP (isOf subscriptionId))
  unsubscribed : ∀ subscriptionId, tables.subscriptions.lookup subscriptionId = none

section Queueing

variable {accountId : Uuid} {customerId : Text} {tables : Tables}

theorem queueSubscription_eq {count : Nat}
    (unsubscribed : tables.subscriptions.lookup subscriptionId = none)
    (isRow : tables.reconciliations.lookup subscriptionId =
      queuedRow accountId customerId subscriptionId count) :
    tables.queueSubscription accountId customerId subscriptionId = some { tables with
      reconciliations := tables.reconciliations.put
        { subscriptionId, accountId, customerId, dirtyGeneration := count + 1 } } := by
  unfold Tables.queueSubscription Tables.ownedElsewhere
  cases count <;> simp [queuedRow, unsubscribed, isRow]

/-- An event once its customer is bound. -/
def BillingEvent.bound (accountId : Uuid) (row : BillingEvent) : BillingEvent :=
  { row with accountId := some accountId, disposition := .queued }

def BillingEvent.heading (row : BillingEvent) : Text × Option Text :=
  (row.eventId, row.subscriptionId)

/-- Queueing the events that waited, one after the other. -/
theorem foldl_queueUnbound {owner : Text → Text} {counts : Text → Nat} (waiting : List BillingEvent)
    (owned : ∀ row ∈ waiting, ∃ subscriptionId, row.subscriptionId = some subscriptionId ∧
      owner subscriptionId = customerId)
    (known : ∀ row ∈ waiting, row.heading ∈ tables.events.rows.map BillingEvent.heading)
    (unsubscribed : ∀ subscriptionId, tables.subscriptions.lookup subscriptionId = none)
    (isCount : ∀ subscriptionId, owner subscriptionId = customerId →
      tables.reconciliations.lookup subscriptionId =
        queuedRow accountId customerId subscriptionId (counts subscriptionId)) :
    let after := waiting.foldl (Tables.queueUnbound accountId customerId) tables
    after.customers = tables.customers ∧ after.subscriptions = tables.subscriptions ∧
    after.events.rows.map BillingEvent.heading = tables.events.rows.map BillingEvent.heading ∧
    (∀ row ∈ after.events.rows, row ∈ waiting.map (BillingEvent.bound accountId) ∨
      row ∈ tables.events.rows ∧ row ∉ waiting) ∧
    ∀ subscriptionId, after.reconciliations.lookup subscriptionId =
      if owner subscriptionId = customerId then
        queuedRow accountId customerId subscriptionId
          (counts subscriptionId + waiting.countP (isOf subscriptionId))
      else tables.reconciliations.lookup subscriptionId := by
  induction waiting generalizing tables counts with
  | nil =>
    refine ⟨rfl, rfl, rfl, fun row listed => .inr ⟨listed, nofun⟩, fun subscriptionId => ?_⟩
    split_ifs with isOwn
    · exact isCount subscriptionId isOwn
    · rfl
  | cons row rest ih =>
    obtain ⟨own, isOwn, isOwner⟩ := owned row mem_cons_self
    obtain ⟨former, present, sameHeading⟩ := mem_map.mp (known row mem_cons_self)
    have first : tables.queueUnbound accountId customerId row = { tables with
        reconciliations := tables.reconciliations.put
          { subscriptionId := own, accountId, customerId, dirtyGeneration := counts own + 1 }
        events := tables.events.put (row.bound accountId) } := by
      simp [Tables.queueUnbound, isOwn, BillingEvent.bound,
        queueSubscription_eq (unsubscribed own) (isCount own isOwner)]
    have headings : (tables.events.put (row.bound accountId)).rows.map BillingEvent.heading =
        tables.events.rows.map BillingEvent.heading :=
      map_put _ present (congrArg Prod.fst sameHeading) sameHeading
    obtain ⟨customers, subscriptions, sameHeadings, rows, counted⟩ := @ih
      (tables.queueUnbound accountId customerId row)
      (fun subscriptionId => counts subscriptionId + if isOf subscriptionId row then 1 else 0)
      (fun other listed => owned other (mem_cons_of_mem _ listed))
      (fun other listed => by
        rw [first, headings]
        exact known other (mem_cons_of_mem _ listed))
      (by rwa [first])
      (fun subscriptionId isTheirs => by
        rw [first, lookup_put, isOf, isOwn]
        by_cases same : subscriptionId = own
        · subst same
          simp [queuedRow]
        · simp [same, Ne.symm same, isCount subscriptionId isTheirs])
    rw [first] at customers subscriptions sameHeadings rows counted
    rw [foldl_cons, first]
    refine ⟨customers, subscriptions, sameHeadings.trans headings, ?_, ?_⟩
    · intro other listed
      rcases rows other listed with isBound | ⟨isOld, isLater⟩
      · exact .inl (mem_cons_of_mem _ isBound)
      · rcases mem_put_iff.mp isOld with rfl | ⟨isOlder, different⟩
        · exact .inl mem_cons_self
        · refine .inr ⟨isOlder, fun isWaiting => ?_⟩
          rcases mem_cons.mp isWaiting with rfl | isRest
          · exact different rfl
          · exact isLater isRest
    · intro subscriptionId
      rw [counted, countP_cons, Nat.add_assoc, Nat.add_comm (rest.countP _)]
      by_cases isTheirs : owner subscriptionId = customerId
      · rw [if_pos isTheirs, if_pos isTheirs]
      · rw [if_neg isTheirs, if_neg isTheirs]
        exact lookup_put_of_ne fun same => isTheirs (same ▸ isOwner)

end Queueing

namespace Tables

variable {tables other : Tables}

theorem accountOf_congr (same : tables.customers = other.customers) (sought : Text) :
    tables.accountOf sought = other.accountOf sought := by
  unfold accountOf
  rw [same]

theorem customers_insertCustomer_congr (same : tables.customers = other.customers) :
    (tables.insertCustomer accountId customerId).customers =
      (other.insertCustomer accountId customerId).customers := by
  unfold insertCustomer
  rw [same]
  split_ifs
  · exact same
  · rfl

theorem insertCustomer_of_bound (bound : tables.accountOf customerId = some accountId) :
    tables.insertCustomer accountId customerId = tables := by
  obtain ⟨row, found, _⟩ := Option.map_eq_some_iff.mp bound
  have isCustomer : (row.customerId == customerId) :=
    find?_some (p := fun row : Customer => row.customerId == customerId) found
  unfold insertCustomer
  rw [if_pos (any_eq_true.mpr ⟨row, mem_of_find?_eq_some found, ?_⟩)]
  rw [isCustomer, Bool.or_true]

theorem insertCustomer_eq (tables : Tables) (accountId : Uuid) (customerId : Text) :
    ∃ customers, tables.insertCustomer accountId customerId = { tables with customers } := by
  unfold insertCustomer
  split_ifs <;> exact ⟨_, rfl⟩

/-- A customer that gets bound is bound already, or is the only one that changes. -/
theorem accountOf_insertCustomer
    (commits : (tables.insertCustomer accountId customerId).accountOf customerId = some accountId) :
    tables.accountOf customerId = some accountId ∨ tables.accountOf customerId = none ∧
      ∀ sought, (tables.insertCustomer accountId customerId).accountOf sought =
        if sought = customerId then some accountId else tables.accountOf sought := by
  unfold insertCustomer at commits ⊢
  split_ifs at commits ⊢ with known
  · exact .inl commits
  · have isNew : tables.customers.find? (·.customerId == customerId) = none := by
      refine find?_eq_none.mpr fun row listed same => known ?_
      exact any_eq_true.mpr ⟨row, listed, by rw [same, Bool.or_true]⟩
    refine .inr ⟨by rw [accountOf, isNew]; rfl, fun sought => ?_⟩
    simp only [accountOf, find?_append]
    split_ifs with same
    · simp [same, isNew]
    · simp [Ne.symm same]

end Tables

/-! ## Steps -/

section Steps

variable {tables : Tables}

theorem Deliveries.disposition (deliveries : Deliveries owner events) (listed : event ∈ events)
    (account : Option Uuid) (now : Time) : (event.row account now).disposition =
      if account.isNone then .unbound else .queued := by
  obtain ⟨own, isOwn, _⟩ := deliveries.owned event listed
  cases account <;> simp [VerifiedEvent.row, VerifiedEvent.initial, isOwn,
    deliveries.supported event listed]

theorem Deliveries.left (deliveries : Deliveries owner (events ++ [event])) :
    Deliveries owner events where
  supported := fun event listed => deliveries.supported event (mem_append_left _ listed)
  owned := fun event listed => deliveries.owned event (mem_append_left _ listed)
  redelivered := fun event listed other otherListed => deliveries.redelivered event
    (mem_append_left _ listed) other (mem_append_left _ otherListed)

theorem Settled.put (settled : Settled owner events tables)
    (isNew : tables.events.lookup event.eventId = none) (now : Time)
    {reconciliations : Keyed Reconciliation.subscriptionId}
    (queued : ∀ subscriptionId, reconciliations.lookup subscriptionId =
      (tables.accountOf (owner subscriptionId)).bind fun accountId =>
        queuedRow accountId (owner subscriptionId) subscriptionId
          (tables.events.rows.countP (isOf subscriptionId) +
            if event.subscriptionId = some subscriptionId then 1 else 0)) :
    Settled owner (events ++ [event]) { tables with
      reconciliations
      events := tables.events.put (event.row (event.customerId.bind tables.accountOf) now) } := by
  have isRows : (tables.events.put (event.row (event.customerId.bind tables.accountOf) now)).rows =
      tables.events.rows ++ [event.row (event.customerId.bind tables.accountOf) now] :=
    rows_put_of_none isNew
  refine ⟨?_, ?_, ?_, settled.unsubscribed⟩
  · rw [isRows]
    refine Table.forall_mem_concat (fun row listed => ?_) ?_
    · obtain ⟨known, present, isRow⟩ := settled.rows row listed
      exact ⟨known, mem_append_left _ present, isRow⟩
    · exact ⟨event, mem_concat_self, now, rfl⟩
  · rw [isRows, map_append]
    refine Table.forall_mem_concat (fun known listed => ?_) mem_concat_self
    exact mem_append_left _ (settled.recorded known listed)
  · intro subscriptionId
    rw [queued subscriptionId, isRows, countP_append, countP_singleton]
    simp only [isOf, beq_iff_eq]
    rfl

theorem Settled.ingest (settled : Settled owner events tables)
    (deliveries : Deliveries owner (events ++ [event])) (now : Time) :
    Settled owner (events ++ [event]) (step accountId customerId tables (.ingest now event)) ∧
      (step accountId customerId tables (.ingest now event)).customers = tables.customers := by
  obtain ⟨own, isOwn, isCustomer⟩ := deliveries.owned event mem_concat_self
  have isSupported := deliveries.supported event mem_concat_self
  cases found : tables.events.lookup event.eventId with
  | some existing =>
    obtain ⟨present, isKey⟩ := lookup_eq_some_iff.mp found
    obtain ⟨known, listed, time, rfl⟩ := settled.rows existing present
    obtain rfl := deliveries.redelivered known (mem_append_left _ listed) event
      mem_concat_self isKey
    have unchanged : step accountId customerId tables (.ingest now known) = tables := by
      simp [step, Billing.ingest, found, VerifiedEvent.row, Except.map, Except.toOption]
    rw [unchanged]
    refine ⟨⟨fun row isRow => ?_, ?_, settled.queued, settled.unsubscribed⟩, rfl⟩
    · obtain ⟨other, isOther, isRow⟩ := settled.rows row isRow
      exact ⟨other, mem_append_left _ isOther, isRow⟩
    · exact Table.forall_mem_concat settled.recorded (settled.recorded known listed)
  | none =>
    cases bound : tables.accountOf (owner own) with
    | none =>
      have after : step accountId customerId tables (.ingest now event) = { tables with
          events := tables.events.put
            (event.row (event.customerId.bind tables.accountOf) now) } := by
        simp [step, Billing.ingest, found, isSupported, isCustomer, bound, Except.map,
          Except.toOption]
      rw [after]
      refine ⟨settled.put found now fun subscriptionId => ?_, rfl⟩
      rw [settled.queued subscriptionId, isOwn]
      split_ifs with same
      · rw [← Option.some.inj same, bound]
        rfl
      · rfl
    | some account =>
      have isRow := settled.queued own
      rw [bound] at isRow
      have queued : Tables.queueSubscription account (owner own) own { tables with
          events := tables.events.put (event.row (some account) now) } = _ :=
        queueSubscription_eq (settled.unsubscribed own) isRow
      have after : step accountId customerId tables (.ingest now event) = { tables with
          reconciliations := tables.reconciliations.put
            { subscriptionId := own, accountId := account, customerId := owner own
              dirtyGeneration := tables.events.rows.countP (isOf own) + 1 }
          events := tables.events.put
            (event.row (event.customerId.bind tables.accountOf) now) } := by
        simp [step, Billing.ingest, found, isSupported, isCustomer, isOwn, bound, queued,
          Except.map, Except.toOption]
      rw [after]
      refine ⟨settled.put found now fun subscriptionId => ?_, rfl⟩
      rw [lookup_put, isOwn]
      by_cases same : subscriptionId = own
      · subst same
        simp [bound, queuedRow]
      · simp [same, Ne.symm same, settled.queued subscriptionId]

theorem mem_unboundEvents : row ∈ tables.unboundEvents customerId ↔
    row ∈ tables.events.rows ∧ row.customerId = some customerId ∧
      row.subscriptionId.isSome ∧ row.disposition = .unbound := by
  simp [Tables.unboundEvents, mem_insertionSort, and_assoc]

/-- The binding, when no event waits without a subscription. -/
theorem step_bind (valid : validId customerId "cus_".toList)
    (commits : (tables.insertCustomer accountId customerId).accountOf customerId =
      some accountId) (isQueued : ((tables.insertCustomer accountId customerId).unboundEvents
      customerId).foldl
      (Tables.queueUnbound accountId customerId) (tables.insertCustomer accountId customerId) =
        queued)
    (named : ∀ row ∈ queued.events.rows, row.subscriptionId.isSome) :
    step accountId customerId tables .bind = queued := by
  have unrisked : queued.events.revise (Tables.isUnboundRisk customerId)
      (fun row => { row with accountId := some accountId, disposition := .queued })
      (fun _ => rfl) = queued.events := by
    refine ext (Table.update_of_unselected fun row present => ?_)
    simp [Tables.isUnboundRisk, Option.isSome_iff_ne_none.mp (named row present)]
  simp only [step, bindCustomer, require, valid, commits, isQueued, unrisked, beq_self_eq_true,
    if_true]
  rfl

variable (settled : Settled owner events tables) (deliveries : Deliveries owner events)

include settled deliveries

theorem Settled.owned (present : row ∈ tables.events.rows) : ∃ subscriptionId,
      row.subscriptionId = some subscriptionId ∧ row.customerId = some (owner subscriptionId) ∧
      row.accountId = tables.accountOf (owner subscriptionId) ∧ row.disposition =
        if (tables.accountOf (owner subscriptionId)).isNone then .unbound else .queued := by
  obtain ⟨event, known, now, rfl⟩ := settled.rows row present
  obtain ⟨own, isOwn, isCustomer⟩ := deliveries.owned event known
  rw [deliveries.disposition known, isCustomer]
  exact ⟨own, isOwn, isCustomer, rfl, rfl⟩

theorem Settled.named (present : row ∈ tables.events.rows) : row.subscriptionId.isSome := by
  obtain ⟨own, isOwn, _⟩ := settled.owned deliveries present
  exact Option.isSome_iff_exists.mpr ⟨own, isOwn⟩

/-- The events of a customer wait as long as it is not bound. -/
theorem Settled.mem_unboundEvents :
    row ∈ tables.unboundEvents customerId ↔ row ∈ tables.events.rows ∧
      row.customerId = some customerId ∧ tables.accountOf customerId = none := by
  rw [Billing.mem_unboundEvents]
  refine and_congr_right fun present => and_congr_right fun isCustomer => ?_
  obtain ⟨own, isOwn, isOwner, _, isDisposition⟩ := settled.owned deliveries present
  cases isOwner.symm.trans isCustomer
  rw [isOwn, isDisposition]
  cases tables.accountOf (owner own) <;> simp

/-- Before the binding, all events of a subscription of the customer wait. -/
theorem Settled.countP_unboundEvents (unbound : tables.accountOf customerId = none)
    (isOwner : owner subscriptionId = customerId) :
    (tables.unboundEvents customerId).countP (isOf subscriptionId) =
      tables.events.rows.countP (isOf subscriptionId) := by
  unfold Tables.unboundEvents
  rw [(perm_insertionSort _ _).countP_eq, countP_filter]
  refine countP_congr fun row present => ?_
  rw [Bool.and_eq_true, and_iff_left_iff_imp]
  intro isTheirs
  obtain ⟨own, isOwn, isCustomer, _, isDisposition⟩ := settled.owned deliveries present
  cases isOwn.symm.trans (beq_iff_eq.mp isTheirs)
  simp [isOwn, isCustomer, isDisposition, isOwner, unbound]

theorem Settled.bind (valid : validId customerId "cus_".toList)
    (commits : (tables.insertCustomer accountId customerId).accountOf customerId = some accountId) :
    Settled owner events (step accountId customerId tables .bind) ∧
      (step accountId customerId tables .bind).customers =
        (tables.insertCustomer accountId customerId).customers := by
  rcases Tables.accountOf_insertCustomer commits with already | ⟨unbound, accounts⟩
  · have inserted := Tables.insertCustomer_of_bound already
    have noneWaits : tables.unboundEvents customerId = [] := by
      refine eq_nil_iff_forall_not_mem.mpr fun row listed => ?_
      obtain ⟨_, _, unbound⟩ := (settled.mem_unboundEvents deliveries).mp listed
      rw [already] at unbound
      nomatch unbound
    rw [step_bind valid commits (by rw [inserted, noneWaits]; rfl)
      fun _ => settled.named deliveries, inserted]
    exact ⟨settled, rfl⟩
  · obtain ⟨changed, inserted⟩ := tables.insertCustomer_eq accountId customerId
    have folded := @foldl_queueUnbound accountId customerId { tables with customers := changed }
      owner (fun _ => 0) (tables.unboundEvents customerId) ?_ ?_ settled.unsubscribed ?_
    · generalize isQueued : (tables.unboundEvents customerId).foldl
        (Tables.queueUnbound accountId customerId) _ = queued at folded
      obtain ⟨customers, subscriptions, headings, rows, counted⟩ := folded
      have isAccount : ∀ sought, queued.accountOf sought = _ := fun sought =>
        (Tables.accountOf_congr customers sought).trans (inserted ▸ accounts sought)
      have isSettled : Settled owner events queued := by
        refine ⟨fun row present => ?_, ?_, fun subscriptionId => ?_, ?_⟩
        · rcases rows row present with isBound | ⟨isOld, isSettled⟩
          · obtain ⟨waiting, listed, rfl⟩ := mem_map.mp isBound
            obtain ⟨isOld, isCustomer, _⟩ := (settled.mem_unboundEvents deliveries).mp listed
            obtain ⟨event, known, now, rfl⟩ := settled.rows waiting isOld
            refine ⟨event, known, now, ?_⟩
            have disposition : Disposition.queued = (event.initial (some accountId)).2 :=
              (deliveries.disposition known (some accountId) now).symm
            rw [show event.customerId = some customerId from isCustomer, Option.bind_some,
              Option.bind_some, isAccount, if_pos rfl]
            simp [BillingEvent.bound, VerifiedEvent.row, disposition]
          · obtain ⟨event, known, now, rfl⟩ := settled.rows row isOld
            refine ⟨event, known, now, congrArg (event.row · now) ?_⟩
            cases isCustomer : event.customerId with
            | none => rfl
            | some other =>
              rw [Option.bind_some, Option.bind_some, isAccount, if_neg]
              rintro rfl
              exact isSettled ((settled.mem_unboundEvents deliveries).mpr
                ⟨isOld, isCustomer, unbound⟩)
        · have sameIds := congrArg (map Prod.fst) headings
          rw [map_map, map_map] at sameIds
          exact sameIds ▸ settled.recorded
        · have sameCount := congrArg (countP fun heading : Text × Option Text =>
            heading.2 == some subscriptionId) headings
          rw [countP_map, countP_map] at sameCount
          rw [counted, show queued.events.rows.countP (isOf subscriptionId) = _ from sameCount,
            isAccount]
          split_ifs with isOwner
          · rw [Nat.zero_add, settled.countP_unboundEvents deliveries unbound isOwner, isOwner]
            rfl
          · exact settled.queued subscriptionId
        · exact subscriptions ▸ settled.unsubscribed
      rw [step_bind valid commits (by rw [inserted]; exact isQueued)
        fun _ => isSettled.named deliveries, inserted]
      exact ⟨isSettled, customers⟩
    · intro row listed
      obtain ⟨present, isCustomer, _⟩ := (settled.mem_unboundEvents deliveries).mp listed
      obtain ⟨own, isOwn, isOwner, _⟩ := settled.owned deliveries present
      exact ⟨own, isOwn, Option.some.inj (isOwner.symm.trans isCustomer)⟩
    · exact fun row listed => mem_map_of_mem ((settled.mem_unboundEvents deliveries).mp listed).1
    · intro subscriptionId isOwner
      rw [settled.queued, isOwner, unbound]
      rfl

/-- Each row of a subscription is one of its distinct events. -/
theorem Settled.countP_eq (subscriptionId : Text) :
    tables.events.rows.countP (isOf subscriptionId) = distinctEvents events subscriptionId := by
  have distinct : ((tables.events.rows.filter (isOf subscriptionId)).map
      BillingEvent.eventId).Nodup :=
    tables.events.distinct.sublist (filter_sublist.map _)
  rw [countP_eq_length_filter, ← length_map BillingEvent.eventId,
    ← toFinset_card_of_nodup distinct, distinctEvents]
  congr 1
  ext id
  simp only [mem_toFinset, mem_map, mem_filter]
  constructor
  · rintro ⟨row, ⟨present, isOwn⟩, rfl⟩
    obtain ⟨event, known, now, rfl⟩ := settled.rows row present
    exact ⟨event, ⟨known, isOwn⟩, rfl⟩
  · rintro ⟨event, ⟨known, isOwn⟩, rfl⟩
    obtain ⟨row, present, isId⟩ := mem_map.mp (settled.recorded event known)
    obtain ⟨other, isOther, now, rfl⟩ := settled.rows row present
    obtain rfl := deliveries.redelivered other isOther event known isId
    exact ⟨_, ⟨present, isOwn⟩, rfl⟩

end Steps

section Orders

variable {accountId : Uuid} {customerId : Text} {owner : Text → Text}

theorem settled_run (valid : validId customerId "cus_".toList)
    (commits : ((Tables.unused customers).insertCustomer accountId customerId).accountOf
      customerId = some accountId) (deliveries : Deliveries owner (inputs.filterMap Input.event?)) :
    let start := Tables.unused customers
    let after := run accountId customerId inputs start
    Settled owner (inputs.filterMap Input.event?) after ∧
      (after.insertCustomer accountId customerId).customers =
        (start.insertCustomer accountId customerId).customers ∧
      (.bind ∈ inputs →
        after.customers = (start.insertCustomer accountId customerId).customers) := by
  induction inputs using reverseRecOn with
  | nil =>
    refine ⟨⟨nofun, nofun, fun subscriptionId => ?_, fun _ => rfl⟩, rfl, nofun⟩
    cases isAccount : (Tables.unused customers).accountOf (owner subscriptionId) <;>
      rw [run, foldl_nil, isAccount] <;> rfl
  | append_singleton earlier last ih =>
    simp only [run, foldl_append, foldl_cons, foldl_nil] at ih ⊢
    rw [filterMap_append] at deliveries ⊢
    cases last with
    | ingest now event =>
      obtain ⟨settled, inserted, bound⟩ := ih deliveries.left
      obtain ⟨isSettled, sameCustomers⟩ := settled.ingest deliveries now
      refine ⟨isSettled, (Tables.customers_insertCustomer_congr sameCustomers).trans inserted, ?_⟩
      intro isBound
      rw [sameCustomers]
      exact bound (by simpa using isBound)
    | bind =>
      rw [show [Input.bind].filterMap Input.event? = [] from rfl, append_nil] at deliveries ⊢
      obtain ⟨settled, inserted, _⟩ := ih deliveries
      have isCommitted := (Tables.accountOf_congr inserted _).trans commits
      obtain ⟨isSettled, isInserted⟩ := settled.bind deliveries valid isCommitted
      refine ⟨isSettled, ?_, fun _ => isInserted.trans inserted⟩
      rw [Tables.insertCustomer_of_bound ((Tables.accountOf_congr isInserted _).trans isCommitted),
        isInserted, inserted]

/-- In whatever order events arrive and their customer is bound, each event of the
customer is recorded with the account, and each subscription has one generation
for each of its distinct events, as when the customer is bound first. -/
theorem ingest_bind_commute (valid : validId customerId "cus_".toList = true)
    (commits : ((Tables.unused customers).insertCustomer accountId customerId).accountOf
      customerId = some accountId)
    (inputs : List Input) (deliveries : Deliveries owner (inputs.filterMap Input.event?))
    (isBound : .bind ∈ inputs) :
    let events := inputs.filterMap Input.event?
    let after := run accountId customerId inputs (.unused customers)
    (∀ event ∈ events, event.customerId = some customerId → ∃ now,
      after.events.lookup event.eventId = some (event.row (some accountId) now) ∧
      (event.row (some accountId) now).disposition = .queued) ∧
    (∀ subscriptionId, owner subscriptionId = customerId →
      after.reconciliations.lookup subscriptionId =
        queuedRow accountId customerId subscriptionId (distinctEvents events subscriptionId)) ∧
    ∀ subscriptionId, after.reconciliations.lookup subscriptionId =
      (run accountId customerId (.bind :: inputs.filter (· ≠ .bind))
        (.unused customers)).reconciliations.lookup subscriptionId := by
  intro events after
  obtain ⟨settled, _, isInserted⟩ := settled_run valid commits deliveries
  have sameEvents : (Input.bind :: inputs.filter (· ≠ .bind)).filterMap Input.event? = events := by
    rw [filterMap_cons_none rfl, filterMap_filter]
    refine filterMap_congr fun input _ => ?_
    cases input <;> rfl
  have bound : after.accountOf customerId = some accountId :=
    (Tables.accountOf_congr (isInserted isBound) _).trans commits
  refine ⟨?_, ?_, ?_⟩
  · intro event listed isCustomer
    obtain ⟨row, present, isId⟩ := mem_map.mp (settled.recorded event listed)
    obtain ⟨other, isOther, now, rfl⟩ := settled.rows row present
    obtain rfl := deliveries.redelivered other isOther event listed isId
    refine ⟨now, ?_, deliveries.disposition listed _ now⟩
    refine lookup_eq_some_iff.mpr ⟨?_, rfl⟩
    rwa [isCustomer, Option.bind_some, bound] at present
  · intro subscriptionId isOwner
    rw [settled.queued, isOwner, bound, settled.countP_eq deliveries]
    rfl
  · intro subscriptionId
    have sameDeliveries : Deliveries owner
        ((Input.bind :: inputs.filter (· ≠ .bind)).filterMap Input.event?) := by rwa [sameEvents]
    obtain ⟨isSettled, _, isFirst⟩ := settled_run valid commits sameDeliveries
    rw [settled.queued, isSettled.queued, settled.countP_eq deliveries,
      isSettled.countP_eq sameDeliveries, sameEvents,
      Tables.accountOf_congr (isInserted isBound),
      Tables.accountOf_congr (isFirst mem_cons_self)]

/-- An invoice of the subscription was paid. -/
def Drill.billingEvent (eventId : String) : VerifiedEvent where
  eventId := eventId.toList
  eventType := "invoice.paid".toList
  objectId := some "in_1".toList
  customerId := some "cus_1".toList
  subscriptionId := some "sub_1".toList
  riskChargeId := none
  riskPaymentIntentId := none
  paymentFailedAtUnix := none
  bodySha256 := []
  unsupported := false

/-- Two events, the first delivered again after the binding. -/
def Drill.inputs : List Input :=
  [.ingest 1 (billingEvent "evt_1"), .bind, .ingest 2 (billingEvent "evt_2"),
    .ingest 3 (billingEvent "evt_1")]

/-- The repeated event is not counted again. -/
theorem ingest_bind_commute_redelivered :
    ((run 7 "cus_1".toList Drill.inputs (.unused [])).reconciliations.lookup "sub_1".toList).map
      Reconciliation.dirtyGeneration = some 2 := by
  have owned : ∀ event ∈ Drill.inputs.filterMap Input.event?,
      event.subscriptionId = some "sub_1".toList ∧
        event.customerId = some "cus_1".toList := by decide
  rw [(@ingest_bind_commute 7 "cus_1".toList (fun _ => "cus_1".toList) [] (by decide) (by decide)
    Drill.inputs ⟨by decide, fun event listed => ⟨_, owned event listed⟩, by decide⟩
    (by decide)).2.1 "sub_1".toList rfl]
  decide

end Orders

end Zrotext.Billing
