import Zrotext.Foundation.Keyed
import Zrotext.Provider.Request

/-!
# Provider receipts

An attempt to send a message through a provider, and the receipts that report
what became of it.  Receipts may arrive in any order.
-/

namespace Zrotext.Provider

open Domain Foundation Delivery Fallible List

inductive ReceiptFact
  | carrierSubmitted | delivered | deliveryUnconfirmed | sendingFailed | deliveryFailed
  | unrecognized
deriving DecidableEq

structure VerifiedReceipt where
  (eventId messageId : Uuid)
  request : Request
  fact : ReceiptFact
  identity : Bytes
deriving DecidableEq

inductive ReceiptEffect
  | applied | duplicate | awaitingCorrelation
deriving DecidableEq

def maxEvents : Nat := 64

/-- What is known about an attempt.  The events are kept with the digest of what
they said. -/
structure Attempt where
  request : Request
  attemptId : Uuid
  state : MessageState
  providerId : Option Uuid
  events : Keyed (Prod.fst : Uuid × Bytes → Uuid)
  deliveryFailed : Bool

/-- What a writer knows when an attempt begins. -/
structure AdmissionSnapshot where
  account : Uuid
  (routeRevision observedMs expiresMs : Nat)
  (writerEnabled suppressed : Bool)
deriving DecidableEq

variable (fact : ReceiptFact) (state : MessageState) (deliveryFailed : Bool)

/-- A transition, which the provider wrapper refuses without detail. -/
def advance (evidence : Evidence) : Except Rejection MessageState :=
  (state.apply evidence).mapError fun _ => .invalidState

/-- Facts that the carrier has the message. -/
def ReceiptFact.isCarrier : ReceiptFact → Bool
  | .carrierSubmitted | .delivered | .deliveryUnconfirmed | .deliveryFailed =>
    true
  | .sendingFailed | .unrecognized => false

/-- The state once the carrier has the message. -/
def submittedState : Except Rejection MessageState :=
  if state = .submitting ∨ state = .unknown then
    advance state .sentCallbackOk
  else .ok state

/-- The state once the message is delivered. -/
def deliveredState : Except Rejection MessageState :=
  if state = .delivered then .ok state else advance state .deliveryCallbackOk

/-- The state once the provider has failed to send the message. -/
def failedState : Except Rejection MessageState :=
  if state = .failed then .ok state else advance state .sentCallbackFailed

/-- What a carrier fact adds to a submitted message: its state and whether a
delivery has failed. -/
def carrierFact : Except Rejection (MessageState × Bool) :=
  match fact with
  | .delivered => do
    require .evidenceConflict (!deliveryFailed)
    let state ← deliveredState state
    return (state, deliveryFailed)
  | .deliveryFailed => do
    require .evidenceConflict (decide (state ≠ .delivered))
    return (state, true)
  | .deliveryUnconfirmed =>
    if state = .submitted ∧ deliveryFailed = false then do
      let state ← advance state .deliveryTimeout
      return (state, deliveryFailed)
    else .ok (state, deliveryFailed)
  | _ => .ok (state, deliveryFailed)

/-- What a carrier fact makes of the state and of the mark of a failed
delivery. -/
def carrierReceipt : Except Rejection (MessageState × Bool) := do
  require .evidenceConflict (decide (state ≠ .failed))
  let state ← submittedState state
  carrierFact fact state deliveryFailed

/-- What a fact makes of the state and of the mark of a failed delivery. -/
def applyFact : Except Rejection (MessageState × Bool) :=
  match fact with
  | .sendingFailed => do
    require .evidenceConflict (decide (state = .submitting ∨ state = .unknown ∨ state = .failed))
    let state ← failedState state
    return (state, deliveryFailed)
  | .unrecognized => .ok (state, deliveryFailed)
  | fact => carrierReceipt fact state deliveryFailed

namespace Attempt

def new (request : Request) (attemptId : Uuid) : Except Rejection Attempt := do
  require .invalidInput (decide (attemptId ≠ 0))
  return {
    request, attemptId, state := .queued, providerId := none, events := .empty
    deliveryFailed := false }

def begin (gate : AdmissionSnapshot) (nowMs : Nat) (attempt : Attempt) :
    Except Rejection Attempt := do
  require .authority (gate.writerEnabled &&
    decide (gate.account = attempt.request.route.account) &&
    decide (gate.routeRevision = attempt.request.route.revision) &&
    decide (gate.observedMs ≤ nowMs) && decide (nowMs < gate.expiresMs) &&
    decide (gate.observedMs < gate.expiresMs) && decide (gate.expiresMs - gate.observedMs ≤ 5000))
  require .suppressed (!gate.suppressed)
  require .invalidState (decide (attempt.state = .queued))
  let taken ← advance attempt.state .claim
  let state ← advance taken .durableSubmitIntent
  return { attempt with state }

def acceptResponse (providerId : Uuid) (attempt : Attempt) : Except Rejection Attempt := do
  require .invalidInput (decide (providerId ≠ 0))
  match attempt.providerId with
  | some existing =>
    require .messageConflict (decide (existing = providerId))
    return attempt
  | none =>
    require .invalidState (decide (attempt.state = .submitting ∨ attempt.state = .unknown))
    return { attempt with providerId := some providerId }

def responseLost (attempt : Attempt) : Except Rejection Attempt := do
  let state ← advance attempt.state .crashWithoutCallback
  return { attempt with state }

/-- A receipt about an event that is not known yet. -/
def receiveNew (event : VerifiedReceipt) (attempt : Attempt) : Except Rejection Attempt := do
  require .eventCapacity (decide (attempt.events.rows.length < maxEvents))
  let (state, deliveryFailed) ← applyFact event.fact attempt.state attempt.deliveryFailed
  return { attempt with
    state, deliveryFailed
    events := attempt.events.put (event.eventId, event.identity) }

def receipt (event : VerifiedReceipt) (attempt : Attempt) :
    Except Rejection (ReceiptEffect × Attempt) := do
  require .routeMismatch (decide (event.request = attempt.request))
  match attempt.providerId with
  | none => return (.awaitingCorrelation, attempt)
  | some providerId =>
    require .messageConflict (decide (providerId = event.messageId))
    match attempt.events.lookup event.eventId with
    | some known =>
      require .eventConflict (decide (known.2 = event.identity))
      return (.duplicate, attempt)
    | none =>
      let after ← attempt.receiveNew event
      return (.applied, after)

/-- The attempt after a list of receipts that are all applied. -/
def receiveAll : List VerifiedReceipt → Attempt → Option Attempt
  | [], attempt => some attempt
  | event :: rest, attempt =>
    match attempt.receipt event with
    | .ok (.applied, after) => receiveAll rest after
    | _ => none

end Attempt

/-- The state of a message that the carrier has. -/
inductive Opens : MessageState → MessageState → Prop
  | submitting : Opens .submitting .submitted
  | unknown : Opens .unknown .submitted
  | later {state : MessageState} (notSubmitting : state ≠ .submitting)
      (notUnknown : state ≠ .unknown) (notFailed : state ≠ .failed) : Opens state state

/-- What a fact makes of the state and of the mark of a failed delivery. -/
inductive Applies : ReceiptFact → MessageState → Bool → MessageState → Bool → Prop
  | unrecognized (state : MessageState) (marked : Bool) :
      Applies .unrecognized state marked state marked
  | sendingFailed {state : MessageState} (marked : Bool)
      (isOpen : state = .submitting ∨ state = .unknown ∨ state = .failed) :
      Applies .sendingFailed state marked .failed marked
  | carrierSubmitted {state opened : MessageState} (marked : Bool) (opens : Opens state opened) :
      Applies .carrierSubmitted state marked opened marked
  | delivered {state opened : MessageState} (opens : Opens state opened) :
      Applies .delivered state false .delivered false
  | deliveryFailed {state opened : MessageState} (marked : Bool) (opens : Opens state opened)
      (notDelivered : opened ≠ .delivered) : Applies .deliveryFailed state marked opened true
  | timedOut {state : MessageState} (opens : Opens state .submitted) :
      Applies .deliveryUnconfirmed state false .deliveryUnknown false
  | deliveryUnconfirmed {state opened : MessageState} {marked : Bool} (opens : Opens state opened)
      (settled : opened = .submitted → marked = true) :
      Applies .deliveryUnconfirmed state marked opened marked

section Applies

variable {fact : ReceiptFact} {state after : MessageState} {marked : Bool}

theorem opens_of_submittedState (notFailed : state ≠ .failed)
    (result : submittedState state = .ok opened) : Opens state opened := by
  unfold submittedState at result
  split_ifs at result with isOpen
  · rcases isOpen with rfl | rfl
    · cases result
      exact .submitting
    · cases result
      exact .unknown
  · cases result
    obtain ⟨notSubmitting, notUnknown⟩ := not_or.mp isOpen
    exact .later notSubmitting notUnknown notFailed

theorem deliveredState_eq_ok (result : deliveredState opened = .ok after) : after = .delivered := by
  unfold deliveredState at result
  split_ifs at result with already
  · cases result
    exact already
  · cases opened with
    | submitted | deliveryUnknown =>
      cases result
      rfl
    | _ => cases result

theorem applies_of_carrierFact (isCarrier : fact.isCarrier) (opens : Opens state opened)
    (result : carrierFact fact opened marked = .ok (after, markedAfter)) :
    Applies fact state marked after markedAfter := by
  cases fact with
  | sendingFailed | unrecognized => cases isCarrier
  | carrierSubmitted =>
    cases result
    exact .carrierSubmitted marked opens
  | delivered =>
    simp only [carrierFact, bind_eq_ok] at result
    obtain ⟨_, unmarked, _, isDelivered, ⟨⟩⟩ := result
    have isUnmarked := require_eq_ok.mp unmarked
    rw [Bool.not_eq_true'] at isUnmarked
    rw [isUnmarked, deliveredState_eq_ok isDelivered]
    exact .delivered opens
  | deliveryFailed =>
    obtain ⟨_, notDelivered, result⟩ := bind_eq_ok.mp result
    cases result
    exact .deliveryFailed marked opens (of_decide_eq_true (require_eq_ok.mp notDelivered))
  | deliveryUnconfirmed =>
    simp only [carrierFact] at result
    split_ifs at result with isOpen
    · obtain ⟨rfl, rfl⟩ := isOpen
      cases result
      exact .timedOut opens
    · cases result
      refine .deliveryUnconfirmed opens fun isSubmitted => ?_
      by_contra unmarked
      exact isOpen ⟨isSubmitted, Bool.not_eq_true _ ▸ unmarked⟩

theorem applies_of_carrierReceipt (isCarrier : fact.isCarrier)
    (result : carrierReceipt fact state marked = .ok (after, markedAfter)) :
    Applies fact state marked after markedAfter := by
  simp only [carrierReceipt, bind_eq_ok] at result
  obtain ⟨_, notFailed, opened, isOpened, result⟩ := result
  exact applies_of_carrierFact isCarrier (opens_of_submittedState
    (of_decide_eq_true (require_eq_ok.mp notFailed)) isOpened) result

theorem applyFact_eq_ok (result : applyFact fact state marked = .ok (after, markedAfter)) :
    Applies fact state marked after markedAfter := by
  cases fact with
  | carrierSubmitted | delivered | deliveryUnconfirmed | deliveryFailed =>
    exact applies_of_carrierReceipt rfl result
  | unrecognized =>
    cases result
    exact .unrecognized state marked
  | sendingFailed =>
    simp only [applyFact, bind_eq_ok] at result
    obtain ⟨_, isOpen, _, isFailed, ⟨⟩⟩ := result
    have isOpen := of_decide_eq_true (require_eq_ok.mp isOpen)
    have failed : after = .failed := by
      rcases isOpen with rfl | rfl | rfl <;>
        · cases isFailed
          rfl
    rw [failed]
    exact .sendingFailed marked isOpen

end Applies

/-! ## What the facts of a list say -/

/-- What the state of a message that the carrier has says about the facts. -/
inductive Carried (marked : Bool) (facts : List ReceiptFact) : MessageState → Prop
  | submitted (noDelivery : .delivered ∉ facts) (noFailure : .sendingFailed ∉ facts)
      (settled : .deliveryUnconfirmed ∈ facts → marked = true ∨ .deliveryFailed ∈ facts) :
      Carried marked facts .submitted
  | deliveryUnknown (unconfirmed : .deliveryUnconfirmed ∈ facts) (noDelivery : .delivered ∉ facts)
      (noFailure : .sendingFailed ∉ facts) (unmarked : marked = false) :
      Carried marked facts .deliveryUnknown
  | delivered (isDelivered : .delivered ∈ facts) (noFailure : .sendingFailed ∉ facts) :
      Carried marked facts .delivered

/-- What the state says about the facts that were applied to an attempt that was
in the state of its start. -/
inductive Told (start : MessageState) (marked : Bool)
    (facts : List ReceiptFact) : MessageState → Prop
  | silent (noFailure : .sendingFailed ∉ facts)
      (noCarrier : ∀ fact ∈ facts, fact.isCarrier = false) : Told start marked facts start
  | failed (isFailed : .sendingFailed ∈ facts)
      (noCarrier : ∀ fact ∈ facts, fact.isCarrier = false) : Told start marked facts .failed
  | carried {state : MessageState} (hasCarrier : ∃ fact ∈ facts, fact.isCarrier = true)
      (carried : Carried marked facts state) : Told start marked facts state

section Told

variable {state after : MessageState} {deliveryFailed : Bool} {facts : List ReceiptFact}
  {fact : ReceiptFact}

theorem mem_concat_iff : other ∈ facts ++ [fact] ↔ other ∈ facts ∨ other = fact := by
  rw [mem_append, mem_singleton]

theorem not_mem_concat (absent : other ∉ facts) (different : other ≠ fact) :
    other ∉ facts ++ [fact] := by
  rw [mem_concat_iff]
  exact not_or.mpr ⟨absent, different⟩

theorem not_mem_of_noCarrier (isCarrier : fact.isCarrier)
    (noCarrier : ∀ fact ∈ facts, fact.isCarrier = false) : fact ∉ facts := by
  intro listed
  rw [noCarrier fact listed] at isCarrier
  cases isCarrier

/-- When the carrier has the message. -/
theorem Told.opens (isOpen : start = .submitting ∨ start = .unknown)
    (told : Told start marked facts state) (opens : Opens state opened) :
    Carried marked facts opened := by
  cases told with
  | silent noFailure noCarrier =>
    have isSubmitted : opened = .submitted := by
      rcases isOpen with rfl | rfl
      · cases opens with
        | submitting => rfl
        | later impossible => exact absurd rfl impossible
      · cases opens with
        | unknown => rfl
        | later _ impossible => exact absurd rfl impossible
    rw [isSubmitted]
    refine .submitted (not_mem_of_noCarrier rfl noCarrier) noFailure ?_
    intro unconfirmed
    exact absurd unconfirmed (not_mem_of_noCarrier rfl noCarrier)
  | failed isFailed _ =>
    cases opens with
    | later _ _ impossible => exact absurd rfl impossible
  | carried _ carried =>
    cases opens with
    | submitting | unknown => cases carried
    | later => exact carried

/-- A fact about a message that the carrier has. -/
theorem Carried.concat (carried : Carried marked facts state) (notDelivered : .delivered ≠ fact)
    (notFailed : .sendingFailed ≠ fact)
    (settled : fact = .deliveryUnconfirmed → state = .submitted →
      marked ∨ .deliveryFailed ∈ facts) :
    Carried marked (facts ++ [fact]) state := by
  cases carried with
  | submitted noDelivery noFailure isSettled =>
    refine .submitted (not_mem_concat noDelivery notDelivered)
      (not_mem_concat noFailure notFailed) ?_
    intro unconfirmed
    have known : marked ∨ .deliveryFailed ∈ facts := by
      rcases mem_concat_iff.mp unconfirmed with known | isFact
      · exact isSettled known
      · exact settled isFact.symm rfl
    exact known.imp_right fun listed => mem_append_left _ listed
  | deliveryUnknown unconfirmed noDelivery noFailure unmarked =>
    exact .deliveryUnknown (mem_append_left _ unconfirmed) (not_mem_concat noDelivery notDelivered)
      (not_mem_concat noFailure notFailed) unmarked
  | delivered isDelivered noFailure =>
    exact .delivered (mem_append_left _ isDelivered) (not_mem_concat noFailure notFailed)

theorem Carried.noFailure (carried : Carried marked facts state) : .sendingFailed ∉ facts := by
  cases carried with
  | submitted _ noFailure | deliveryUnknown _ _ noFailure | delivered _ noFailure => exact noFailure

theorem hasCarrier_concat (isCarrier : fact.isCarrier) :
    ∃ other ∈ facts ++ [fact], other.isCarrier :=
  ⟨fact, mem_append_right _ mem_cons_self, isCarrier⟩

theorem Told.step (isOpen : start = .submitting ∨ start = .unknown)
    (told : Told start marked facts state) (marks : deliveryFailed ↔
      marked ∨ .deliveryFailed ∈ facts)
    (applies : Applies fact state deliveryFailed after deliveryFailedAfter) :
    Told start marked (facts ++ [fact]) after := by
  cases applies with
  | unrecognized =>
    cases told with
    | silent noFailure noCarrier =>
      exact .silent (not_mem_concat noFailure nofun) (Table.forall_mem_concat noCarrier rfl)
    | failed isFailed noCarrier =>
      exact .failed (mem_append_left _ isFailed) (Table.forall_mem_concat noCarrier rfl)
    | carried hasCarrier carried =>
      obtain ⟨carrier, listed, isCarrier⟩ := hasCarrier
      exact .carried ⟨carrier, mem_append_left _ listed, isCarrier⟩
        (carried.concat nofun nofun nofun)
  | sendingFailed _ stillOpen =>
    refine .failed (mem_append_right _ mem_cons_self) ?_
    refine Table.forall_mem_concat ?_ rfl
    cases told with
    | silent _ noCarrier | failed _ noCarrier => exact noCarrier
    | carried _ carried =>
      rcases stillOpen with rfl | rfl | rfl <;> cases carried
  | carrierSubmitted _ opens | deliveryFailed _ opens =>
    exact .carried (hasCarrier_concat rfl) ((told.opens isOpen opens).concat nofun nofun nofun)
  | delivered opens =>
    exact .carried (hasCarrier_concat rfl) (.delivered (mem_append_right _ mem_cons_self)
        (not_mem_concat (told.opens isOpen opens).noFailure nofun))
  | timedOut opens =>
    have unmarked : marked = false := by
      by_contra isMarked
      cases marks.mpr (.inl (Bool.not_eq_false _ ▸ isMarked))
    refine .carried (hasCarrier_concat rfl) ?_
    cases told.opens isOpen opens with
    | submitted noDelivery noFailure _ =>
      exact .deliveryUnknown (mem_append_right _ mem_cons_self)
        (not_mem_concat noDelivery nofun) (not_mem_concat noFailure nofun)
        unmarked
  | deliveryUnconfirmed opens settled =>
    exact .carried (hasCarrier_concat rfl) ((told.opens isOpen opens).concat nofun nofun
        fun _ isSubmitted => marks.mp (settled isSubmitted))

theorem marks_step (marks : deliveryFailed ↔ marked ∨ .deliveryFailed ∈ facts)
    (applies : Applies fact state deliveryFailed after deliveryFailedAfter) :
    deliveryFailedAfter ↔ marked ∨ .deliveryFailed ∈ facts ++ [fact] := by
  rw [mem_concat_iff, ← or_assoc, ← marks]
  cases applies with
  | deliveryFailed => simp
  | _ => simp

end Told

/-! ## Lists of receipts -/

section Lists

variable {attempt after : Attempt}

theorem receipt_eq_applied (result : attempt.receipt event = .ok (.applied, after)) :
    Applies event.fact attempt.state attempt.deliveryFailed after.state after.deliveryFailed := by
  obtain ⟨_, _, result⟩ := bind_eq_ok.mp result
  split at result
  · cases result
  · obtain ⟨_, _, result⟩ := bind_eq_ok.mp result
    split at result
    · obtain ⟨_, _, result⟩ := bind_eq_ok.mp result
      cases result
    · obtain ⟨received, isReceived, result⟩ := bind_eq_ok.mp result
      cases result
      simp only [Attempt.receiveNew, bind_eq_ok] at isReceived
      obtain ⟨_, _, ⟨state, deliveryFailed⟩, isApplied, ⟨⟩⟩ := isReceived
      exact applyFact_eq_ok isApplied

theorem receiveAll_cons (result : attempt.receiveAll (event :: rest) = some final) :
    ∃ next, attempt.receipt event = .ok (.applied, next) ∧ next.receiveAll rest = some final := by
  unfold Attempt.receiveAll at result
  split at result
  · rename_i next isNext
    exact ⟨next, isNext, result⟩
  · cases result

/-- What a list of applied receipts has told. -/
theorem told_receiveAll (isOpen : start = .submitting ∨ start = .unknown)
    (told : Told start marked facts attempt.state)
    (marks : attempt.deliveryFailed ↔ marked ∨ .deliveryFailed ∈ facts)
    (result : attempt.receiveAll events = some final) :
    Told start marked (facts ++ events.map VerifiedReceipt.fact) final.state ∧
      (final.deliveryFailed ↔ marked ∨
        .deliveryFailed ∈ facts ++ events.map VerifiedReceipt.fact) := by
  induction events generalizing attempt facts with
  | nil =>
    cases result
    rw [map_nil, append_nil]
    exact ⟨told, marks⟩
  | cons event rest ih =>
    obtain ⟨next, isNext, result⟩ := receiveAll_cons result
    have applies := receipt_eq_applied isNext
    have further := ih (told.step isOpen marks applies) (marks_step marks applies) result
    rw [append_assoc] at further
    exact further

theorem Carried.unique (same : ∀ fact, fact ∈ facts ↔ fact ∈ others)
    (carried : Carried marked facts first) (otherCarried : Carried marked others second) :
    first = second ∨ (.deliveryFailed ∈ facts ∧ .deliveryUnconfirmed ∈ facts ∧
        ((first = .submitted ∧ second = .deliveryUnknown) ∨
          (first = .deliveryUnknown ∧ second = .submitted))) := by
  cases carried with
  | submitted noDelivery _ settled =>
    cases otherCarried with
    | submitted => exact .inl rfl
    | deliveryUnknown unconfirmed _ _ unmarked =>
      have listed := (same _).mpr unconfirmed
      have negative := (settled listed).resolve_left (by rw [unmarked]; exact Bool.false_ne_true)
      exact .inr ⟨negative, listed, .inl ⟨rfl, rfl⟩⟩
    | delivered isDelivered =>
      exact absurd ((same _).mpr isDelivered) noDelivery
  | deliveryUnknown unconfirmed noDelivery _ unmarked =>
    cases otherCarried with
    | submitted _ _ settled =>
      have negative := (settled ((same _).mp unconfirmed)).resolve_left
        (by rw [unmarked]; exact Bool.false_ne_true)
      exact .inr ⟨(same _).mpr negative, unconfirmed, .inr ⟨rfl, rfl⟩⟩
    | deliveryUnknown => exact .inl rfl
    | delivered isDelivered =>
      exact absurd ((same _).mpr isDelivered) noDelivery
  | delivered isDelivered =>
    cases otherCarried with
    | submitted noDelivery | deliveryUnknown _ noDelivery =>
      exact absurd ((same _).mp isDelivered) noDelivery
    | delivered => exact .inl rfl

/-- Two lists with the same facts end in the same state, or one ends submitted
and the other with delivery unknown. -/
theorem Told.unique (same : ∀ fact, fact ∈ facts ↔ fact ∈ others)
    (told : Told start marked facts first) (otherTold : Told start marked others second) :
    first = second ∨ (.deliveryFailed ∈ facts ∧ .deliveryUnconfirmed ∈ facts ∧
        ((first = .submitted ∧ second = .deliveryUnknown) ∨
          (first = .deliveryUnknown ∧ second = .submitted))) := by
  cases told with
  | silent noFailure noCarrier =>
    cases otherTold with
    | silent => exact .inl rfl
    | failed isFailed => exact absurd ((same _).mpr isFailed) noFailure
    | carried hasCarrier =>
      obtain ⟨fact, listed, isCarrier⟩ := hasCarrier
      exact absurd ((same _).mpr listed) (not_mem_of_noCarrier isCarrier noCarrier)
  | failed isFailed noCarrier =>
    cases otherTold with
    | silent noFailure => exact absurd ((same _).mp isFailed) noFailure
    | failed => exact .inl rfl
    | carried _ carried =>
      exact absurd ((same _).mp isFailed) carried.noFailure
  | carried hasCarrier carried =>
    cases otherTold with
    | silent _ noCarrier =>
      obtain ⟨fact, listed, isCarrier⟩ := hasCarrier
      exact absurd ((same _).mp listed) (not_mem_of_noCarrier isCarrier noCarrier)
    | failed isFailed =>
      exact absurd ((same _).mpr isFailed) carried.noFailure
    | carried _ otherCarried => exact carried.unique same otherCarried

/-- Two orders of the same receipts that are applied entirely leave the same
mark.  They leave the same state, unless the receipts report both a failed and
an unconfirmed delivery: then the message is submitted in one order and its
delivery unknown in the other. -/
theorem receipts_order_independent (attempt : Attempt)
    (isOpen : attempt.state = .submitting ∨ attempt.state = .unknown)
    (events others : List VerifiedReceipt) (reordered : events.Perm others) (first second : Attempt)
    (received : attempt.receiveAll events = some first)
    (otherwiseReceived : attempt.receiveAll others = some second) :
    first.deliveryFailed = second.deliveryFailed ∧ (first.state = second.state ∨
        (.deliveryFailed ∈ events.map VerifiedReceipt.fact ∧
          .deliveryUnconfirmed ∈ events.map VerifiedReceipt.fact ∧
          ((first.state = .submitted ∧ second.state = .deliveryUnknown) ∨
            (first.state = .deliveryUnknown ∧ second.state = .submitted)))) := by
  have silent : Told attempt.state attempt.deliveryFailed [] attempt.state :=
    .silent (not_mem_nil) nofun
  have marks : attempt.deliveryFailed = true ↔
      attempt.deliveryFailed = true ∨ ReceiptFact.deliveryFailed ∈ [] := by
    simp
  obtain ⟨told, marked⟩ := told_receiveAll isOpen silent marks received
  obtain ⟨otherTold, otherMarked⟩ := told_receiveAll isOpen silent marks otherwiseReceived
  have sameFacts : ∀ fact, fact ∈ events.map VerifiedReceipt.fact ↔
      fact ∈ others.map VerifiedReceipt.fact := fun fact =>
    (reordered.map VerifiedReceipt.fact).mem_iff
  refine ⟨?_, told.unique sameFacts otherTold⟩
  rw [Bool.eq_iff_iff, marked, otherMarked, nil_append, nil_append, sameFacts]

end Lists

namespace Drill

def request : Request :=
  { route := ⟨1, 2, 3, "+15550000000".toList, 1⟩, recipient := [], digest := [] }

/-- An attempt whose submission the provider answered, after the answer was
taken for lost. -/
def accepted : Attempt :=
  Option.get (Except.toOption do
    let queued ← Attempt.new request 4
    let begun ← queued.begin ⟨1, 1, 0, 5000, true, false⟩ 100
    let lost ← begun.responseLost
    lost.acceptResponse 5) rfl

def receipt (eventId : Uuid) (fact : ReceiptFact) : VerifiedReceipt :=
  { eventId, messageId := 5, request, fact, identity := [] }

end Drill

/-- The receipt of the delivery arrives last, or first. -/
theorem receipts_order_independent_delivered : ∃ first second,
      Drill.accepted.receiveAll [Drill.receipt 1 .carrierSubmitted,
        Drill.receipt 2 .deliveryUnconfirmed, Drill.receipt 3 .delivered] = some first ∧
      Drill.accepted.receiveAll [Drill.receipt 3 .delivered, Drill.receipt 1 .carrierSubmitted,
        Drill.receipt 2 .deliveryUnconfirmed] = some second ∧
      first.deliveryFailed = second.deliveryFailed ∧ first.state = second.state := by
  refine ⟨_, _, rfl, rfl, ?_⟩
  obtain ⟨sameMark, sameState⟩ := receipts_order_independent Drill.accepted (.inr rfl)
    [Drill.receipt 1 .carrierSubmitted, Drill.receipt 2 .deliveryUnconfirmed,
      Drill.receipt 3 .delivered]
    [Drill.receipt 3 .delivered, Drill.receipt 1 .carrierSubmitted,
      Drill.receipt 2 .deliveryUnconfirmed]
    (by decide) _ _ rfl rfl
  refine ⟨sameMark, sameState.resolve_right ?_⟩
  rintro ⟨negative, _⟩
  exact absurd negative (by decide)

/-- A failed delivery and an unconfirmed one do not commute. -/
theorem receipts_order_dependent : ¬ ∀ first second,
      Drill.accepted.receiveAll [Drill.receipt 1 .deliveryUnconfirmed,
        Drill.receipt 2 .deliveryFailed] = some first →
      Drill.accepted.receiveAll [Drill.receipt 2 .deliveryFailed,
        Drill.receipt 1 .deliveryUnconfirmed] = some second →
      first.state = second.state ∧ first.deliveryFailed = second.deliveryFailed := by
  intro independent
  have same := (independent _ _ rfl rfl).1
  exact absurd same (by decide)

end Zrotext.Provider
