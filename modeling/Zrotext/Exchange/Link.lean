import Zrotext.Exchange.Telling

/-!
# The phone and the writer

One attempt, from its reservation on the phone to the last acknowledgement.  The
phone uploads the events that wait, in the order of their insertion and as often
as it likes; an acknowledgement may arrive late or never.
-/

namespace Zrotext.Exchange

open Foundation Phone Delivery

/-- Both sides, with the events that the writer answered and rejected. -/
structure Link where
  world : Delivery.World
  journal : Journal
  (answered rejected : List Identifier)

/-- How an attempt begins: what the phone reserves, and when. -/
structure Opening where
  identity : EvidenceIdentity
  (attemptId messageId : Identifier)
  (subscriptionId segmentCount : Int)
  intentEventId : Identifier
  approvedSenderToken : Option Text
  reserving : Surroundings
  reservedAt : Int
  uploading : Surroundings
  clock : Delivery.Clock
  acknowledging : Surroundings
  acknowledgedAt : Int
  spareEventId : Identifier
  starting : Surroundings
  startedAt : Int

variable (opening : Opening) {ε α σ : Type}

/-- The attempt of an opening. -/
def Opening.subject (few : 1 ≤ opening.segmentCount ∧ opening.segmentCount ≤ 6) : Subject :=
  subjectOf opening.identity opening.messageId opening.attemptId opening.segmentCount few

/-- The result of a transaction that was committed. -/
def committed (outcome : Except ε α × σ) : Option (α × σ) :=
  match outcome with
  | (.ok value, state) => some (value, state)
  | (.error _, _) => none

theorem committed_eq_some (isResult : committed outcome = some result) : outcome =
    (.ok result.1, result.2) := by
  obtain ⟨value, state⟩ := outcome
  cases value with
  | error failure => cases isResult
  | ok value =>
    cases isResult
    rfl

/-- What a transaction leads to, if it was committed. -/
theorem of_committed (leads : Transaction.Leads transaction finished failed state)
    (isResult : committed (transaction.commit state) = some result) :
    finished result.1 result.2 := by
  have isCommit := committed_eq_some isResult
  have reached := leads.of_commit (congrArg Prod.fst isCommit)
  rwa [congrArg Prod.snd isCommit] at reached

/-- The event that the phone uploads next. -/
def Opening.next (surroundings : Surroundings)
    (excluded : List Identifier) (journal : Journal) : Option AlphaRadioEvent :=
  journal.nextAlphaEvent surroundings opening.identity.accountId
    opening.identity.deviceId opening.identity.originHash excluded

/-- The report of an event of the phone. -/
def Opening.report (event : AlphaRadioEvent) : Delivery.RadioEvent :=
  radioEvent opening.identity.accountId opening.identity.deviceId event

/-- The attempt is reserved in an empty journal, its intent is recorded by the
writer and permitted, and the radio starts. -/
def Opening.begin (deployment : Delivery.Deployment) (world : Delivery.World) : Option Link := do
  let reserved ← committed ((reserveAlpha opening.reserving opening.attemptId
    opening.messageId opening.subscriptionId opening.segmentCount
    opening.intentEventId opening.reservedAt opening.approvedSenderToken
    opening.identity).commit Journal.empty)
  let intent ← opening.next opening.uploading [] reserved.2
  guard (world.tables.events.all (·.id != intent.eventId))
  let recorded ← committed ((recordRadioEvent deployment
    world.directory opening.clock (opening.report intent)).commit world.tables)
  let acknowledged ← committed ((acknowledgeAlphaIntent opening.acknowledging
    opening.intentEventId true opening.acknowledgedAt
    opening.spareEventId).commit reserved.2)
  guard (acknowledged.1 = true)
  let started ← committed ((consumeRadioStart opening.starting
    opening.attemptId opening.messageId opening.subscriptionId
    opening.segmentCount opening.startedAt).commit acknowledged.2)
  guard (started.1 = 1)
  some
    { world := { world with tables := recorded.2 }
      journal := started.2, answered := [intent.eventId], rejected := [] }

/-- What happens on either side after the start. -/
inductive Move
  | recordCallback (surroundings : Surroundings) (callback : Callback)
      (now : Int) (fresh later : Identifier)
  | markInterrupted (surroundings : Surroundings) (now : Int)
  | markStalledSubmission (surroundings : Surroundings) (now : Int)
  | markTimedOutDeliveries (surroundings : Surroundings) (cutoff now : Int)
  | upload (surroundings : Surroundings) (excluded : List Identifier) (clock : Delivery.Clock)
  | acknowledge (surroundings : Surroundings) (eventId : Identifier) (now : Int)
  | reconcileSilentAttempts (clock : Delivery.Clock) (limit : Nat)
      (locked : Identifier → Bool) (fresh : Nat → Identifier)
  | reconcileDeliveryTimeouts (clock : Delivery.Clock) (limit : Nat)
      (locked : Identifier → Bool) (fresh : Nat → Identifier)

namespace Link

variable (deployment : Delivery.Deployment) (opening : Opening)

variable (link : Link)

/-- Upload the next event. -/
def upload (surroundings : Surroundings)
    (excluded : List Identifier) (clock : Delivery.Clock) : Link :=
  match opening.next surroundings excluded link.journal with
  | none => link
  | some event =>
    match (recordRadioEvent deployment link.world.directory clock
        (opening.report event)).commit link.world.tables with
    | (.ok _, tables) =>
      { link with
        world := { link.world with tables }, answered := link.answered ++ [event.eventId] }
    | (.error _, tables) =>
      { link with
        world := { link.world with tables }, rejected := link.rejected ++ [event.eventId] }

/-- An operation of the phone. -/
def perform (surroundings : Surroundings) (operation : Operation) : Link :=
  { link with journal := link.journal.perform surroundings operation }

/-- A transaction of the writer. -/
def transact (step : Delivery.Step) : Link :=
  { link with world := link.world.step deployment step }

/-- The link after a move. -/
def step : Move → Link
  | .recordCallback surroundings callback now fresh later =>
    link.perform surroundings (.recordCallback opening.attemptId callback now fresh later)
  | .markInterrupted surroundings now =>
    link.perform surroundings (.markInterrupted now)
  | .markStalledSubmission surroundings now =>
    link.perform surroundings (.markStalledSubmission opening.attemptId now)
  | .markTimedOutDeliveries surroundings cutoff now =>
    link.perform surroundings (.markTimedOutDeliveries cutoff now)
  | .upload surroundings excluded clock =>
    link.upload deployment opening surroundings excluded clock
  | .acknowledge surroundings eventId now =>
    link.perform surroundings (.acknowledgeAlphaEvent eventId now)
  | .reconcileSilentAttempts clock limit locked fresh =>
    link.transact deployment (.reconcileSilentAttempts clock limit locked fresh)
  | .reconcileDeliveryTimeouts clock limit locked fresh =>
    link.transact deployment (.reconcileDeliveryTimeouts clock limit locked fresh)

/-- The link after moves. -/
def run (moves : List Move) : Link := moves.foldl (step deployment opening) link

/-- No callback contradicts a stored one, events are uploaded within the
accepted skew of the clocks, only what was answered is acknowledged, and both
sides draw identifiers that the other one has not used. -/
def Admits : Move → Prop
  | .recordCallback _ callback _ fresh later =>
    (∀ segment ∈ link.journal.getSegment opening.attemptId callback.index,
      callback.decision segment ≠ .conflict) ∧
    ∀ row ∈ link.world.tables.events, row.id ≠ fresh ∧ row.id ≠ later
  | .upload surroundings excluded clock =>
    ∀ event ∈ opening.next surroundings excluded link.journal,
      ∀ attempt ∈ link.world.tables.attempts, attempt.id = event.attemptId →
        validateRadioTimestamp event.observedAtMs (toMillis attempt.createdAt)
          (toMillis (clock.reading 0)) = .ok ()
  | .acknowledge _ eventId _ => eventId ∈ link.answered
  | .reconcileSilentAttempts _ limit _ fresh
  | .reconcileDeliveryTimeouts _ limit _ fresh =>
    ∀ index < limit, ∀ event ∈ link.journal.events, fresh index ≠ event.eventId
  | _ => True

instance (link : Link) (move : Move) : Decidable (link.Admits opening move) :=
  match move with
  | .recordCallback .. => inferInstanceAs (Decidable (_ ∧ _))
  | .upload surroundings excluded _ =>
    inferInstanceAs (Decidable (∀ event ∈ opening.next surroundings excluded link.journal, _))
  | .acknowledge .. => inferInstanceAs (Decidable (_ ∈ link.answered))
  | .reconcileSilentAttempts _ limit _ _ =>
    inferInstanceAs (Decidable (∀ index < limit, _))
  | .reconcileDeliveryTimeouts _ limit _ _ =>
    inferInstanceAs (Decidable (∀ index < limit, _))
  | .markInterrupted .. => inferInstanceAs (Decidable True)
  | .markStalledSubmission .. => inferInstanceAs (Decidable True)
  | .markTimedOutDeliveries .. => inferInstanceAs (Decidable True)

/-- A run in which every move is admitted. -/
def Admissible (link : Link) : List Move → Prop
  | [] => True
  | move :: rest =>
    link.Admits opening move ∧ (link.step deployment opening move).Admissible rest

instance decidableAdmissible (link : Link) (moves : List Move) :
    Decidable (link.Admissible deployment opening moves) :=
  match moves with
  | [] => inferInstanceAs (Decidable True)
  | move :: rest =>
    have := decidableAdmissible (link.step deployment opening move) rest
    inferInstanceAs (Decidable (_ ∧ _))

end Link

/-- What the states on both sides have to do with each other, once every event
was acknowledged. -/
def Consistent (state : AttemptState) (segmentCount : Int) (written : Domain.MessageState) : Prop :=
  match state with
  | .reserved | .notSubmitted => False
  | .radioStarted | .submitting | .unknown =>
    written = .submitting ∨ written = .unknown
  | .delivered => written = .delivered
  | .submitted | .deliveryUnknown | .deliveryFailed =>
    written = .submitted ∨ written = .deliveryUnknown
  | .failed =>
    if segmentCount = 1 then written = .failed else written = .unknown
  | .partialFailure => written = .unknown

end Zrotext.Exchange
