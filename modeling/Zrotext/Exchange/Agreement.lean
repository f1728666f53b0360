import Zrotext.Exchange.Link
import Zrotext.Phone.RadioGate

/-!
# The phone and the writer agree

What the writer heard and what still waits on the phone make up the story that
the phone tells.  Every event that the phone uploads was heard before or comes
next, so the writer rejects none; once nothing waits, both states follow from
the same story.
-/

namespace Zrotext.Exchange

open Foundation Foundation.Transaction Phone List Option Table Delivery

/-- The events of the attempt are those that the writer heard and those that
wait on the phone. -/
structure Linked
    (deployment : Delivery.Deployment)
    (subject : Subject)
    (originHash : Text)
    (link : Link)
    (heard pending : List AlphaRadioEvent)
    (entry : Entry) : Prop where
  listens : Listens deployment subject (subject.log heard) link.world.tables
  alone : link.journal.Alone subject.attemptId entry
  tells : Tells subject originHash entry
  events : entry.events = heard ++ pending
  begun : heard ≠ []
  waiting : ∀ event ∈ pending, event.isOpen = true ∧ event.evidence ≠ .durableSubmitIntent
  unrecorded : ∀ event ∈ pending, ∀ row ∈ link.world.tables.events, row.id ≠ event.eventId
  answered : ∀ eventId ∈ link.answered, ∃ event ∈ heard, event.eventId = eventId
  accepted : link.rejected = []

/-- The invariant of every run. -/
def Agrees (deployment : Delivery.Deployment) (subject : Subject) (originHash : Text)
    (link : Link) : Prop :=
  ∃ heard pending entry, Linked deployment subject originHash link heard pending entry

namespace Linked

section

variable (linked : Linked deployment subject originHash link heard pending entry)

include linked

theorem moveAttempts (moves : selects entry.attempt →
      Entry.isMoving entry.attempt.state ∧
        Reflects state entry.segments ∧ state ≠ .delivered) : Finishes
      (do let _ ← Phone.moveAttempts surroundings selects state now : JournalTransaction PUnit)
      (fun _ journal => Agrees deployment subject originHash { link with journal })
      link.journal := by
  simp only [leads_bind]
  refine (linked.alone.moveAttempts selects state).imp ?_
  rintro _ after (⟨-, kept⟩ | ⟨selected, moved⟩)
  · exact ⟨heard, pending, entry, { linked with alone := kept }⟩
  · obtain ⟨moving, reflects, undelivered⟩ := moves selected
    exact ⟨heard, pending, _, { linked with
      alone := moved, tells := linked.tells.moveTo moving reflects undelivered now }⟩

theorem reflects_underWay
    (underWay : isUnderWay entry.attempt.state) : Entry.isMoving entry.attempt.state ∧
      Reflects .unknown entry.segments ∧ AttemptState.unknown ≠ .delivered := by
  refine ⟨Entry.isMoving_of_underWay underWay, ?_, by decide⟩
  have reflects := linked.tells.reflects
  cases isState : entry.attempt.state <;> rw [isState] at reflects underWay <;>
    first
      | exact reflects
      | cases underWay

theorem reflects_submitted
    (submitted : entry.attempt.state = .submitted) : Entry.isMoving entry.attempt.state ∧
      Reflects .deliveryUnknown entry.segments ∧ AttemptState.deliveryUnknown ≠ .delivered := by
  have reflects := linked.tells.reflects
  rw [submitted] at reflects ⊢
  exact ⟨rfl, reflects, by decide⟩

/-- What a callback reports waits behind the rest. -/
theorem recordCallback {callback : Callback}
    (compatible : ∀ segment ∈ link.journal.getSegment subject.attemptId callback.index,
        callback.decision segment ≠ .conflict)
    (unused : ∀ row ∈ link.world.tables.events, row.id ≠ fresh ∧ row.id ≠ later) : Finishes
      (Phone.recordCallback surroundings subject.attemptId callback now fresh later)
      (fun _ journal => Agrees deployment subject originHash { link with journal })
      link.journal := by
  refine linked.alone.recordCallback.imp ?_
  rintro _ after (kept | turned)
  · exact ⟨heard, pending, entry, { linked with alone := kept }⟩
  · rw [linked.alone.holds.getSegment] at compatible
    obtain ⟨tells, added, isAdded, waits⟩ := linked.tells.recordCallback compatible
    refine ⟨heard, pending ++ added, _, { linked with
      alone := turned, tells := tells, events := ?_, waiting := ?_, unrecorded := ?_ }⟩
    · rw [isAdded, linked.events, append_assoc]
    · refine forall_mem_append.mpr ⟨linked.waiting, fun event isNew => ?_⟩
      exact ⟨(waits event isNew).1, (waits event isNew).2.2⟩
    · refine forall_mem_append.mpr ⟨linked.unrecorded, fun event isNew row stored => ?_⟩
      rcases (waits event isNew).2.1 with isFresh | isLater
      · rw [isFresh]
        exact (unused row stored).1
      · rw [isLater]
        exact (unused row stored).2

theorem mem_events (waits : event ∈ pending) : event ∈ entry.events := by
  rw [linked.events]
  exact mem_append_right _ waits

theorem nodup : ((heard ++ pending).map (·.eventId)).Nodup := by
  rw [← linked.events, ← linked.alone.events]
  exact linked.alone.distinct

theorem eventId_ne (isKnown : known ∈ heard) (waits : event ∈ pending) :
    event.eventId ≠ known.eventId := by
  have distinct := linked.nodup
  rw [map_append, nodup_append] at distinct
  exact (distinct.2.2 _ (mem_map_of_mem isKnown) _ (mem_map_of_mem waits)).symm

/-- An acknowledgement reaches an event that was heard. -/
theorem acknowledgeAlphaEvent (answered : eventId ∈ link.answered) :
    Finishes (Phone.acknowledgeAlphaEvent surroundings eventId now)
      (fun _ journal => Agrees deployment subject originHash { link with journal })
      link.journal := by
  refine (linked.alone.acknowledgeAlphaEvent eventId).imp ?_
  intro _ after turned
  split_ifs at turned
  · exact ⟨heard, pending, entry, { linked with alone := turned }⟩
  obtain ⟨known, isKnown, isId⟩ := linked.answered eventId answered
  let selects := fun event : AlphaRadioEvent =>
    event.eventId == eventId && event.isOpen
  let change := fun event : AlphaRadioEvent =>
    { event with acknowledgedAtMs := some now }
  have untouched : update selects change pending = pending := by
    refine update_of_unselected fun event waits => ?_
    have different := linked.eventId_ne isKnown waits
    rw [isId] at different
    change (event.eventId == eventId && _) = false
    rw [beq_eq_false_iff_ne.mpr different, Bool.false_and]
  refine ⟨update selects change heard, pending, _, { linked with
    listens := ?_, alone := turned, tells := linked.tells.acknowledge eventId now, events := ?_
    begun := ?_, answered := ?_ }⟩
  · have sameLog : subject.log (update selects change heard) =
        subject.log heard := map_update _ (by intro event; rfl) _
    rw [sameLog]
    exact linked.listens
  · change update selects change entry.events = _
    rw [linked.events]
    exact (map_append).trans (congrArg _ untouched)
  · exact fun isEmpty => linked.begun (map_eq_nil_iff.mp isEmpty)
  · intro other isAnswered
    exact (exists_update_iff (by intro event; rfl)).mpr (linked.answered other isAnswered)

end

section Uploads

variable {opening : Opening} {few : 1 ≤ opening.segmentCount ∧ opening.segmentCount ≤ 6}

section

variable (linked : Linked deployment (opening.subject few) opening.identity.originHash link
  heard pending entry)

include linked

/-- The phone uploads an event that was heard, or the first that waits. -/
theorem next (isNext : opening.next surroundings excluded link.journal = some event) :
    event ∈ heard ∨ ∃ rest, pending = event :: rest := by
  unfold Opening.next Journal.nextAlphaEvent at isNext
  rw [linked.alone.events, linked.events, find?_append, or_eq_some_iff] at isNext
  rcases isNext with known | ⟨-, waits⟩
  · exact .inl (mem_of_find?_eq_some known)
  · cases isPending : pending with
    | nil =>
      rw [isPending] at waits
      cases waits
    | cons first rest =>
      have present : event ∈ pending := mem_of_find?_eq_some waits
      have selected := find?_some waits
      have isFirst : first ∈ pending := isPending ▸ mem_cons_self
      have keeps : ∀ other ∈ pending,
          (opening.subject few).Keeps opening.identity.originHash other :=
        fun other listed => linked.tells.keeps other (linked.mem_events listed)
      have own := keeps first isFirst
      obtain ⟨isOpen, notIntent⟩ := linked.waiting first isFirst
      rw [isPending, find?_cons_of_pos] at waits
      · exact .inr ⟨rest, by rw [some.inj waits]⟩
      · simp only [Bool.and_eq_true, Bool.not_eq_true'] at selected
        rw [(keeps event present).attempt] at selected
        simp only [own.attempt, own.account, own.device, own.origin, isOpen, selected.1.1.1.1.1]
        simp [notIntent, Opening.subject, subjectOf]

/-- The writer accepts the event that is uploaded. -/
theorem upload (timely : ∀ event ∈ opening.next surroundings excluded link.journal,
      ∀ attempt ∈ link.world.tables.attempts, attempt.id = event.attemptId →
        validateRadioTimestamp event.observedAtMs (toMillis attempt.createdAt)
          (toMillis (clock.reading 0)) = .ok ()) :
    Agrees deployment (opening.subject few) opening.identity.originHash
      (link.upload deployment opening surroundings excluded clock) := by
  unfold Link.upload
  cases isNext : opening.next surroundings excluded link.journal with
  | none => exact ⟨heard, pending, entry, linked⟩
  | some event =>
    simp only
    rcases linked.next isNext with known | ⟨rest, isPending⟩
    · obtain ⟨state, isResult⟩ := linked.listens.again (mem_map_of_mem known)
      have result : (recordRadioEvent deployment
          link.world.directory clock (opening.report event)).commit
            link.world.tables = (.ok state, link.world.tables) := isResult
      rw [result]
      exact ⟨heard, pending, entry, { linked with
        answered := forall_mem_concat linked.answered ⟨event, known, rfl⟩ }⟩
    · have present : event ∈ pending := isPending ▸ mem_cons_self
      have own := linked.tells.keeps event (linked.mem_events present)
      have whole : Story opening.segmentCount
          ((opening.subject few).log heard ++ opening.report event ::
            (opening.subject few).log rest) := by
        have story := linked.tells.agrees.story
        rw [← linked.tells.told, linked.events, isPending, Subject.log_append] at story
        exact story
      obtain ⟨story, follows⟩ := whole.cut (by
        simpa [Subject.log] using linked.begun)
      obtain ⟨state, after, result, listens, row, appended, isRow⟩ :=
        linked.listens.upload (linked.unrecorded event present) follows
          ⟨rfl, rfl, own.message, own.attempt⟩ (timely event isNext) story
      rw [result]
      refine ⟨heard ++ [event], rest, entry, { linked with
        listens := ?_, events := ?_
        begun := by simp
        waiting := ?_, unrecorded := ?_, answered := ?_ }⟩
      · rw [Subject.log_append, Subject.log_singleton]
        exact listens
      · rw [linked.events, isPending, append_assoc]
        rfl
      · exact fun other listed => linked.waiting other (isPending ▸ mem_cons_of_mem _ listed)
      · intro other listed
        rw [appended]
        refine forall_mem_concat
          (linked.unrecorded other (isPending ▸ mem_cons_of_mem _ listed)) ?_
        have distinct := linked.nodup
        rw [isPending, map_append, map_cons] at distinct
        have apart := (nodup_append.mp distinct).2.1
        rw [isRow]
        intro (same : event.eventId = other.eventId)
        rw [same] at apart
        exact (nodup_cons.mp apart).1 (mem_map_of_mem listed)
      · refine forall_mem_concat (fun eventId old => ?_) ⟨event, mem_concat_self, rfl⟩
        obtain ⟨known, isKnown, isId⟩ := linked.answered eventId old
        exact ⟨known, mem_append_left _ isKnown, isId⟩

end

end Uploads

/-- A sweep adds nothing that the phone would upload. -/
theorem swept (linked : Linked deployment subject originHash link heard pending entry)
    (unused : ∀ index < limit, ∀ event ∈ link.journal.events, fresh index ≠ event.eventId)
    (swept : Delivery.Swept deployment link.world.directory limit fresh link.world.tables tables) :
    Agrees deployment subject originHash { link with world := { link.world with tables } } := by
  refine ⟨heard, pending, entry, { linked with
    listens := linked.listens.swept swept, unrecorded := ?_ }⟩
  intro event waits
  obtain ⟨added, appended, timeouts⟩ := swept.events
  rw [appended]
  refine forall_mem_append.mpr ⟨linked.unrecorded event waits, fun row isNew => ?_⟩
  obtain ⟨-, index, inRange, isRow⟩ := timeouts row isNew
  rw [isRow]
  refine unused index inRange event ?_
  rw [linked.alone.events]
  exact linked.mem_events waits

end Linked

/-! ## Runs -/

section Runs

variable {opening : Opening}

theorem Agrees.step (agrees : Agrees deployment (opening.subject few)
      opening.identity.originHash link)
    (move : Move) (admitted : link.Admits opening move) :
    Agrees deployment (opening.subject few) opening.identity.originHash
      (link.step deployment opening move) := by
  obtain ⟨heard, pending, entry, linked⟩ := id agrees
  have coherent := linked.listens.coherent
  cases move with
  | recordCallback surroundings callback now fresh later =>
    obtain ⟨compatible, unused⟩ := admitted
    exact (linked.recordCallback compatible unused).commit agrees
  | markInterrupted surroundings now =>
    exact (linked.moveAttempts linked.reflects_underWay).commit agrees
  | markStalledSubmission surroundings now =>
    refine (linked.moveAttempts fun selected => ?_).commit agrees
    exact linked.reflects_underWay (Bool.and_eq_true_iff.mp selected).2
  | markTimedOutDeliveries surroundings cutoff now =>
    refine (linked.moveAttempts fun selected => ?_).commit agrees
    exact linked.reflects_submitted (beq_iff_eq.mp (Bool.and_eq_true_iff.mp selected).1)
  | upload surroundings excluded clock => exact linked.upload admitted
  | acknowledge surroundings eventId now =>
    exact (linked.acknowledgeAlphaEvent admitted).commit agrees
  | reconcileSilentAttempts clock limit locked fresh =>
    exact ((reconcileSilentAttempts_leads coherent limit
      locked fresh).imp (fun _ _ swept => linked.swept admitted swept)).commit agrees
  | reconcileDeliveryTimeouts clock limit locked fresh =>
    exact ((reconcileDeliveryTimeouts_leads coherent limit
      locked fresh).imp (fun _ _ swept => linked.swept admitted swept)).commit agrees

theorem Agrees.run (agrees : Agrees deployment (opening.subject few)
      opening.identity.originHash link)
    (moves : List Move) (admissible : link.Admissible deployment opening moves) :
    Agrees deployment (opening.subject few) opening.identity.originHash
      (link.run deployment opening moves) := by
  induction moves generalizing link with
  | nil => exact agrees
  | cons move rest ih =>
    exact ih (agrees.step move admissible.1) admissible.2

/-- The attempt that was started has told its intent, and the writer heard
it. -/
theorem Agrees.begin (begun : opening.begin deployment
      ((Delivery.World.start directory).run deployment steps) = some link) :
    ∃ few : 1 ≤ opening.segmentCount ∧ opening.segmentCount ≤ 6,
      Agrees deployment (opening.subject few) opening.identity.originHash link := by
  simp only [Opening.begin, bind_eq_bind, bind_eq_some_iff,
    guard_eq_some', exists_const, some.injEq] at begun
  obtain ⟨reserved, isReserved, intent, isNext, unrecorded, recorded,
    isRecorded, acknowledged, isAcknowledged, permitted, started, isStarted,
    isCount, rfl⟩ := begun
  obtain ⟨few, reservedAlone⟩ := of_committed Journal.Alone.reserveAlpha isReserved
  have permittedAlone := of_committed
    (reservedAlone.acknowledgeAlphaIntent opening.intentEventId) isAcknowledged permitted
  have startedAlone := of_committed permittedAlone.consumeRadioStart isStarted isCount
  have isIntent : intent ∈ (Journal.reservedEntry opening.attemptId
      opening.messageId opening.subscriptionId opening.segmentCount
      opening.intentEventId opening.reservedAt opening.identity).events := by
    rw [← reservedAlone.events]
    exact mem_of_find?_eq_some isNext
  obtain rfl := mem_singleton.mp isIntent
  have listens := Listens.begin (Delivery.World.run_coherent deployment directory steps)
    (Delivery.World.run_attended deployment directory steps)
    (run_unreported deployment directory steps (opening.subject few).messageId)
    ⟨rfl, rfl, rfl, rfl⟩ rfl
    (fun other listed => bne_iff_ne.mp (all_eq_true.mp unrecorded other listed))
    (committed_eq_some isRecorded)
  have tells := @Tells.begin _ opening.identity opening.messageId opening.attemptId
    opening.subscriptionId opening.intentEventId opening.reservedAt few
    opening.acknowledgedAt opening.startedAt
  refine ⟨few, _, [], _, ?_, startedAlone, tells, (append_nil _).symm, ?_, ?_, ?_, ?_, rfl⟩
  · rw [show (opening.subject few).log _ = _ from tells.told]
    exact listens
  · exact cons_ne_nil _ _
  · rintro _ ⟨⟩
  · rintro _ ⟨⟩
  · intro eventId isAnswered
    rw [mem_singleton.mp isAnswered]
    exact (exists_update_iff (by intro event; rfl)).mpr ⟨_, isIntent, rfl⟩

/-- Once nothing waits, both states tell the same story. -/
theorem Tells.consistent (tells : Tells subject originHash entry)
    (expected : Expected subject.segmentCount (subject.log entry.inserted) state) :
    Consistent entry.attempt.state entry.attempt.segmentCount state := by
  have few := subject.few
  have length := tells.length
  have reflects := tells.reflects
  have sentOk := tells.agrees.sentOk
  have failed := tells.agrees.failed
  unfold Expected at expected
  rw [tells.delivered, sentOk, failed] at expected
  rw [tells.count]
  generalize entry.attempt.state = own at reflects expected ⊢
  cases own with
  | reserved | notSubmitted => exact reflects.elim
  | delivered => exact expected
  | submitted | deliveryUnknown | deliveryFailed =>
    have whole : sentCount entry.segments = entry.segments.length := reflects
    rw [whole, length, if_neg (by decide), if_pos rfl] at expected
    exact expected
  | radioStarted | submitting | unknown =>
    have unsettled := results_of_unsettled reflects
    rw [if_neg (by decide), if_neg (by omega)] at expected
    split_ifs at expected with _ single
    · exact expected
    · omega
    · exact .inr expected
  | failed =>
    obtain ⟨settled, unsent⟩ := reflects
    have results := results_of_settled settled
    rw [if_neg (by decide), if_neg (by omega), if_neg (by omega)] at expected
    unfold Consistent
    split_ifs at expected ⊢ <;> exact expected
  | partialFailure =>
    obtain ⟨settled, sent, partly⟩ := reflects
    have results := results_of_settled settled
    have bounded : sentCount entry.segments ≤ entry.segments.length := countP_le_length
    rw [if_neg (by decide), if_neg (by omega), if_neg (by omega), if_neg (by omega)] at expected
    exact expected

/-- The writer rejects no event that the phone uploads, and after every event
was acknowledged the states on both sides are consistent. -/
theorem Link.phone_writer_agree {directory : Delivery.Directory} {steps : List Delivery.Step}
    {moves : List Move} (begun : opening.begin deployment
      ((Delivery.World.start directory).run deployment steps) = some link)
    (admissible : link.Admissible deployment opening moves) :
    (link.run deployment opening moves).rejected = [] ∧ ∃ attempt message,
        (link.run deployment opening moves).journal.getAttempt opening.attemptId = some attempt ∧
          (link.run deployment opening moves).world.tables.messages.filter
            (·.id == opening.messageId) = [message] ∧
          ((∀ event ∈ (link.run deployment opening moves).journal.events, event.isOpen = false) →
            Consistent attempt.state attempt.segmentCount message.state) := by
  obtain ⟨few, agrees⟩ := Agrees.begin begun
  obtain ⟨heard, pending, entry, linked⟩ := agrees.run moves admissible
  obtain ⟨record, holds, tracks⟩ := linked.listens.record
  refine ⟨linked.accepted, entry.attempt, record.message,
    linked.alone.holds.getAttempt, holds.messages, fun acknowledged => ?_⟩
  have isHeard : entry.events = heard := by
    have nothingWaits : pending = [] := by
      refine eq_nil_iff_forall_not_mem.mpr fun event waits => ?_
      have isClosed := acknowledged event (by
        rw [linked.alone.events]
        exact linked.mem_events waits)
      cases isClosed.symm.trans (linked.waiting event waits).1
    rw [linked.events, nothingWaits, append_nil]
  have expected := tracks.expected
  rw [← isHeard, linked.tells.told] at expected
  exact linked.tells.consistent expected

end Runs

namespace Drill

open Delivery.Drill

/-- Attempt 20 of message 10 begins with two segments. -/
def opening : Opening where
  identity := Phone.Drill.identity
  attemptId := 20
  messageId := 10
  subscriptionId := 1
  segmentCount := 2
  intentEventId := 30
  approvedSenderToken := none
  reserving := Phone.Drill.surroundings
  reservedAt := 101000
  uploading := Phone.Drill.surroundings
  clock := clock 102
  acknowledging := Phone.Drill.surroundings
  acknowledgedAt := 102000
  spareEventId := 39
  starting := Phone.Drill.surroundings
  startedAt := 102000

/-- A callback of the platform. -/
def callback (index : Int) (delivery : Bool) (fresh later : Identifier) : Move :=
  .recordCallback Phone.Drill.surroundings
    { index, delivery
      result := resultOk
      deliveryStatus :=
        if delivery then some DeliveryStatus.received else none }
    103000 fresh later

/-- The phone uploads its next event. -/
def upload (second : Int) : Move := .upload Phone.Drill.surroundings [] (clock second)

/-- The phone acknowledges an event. -/
def acknowledge (eventId : Identifier) : Move :=
  .acknowledge Phone.Drill.surroundings eventId 104000

/-- Callbacks arrive late and out of order, and an acknowledgement is lost. -/
def moves : List Move :=
  [callback 1 false 31 41, upload 103, .markInterrupted Phone.Drill.surroundings 103000,
    .reconcileSilentAttempts (clock 300) 10 (fun _ => false)
      (fun index => Fin.ofNat _ (50 + index)),
    upload 301, acknowledge 31, callback 1 true 32 42, callback 0 false 33 43,
    callback 0 true 34 44, upload 302, acknowledge 33, upload 303, acknowledge 44]

/-- The world after the grant. -/
def granted : Delivery.World := (Delivery.World.start directory).run deployment (sending.take 4)

/-- The phone has started the attempt. -/
def started : Link := (opening.begin deployment granted).get (by decide +kernel)

end Drill

/-- Lost and repeated answers do not keep the two from agreeing on a
delivery. -/
theorem Link.phone_writer_agree_drill :
    let after := Drill.started.run Delivery.Drill.deployment Drill.opening Drill.moves
    after.rejected = [] ∧ after.answered = [30, 31, 31, 33, 44] ∧
      (∀ event ∈ after.journal.events, event.isOpen = false) ∧
      ∃ attempt message, after.journal.getAttempt 20 = some attempt ∧
          after.world.tables.messages.filter (·.id == 10) = [message] ∧
          attempt.state = .delivered ∧
          Consistent attempt.state attempt.segmentCount message.state := by
  have begun : Drill.opening.begin Delivery.Drill.deployment Drill.granted =
      some Drill.started := (some_get _).symm
  have admissible : Drill.started.Admissible Delivery.Drill.deployment
      Drill.opening Drill.moves := by
    decide +kernel
  obtain ⟨accepted, attempt, message, isAttempt, isMessage, consistent⟩ :=
    Link.phone_writer_agree begun admissible
  have acknowledged : ∀ event ∈ (Drill.started.run Delivery.Drill.deployment
      Drill.opening Drill.moves).journal.events, event.isOpen = false := by
    decide +kernel
  have delivered : ((Drill.started.run Delivery.Drill.deployment
      Drill.opening Drill.moves).journal.getAttempt 20).map (·.state) = some .delivered := by
    decide +kernel
  rw [show Drill.opening.attemptId = 20 from rfl] at isAttempt
  rw [isAttempt] at delivered
  exact ⟨accepted, by decide +kernel, acknowledged, attempt, message, isAttempt,
    isMessage, some.inj delivered, consistent acknowledged⟩

end Zrotext.Exchange
