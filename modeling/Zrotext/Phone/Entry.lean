import Zrotext.Phone.Journal

/-!
# The journal of one attempt

Seen from one attempt, the journal is a small state machine: callbacks are
stored and reported, and everything else moves the attempt quietly.
-/

namespace Zrotext.Phone

open Foundation

/-- What the journal keeps about one attempt. -/
structure Entry where
  attempt : SmsAttempt
  segments : List SmsSegment
  (events inserted : List AlphaRadioEvent)

/-- A proof that nothing was sent, not acknowledged yet. -/
def AlphaRadioEvent.isPendingProof (event : AlphaRadioEvent) : Bool :=
  event.evidence == .provenNoSubmit && event.acknowledgedAtMs.isNone

/-- A segment with the result of a callback. -/
def Callback.writeTo (callback : Callback) (segment : SmsSegment) : SmsSegment :=
  if callback.delivery then
    { segment with
      deliveryResultCode := some callback.result, deliveryStatus := some callback.status }
  else
    { segment with sentResultCode := some callback.result }

section Decisions

variable (callback : Callback) {segment : SmsSegment}

/-- A sent callback is stored if the segment has none. -/
theorem Callback.decision_sent (isSent : ¬ callback.delivery) :
    (callback.decision segment == .store) = segment.sentResultCode.isNone := by
  unfold decision CallbackEvidence.sent
  rw [if_neg isSent]
  cases segment.sentResultCode with
  | none => rfl
  | some stored =>
    simp only [Option.isNone_some]
    split_ifs <;> rfl

/-- A delivery callback is stored if the segment has none, or if it settles an
unverified one. -/
theorem Callback.decision_delivery (isDelivery : callback.delivery) :
    (callback.decision segment == .store) = (segment.deliveryStatus.isNone ||
        (segment.deliveryStatus == some DeliveryStatus.unverified &&
          callback.status != DeliveryStatus.unverified)) := by
  unfold decision CallbackEvidence.delivery
  rw [if_pos isDelivery]
  cases segment.deliveryStatus with
  | none => rfl
  | some stored =>
    rw [Bool.eq_iff_iff]
    simp only [Option.isNone_some, Bool.false_or, beq_iff_eq, bne_iff_ne,
      Bool.and_eq_true, Option.some.injEq, ne_eq]
    split_ifs with upgraded contradicted
    · simp only [true_iff]
      exact upgraded
    · simp only [false_iff]
      exact upgraded
    · simp only [false_iff]
      exact upgraded

@[simp]
theorem Callback.writeTo_segmentIndex (segment : SmsSegment) :
    (callback.writeTo segment).segmentIndex = segment.segmentIndex := by
  unfold writeTo
  split_ifs <;> rfl

end Decisions

/-- An attempt is delivered only if every segment was sent and received. -/
theorem AttemptState.fromEvidence_eq_delivered {prior : AttemptState} {segments : List SmsSegment}
    (isDelivered : prior.fromEvidence segments = .delivered) :
    ∀ segment ∈ segments, segment.sentResultCode.isSome ∧
      segment.deliveryStatus = some DeliveryStatus.received := by
  unfold fromEvidence at isDelivered
  intro segment present
  split_ifs at isDelivered with _ incomplete _ _ _ _ received
  refine ⟨?_, ?_⟩
  · by_contra missing
    refine incomplete (.inr (List.any_eq_true.mpr ⟨segment, present, ?_⟩))
    simpa using missing
  · exact beq_iff_eq.mp (List.all_eq_true.mp received segment present)

namespace Entry

variable (entry : Entry)

/-- The attempt in another state. -/
def moveTo (state : AttemptState) (now : Int) : Entry :=
  { entry with attempt := entry.attempt.moveTo state now }

/-- One more event. -/
def insert (event : AlphaRadioEvent) : Entry :=
  { entry with events := entry.events ++ [event], inserted := entry.inserted ++ [event] }

/-- An open event is acknowledged. -/
def acknowledge (eventId : Identifier) (now : Int) : Entry :=
  { entry with
    events := Table.update
      (fun event => event.eventId == eventId && event.isOpen)
      (fun event => { event with acknowledgedAtMs := some now })
      entry.events }

/-- It is certain that nothing was sent, and not proved yet. -/
def isProvable : Bool :=
  entry.attempt.state == .notSubmitted && !entry.attempt.evidenceConflict &&
    !entry.events.any (·.evidence == .provenNoSubmit) && entry.segments.all (·.isBlank)

variable (callback : Callback) (now : Int) (fresh : Identifier)

/-- Record a proof if there is something to prove. -/
def prove : Entry :=
  match entry.attempt.messageId with
  | none => entry
  | some messageId =>
    if entry.isProvable then
      entry.insert (entry.attempt.alphaEvent messageId fresh .provenNoSubmit now)
    else entry

/-- The attempt after its first conflict. -/
def marked : Entry :=
  { entry with
    attempt := { entry.attempt.moveTo .unknown now with
      evidenceConflict := true } }

/-- The entry without the proofs that wait for an acknowledgement. -/
def withdrawn : Entry :=
  { entry with events := Table.delete (·.isPendingProof) entry.events }

/-- Record the first conflict. -/
def conflict : Entry :=
  if entry.attempt.evidenceConflict then entry
  else
    match entry.attempt.messageId with
    | none => entry.marked now
    | some messageId =>
      (entry.marked now).withdrawn.insert
        (entry.attempt.alphaEvent messageId fresh .callbackConflict now)

/-- Store the result of a callback. -/
def store (callback : Callback) : Entry :=
  { entry with
    segments := Table.update
      (fun segment =>
        segment.segmentIndex == callback.index &&
          callback.decision segment == .store)
      callback.writeTo entry.segments }

variable (next : AttemptState) (messageId : Identifier)

/-- The event about a callback that a segment was sent, or not. -/
def sentEvent (now : Int) (fresh : Identifier) : AlphaRadioEvent :=
  { entry.attempt.alphaEvent messageId fresh callback.sentEvidence now with
    segmentIndex := some callback.index, segmentCount := some entry.attempt.segmentCount }

/-- Report that a segment was sent, or not. -/
def reportSent (now : Int) (fresh : Identifier) : Entry :=
  if callback.delivery = false ∧ entry.attempt.evidenceConflict = false then
    entry.insert (entry.sentEvent callback messageId now fresh)
  else entry

theorem reportSent_attempt (now : Int) (fresh : Identifier) :
    (entry.reportSent callback messageId now fresh).attempt = entry.attempt := by
  unfold reportSent
  split_ifs <;> rfl

/-- Report that the message was delivered, once it is. -/
def reportDelivered (now : Int) (later : Identifier) : Entry :=
  if next = .delivered ∧ entry.attempt.state ≠ .delivered then
    entry.insert (entry.attempt.alphaEvent messageId later .deliveryCallbackOk now)
  else entry

/-- Report a callback that was stored. -/
def report (now : Int) (fresh later : Identifier) : Entry :=
  match entry.attempt.messageId with
  | none => entry
  | some messageId =>
    (entry.reportSent callback messageId now fresh).reportDelivered next messageId now later

/-- A report leaves the attempt as it is. -/
@[simp]
theorem report_attempt (now : Int) (fresh later : Identifier) :
    (entry.report callback next now fresh later).attempt = entry.attempt := by
  unfold report
  cases entry.attempt.messageId with
  | none => rfl
  | some messageId =>
    simp only [reportDelivered]
    split_ifs <;> exact entry.reportSent_attempt callback messageId now fresh

/-- A report leaves the segments as they are. -/
@[simp]
theorem report_segments (now : Int) (fresh later : Identifier) :
    (entry.report callback next now fresh later).segments = entry.segments := by
  unfold report
  cases entry.attempt.messageId with
  | none => rfl
  | some messageId =>
    simp only [reportDelivered, reportSent]
    split_ifs <;> rfl

/-- Store a callback and draw the consequences. -/
def storeCallback (later : Identifier) : Entry :=
  let stored := entry.store callback
  if entry.attempt.isUnsubmitted ∨ (stored.segments.length : Int) ≠ entry.attempt.segmentCount then
    stored.conflict now fresh
  else
    let next := entry.attempt.nextState stored.segments
    (stored.report callback next now fresh later).moveTo next now

/-- The segment that a callback is for. -/
def segmentOf : Option SmsSegment := entry.segments.find? (·.segmentIndex == callback.index)

/-- The segment of a callback is one of the attempt with the index of the
callback. -/
theorem segmentOf_eq_some {entry : Entry} {callback : Callback} {segment : SmsSegment}
    (found : entry.segmentOf callback = some segment) :
    segment ∈ entry.segments ∧ segment.segmentIndex = callback.index := by
  have isOwn := List.find?_some found
  exact ⟨List.mem_of_find?_eq_some found, beq_iff_eq.mp isOwn⟩

/-- The callback names a segment of the attempt. -/
def InRange : Prop := 0 ≤ callback.index ∧ callback.index < entry.attempt.segmentCount

instance (callback : Callback) : Decidable (entry.InRange callback) :=
  inferInstanceAs (Decidable (_ ∧ _))

/-- Record a callback. -/
def recordCallback (later : Identifier) : Entry :=
  if ¬ entry.InRange callback then entry
  else
    match entry.segmentOf callback with
    | none => entry.conflict now fresh
    | some segment =>
      match callback.decision segment with
      | .ignore =>
        if entry.attempt.isUnsubmitted then entry.conflict now fresh
        else entry
      | .conflict => entry.conflict now fresh
      | .store => entry.storeCallback callback now fresh later

/-- What becomes of an entry when a callback is recorded. -/
inductive Recording (callback : Callback) (now : Int) (fresh later : Identifier) : Entry → Prop
  | ignored : Recording callback now fresh later entry
  | contradicted : entry.InRange callback → (∀ segment, entry.segmentOf callback = some segment →
        callback.decision segment = .conflict ∨ callback.decision segment = .ignore ∧
            entry.attempt.isUnsubmitted = true) →
      Recording callback now fresh later (entry.conflict now fresh)
  | refused {segment : SmsSegment} : entry.segmentOf callback = some segment →
      callback.decision segment = .store → entry.attempt.isUnsubmitted = true ∨
        (entry.segments.length : Int) ≠ entry.attempt.segmentCount →
      Recording callback now fresh later ((entry.store callback).conflict now fresh)
  | reported {segment : SmsSegment} : entry.InRange callback →
      entry.segmentOf callback = some segment → callback.decision segment = .store →
      entry.attempt.isUnsubmitted = false → Recording callback now fresh later
        (((entry.store callback).report callback
          (entry.attempt.nextState (entry.store callback).segments) now fresh later).moveTo
              (entry.attempt.nextState (entry.store callback).segments) now)

@[simp]
theorem length_store : (entry.store callback).segments.length = entry.segments.length :=
  List.length_map ..

/-- A recorded callback becomes one of the recordings. -/
theorem recordCallback_recording (later : Identifier) :
    entry.Recording callback now fresh later (entry.recordCallback callback now fresh later) := by
  unfold recordCallback
  by_cases inRange : entry.InRange callback
  · rw [if_neg (not_not_intro inRange)]
    cases found : entry.segmentOf callback with
    | none =>
      refine .contradicted inRange fun segment isSegment => ?_
      cases found.symm.trans isSegment
    | some segment =>
      simp only
      have only : ∀ other, entry.segmentOf callback = some other → segment = other :=
        fun other isOther => Option.some.inj (found.symm.trans isOther)
      cases decided : callback.decision segment with
      | ignore =>
        split_ifs with unsubmitted
        · refine .contradicted inRange fun other isOther => ?_
          rw [← only other isOther]
          exact .inr ⟨decided, unsubmitted⟩
        · exact .ignored
      | conflict =>
        refine .contradicted inRange fun other isOther => ?_
        rw [← only other isOther]
        exact .inl decided
      | store =>
        simp only [storeCallback, length_store]
        split_ifs with refused
        · exact .refused found decided refused
        · push Not at refused
          exact .reported inRange found decided (Bool.eq_false_iff.mpr refused.1)
  · rw [if_pos inRange]
    exact .ignored

end Entry

/-- What happens to an attempt besides callbacks. -/
inductive Entry.Quiet (entry : Entry) : Entry → Prop
  | start (now : Int) : entry.attempt.state = .submitting →
      Quiet entry (entry.moveTo .radioStarted now)
  | interrupt (now : Int) : isUnderWay entry.attempt.state = true →
      Quiet entry (entry.moveTo .unknown now)
  | drop (now : Int) : entry.attempt.state = .reserved →
      Quiet entry (entry.moveTo .notSubmitted now)
  | timeOut (now : Int) : entry.attempt.state = .submitted →
      Quiet entry (entry.moveTo .deliveryUnknown now)
  | permit (now : Int) : entry.attempt.state = .reserved →
      Quiet entry (entry.moveTo .submitting now)
  | abandon (now : Int) : isUnderWay entry.attempt.state = true →
      Quiet entry (entry.moveTo .notSubmitted now)
  | acknowledge (eventId : Identifier) (now : Int) : Quiet entry (entry.acknowledge eventId now)
  | prove (now : Int) (fresh : Identifier) : Quiet entry (entry.prove now fresh)

/-- Any number of quiet steps. -/
abbrev Entry.Drifts : Entry → Entry → Prop := Relation.ReflTransGen Entry.Quiet

/-- What happens to an attempt. -/
inductive Entry.Step (entry : Entry) : Entry → Prop
  | quiet {next : Entry} : entry.Quiet next → Step entry next
  | callback (callback : Callback) (now : Int) (fresh later : Identifier) :
      Step entry (entry.recordCallback callback now fresh later)

/-- Any number of steps. -/
abbrev Entry.Reaches : Entry → Entry → Prop := Relation.ReflTransGen Entry.Step

/-- Quiet steps are steps. -/
theorem Entry.Drifts.reaches {entry next : Entry} (drifts : entry.Drifts next) :
    entry.Reaches next :=
  Relation.ReflTransGen.mono (fun _ _ step => Entry.Step.quiet step) _ _ drifts

/-- An attempt that was just reserved. -/
structure Entry.IsNew (entry : Entry) : Prop where
  reserved : entry.attempt.state = .reserved
  unconflicted : entry.attempt.evidenceConflict = false
  named : entry.attempt.messageId.isSome = true
  few : 1 ≤ entry.attempt.segmentCount ∧ entry.attempt.segmentCount ≤ 6
  blank : entry.segments = blankSegments entry.attempt.attemptId entry.attempt.segmentCount
  intended : ∃ messageId eventId now, entry.attempt.messageId = some messageId ∧
      entry.events = [entry.attempt.alphaEvent messageId eventId .durableSubmitIntent now] ∧
      entry.inserted = entry.events

end Zrotext.Phone
