import Zrotext.Phone.Projection

/-!
# How operations move the entries

Every operation except the recording of a callback moves each entry by quiet
steps.  A reservation may add an entry.
-/

namespace Zrotext.Phone

open Foundation Foundation.Transaction Table

namespace Journal

/-- Every attempt has an entry, or nothing is there about it. -/
def Coherent (journal : Journal) : Prop := ∀ attemptId, journal.Lacks attemptId ∨
    ∃ entry, journal.Holds attemptId entry

/-- Every entry moves by quiet steps. -/
def Drifts (journal after : Journal) : Prop :=
  ∀ attemptId, (journal.Lacks attemptId → after.Lacks attemptId) ∧
    ∀ entry, journal.Holds attemptId entry → ∃ next, after.Holds attemptId next ∧ entry.Drifts next

/-- A transaction that moves every entry by quiet steps if it finishes. -/
abbrev DriftsBy {α : Type} (journal : Journal) (transaction : JournalTransaction α) : Prop :=
  Finishes transaction (fun _ after => journal.Drifts after) journal

section Drifts

variable {journal : Journal} {surroundings : Surroundings}

theorem Drifts.refl : journal.Drifts journal :=
  fun _ => ⟨id, fun entry holds => ⟨entry, holds, .refl⟩⟩

theorem Drifts.trans (first : journal.Drifts middle) (second : middle.Drifts after) :
    journal.Drifts after := by
  intro attemptId
  refine ⟨fun lacks => (second attemptId).1 ((first attemptId).1 lacks), ?_⟩
  intro entry holds
  obtain ⟨between, holdsBetween, drifts⟩ := (first attemptId).2 entry holds
  obtain ⟨next, holdsNext, further⟩ := (second attemptId).2 between holdsBetween
  exact ⟨next, holdsNext, drifts.trans further⟩

theorem Drifts.coherent (drifts : journal.Drifts after) (coherent : journal.Coherent) :
    after.Coherent := by
  intro attemptId
  rcases coherent attemptId with lacks | ⟨entry, holds⟩
  · exact .inl ((drifts attemptId).1 lacks)
  · obtain ⟨next, holdsNext, -⟩ := (drifts attemptId).2 entry holds
    exact .inr ⟨next, holdsNext⟩

theorem Holds.unique (holds : journal.Holds attemptId entry)
    (holdsNext : journal.Holds attemptId next) : entry = next := by
  obtain ⟨attempt, segments, events, inserted⟩ := entry
  obtain ⟨otherAttempt, otherSegments, otherEvents, otherInserted⟩ := next
  have sameAttempt := holds.attempts.symm.trans holdsNext.attempts
  simp only [List.cons.injEq, and_true] at sameAttempt
  have sameSegments := holds.segments.symm.trans holdsNext.segments
  have sameEvents := holds.events.symm.trans holdsNext.events
  have sameInserted := holds.inserted.symm.trans holdsNext.inserted
  simp only at sameSegments sameEvents sameInserted
  rw [sameAttempt, sameSegments, sameEvents, sameInserted]

/-- A transaction after quiet steps. -/
theorem Drifts.followed {α : Type} {transaction : JournalTransaction α}
    (drifts : journal.Drifts middle) (coherent : journal.Coherent)
    (further : middle.Coherent → middle.DriftsBy transaction) :
    Finishes transaction (fun _ after => journal.Drifts after) middle :=
  (further (drifts.coherent coherent)).imp fun _ _ => drifts.trans

/-- A change of one entry by quiet steps. -/
theorem Turns.drifts (holds : journal.Holds attemptId entry)
    (turns : journal.Turns attemptId next after) (drifts : entry.Drifts next) :
    journal.Drifts after := by
  intro other
  by_cases isOwn : other = attemptId
  · subst isOwn
    refine ⟨fun lacks => absurd holds lacks.not_holds, ?_⟩
    intro held holdsHeld
    rw [holdsHeld.unique holds]
    exact ⟨next, turns.holds, drifts⟩
  · have agrees := turns.others other isOwn
    exact ⟨fun lacks => lacks.agrees agrees,
      fun held holdsHeld => ⟨held, holdsHeld.agrees agrees, .refl⟩⟩

theorem moveAttempts_drifts (quiet : ∀ attemptId entry, journal.Holds attemptId entry →
    selects entry.attempt →
      entry.Quiet (entry.moveTo state now)) :
    journal.DriftsBy (moveAttempts surroundings selects state now) := by
  intro attemptId
  refine ⟨fun lacks => lacks.updateAttempts (by intro attempt; rfl), ?_⟩
  intro entry holds
  refine ⟨_, holds.updateAttempts (by intro attempt; rfl), ?_⟩
  unfold changed
  split_ifs with selected
  · exact .single (quiet attemptId entry holds (Bool.and_eq_true_iff.mp selected).2)
  · exact .refl

theorem setState_drifts (holds : journal.Holds attemptId entry)
    (quiet : entry.Quiet (entry.moveTo state now)) :
    journal.DriftsBy (setState surroundings attemptId state now) := by
  unfold setState
  simp only [leads_bind]
  refine moveAttempts_drifts ?_
  intro other held holdsHeld isOwn
  rw [beq_iff_eq, holdsHeld.owner] at isOwn
  subst isOwn
  rw [holdsHeld.unique holds]
  exact quiet

/-- An acknowledgement reaches the entries by itself. -/
theorem Holds.acknowledge (holds : journal.Holds attemptId entry) (eventId : Identifier) :
    ({ journal with
      events := Table.update
        (fun event => !surroundings.isTypedSubmit03 event.attemptId &&
          event.eventId == eventId && event.isOpen)
        (fun event => { event with acknowledgedAtMs := some now })
        journal.events } : Journal).Holds attemptId
      (if surroundings.isTypedSubmit03 attemptId then entry
      else entry.acknowledge eventId now) := by
  have owned : ∀ event ∈ entry.events, event.attemptId = attemptId :=
    fun event present => (holds.mem_events.mp present).2
  cases typed : surroundings.isTypedSubmit03 attemptId with
  | true =>
    refine { holds with events := (filter_update (by intro event; rfl) _).trans ?_ }
    rw [holds.events]
    refine update_of_unselected fun event present => ?_
    simp [owned event present, typed]
  | false =>
    refine { holds with events := (filter_update (by intro event; rfl) _).trans ?_ }
    rw [holds.events]
    refine update_congr fun event present => ?_
    simp [owned event present, typed]

theorem Lacks.acknowledge (lacks : journal.Lacks attemptId) :
    ({ journal with
      events := Table.update selects
        (fun event => { event with acknowledgedAtMs := some now })
        journal.events } : Journal).Lacks attemptId := by
  refine ⟨lacks.attempts, lacks.segments, ?_, lacks.inserted⟩
  rw [filter_update (by intro event; rfl), lacks.events]
  rfl

theorem acknowledgeAlphaEvent_drifts :
    journal.DriftsBy (acknowledgeAlphaEvent surroundings eventId now) := by
  intro attemptId
  refine ⟨fun lacks => lacks.acknowledge, ?_⟩
  intro entry holds
  refine ⟨_, holds.acknowledge eventId, ?_⟩
  split_ifs
  · exact .refl
  · exact .single (.acknowledge eventId now)

theorem acknowledgeAlphaEvent_holds (holds : journal.Holds attemptId entry) :
    Finishes (acknowledgeAlphaEvent surroundings eventId now)
      (fun _ after => journal.Drifts after ∧ after.Holds attemptId
        (if surroundings.isTypedSubmit03 attemptId then entry
        else entry.acknowledge eventId now)) journal :=
  ⟨acknowledgeAlphaEvent_drifts, holds.acknowledge eventId⟩

theorem recordNoRadioProof_drifts (coherent : journal.Coherent) :
    journal.DriftsBy (recordNoRadioProof attemptId now fresh) := by
  rcases coherent attemptId with lacks | ⟨entry, holds⟩
  · unfold recordNoRadioProof
    simp only [leads_bind, leads_get, lacks.getAttempt]
    exact .refl
  · refine (recordNoRadioProof_turns holds).imp ?_
    exact fun _ _ turns => turns.drifts holds (.single (.prove now fresh))

end Drifts

/-! ## Operations -/

section Operations

variable {journal : Journal}

theorem consumeRadioStart_drifts :
    journal.DriftsBy (consumeRadioStart surroundings attemptId messageId subscriptionId
      segmentCount now) := by
  refine moveAttempts_drifts ?_
  intro _ entry _ selected
  simp only [Bool.and_eq_true, beq_iff_eq] at selected
  exact .start now selected.2

theorem markNoRadio_drifts (underWay : isUnderWay state) (coherent : journal.Coherent) :
    journal.DriftsBy (markNoRadio surroundings state attemptId now fresh) := by
  unfold markNoRadio
  simp only [leads_bind]
  refine Leads.imp (moveAttempts_drifts ?_) ?_
  · intro _ entry _ selected
    simp only [Bool.and_eq_true, beq_iff_eq] at selected
    refine .abandon now ?_
    rw [selected.1.2]
    exact underWay
  · intro changed middle drifts
    rw [leads_onlyIf]
    exact ⟨fun _ => drifts.followed coherent recordNoRadioProof_drifts, fun _ => drifts⟩

theorem retireAlphaIntent_drifts (coherent : journal.Coherent) :
    journal.DriftsBy (retireAlphaIntent surroundings now keepCurrent fresh event) := by
  unfold retireAlphaIntent
  simp only [leads_bind, leads_get]
  rcases coherent event.attemptId with lacks | ⟨entry, holds⟩
  · simp only [lacks.getAttempt]
    exact .refl
  · simp only [holds.getAttempt]
    rw [leads_ite]
    refine ⟨fun _ => .refl, fun _ => ?_⟩
    rw [leads_bind]
    have dropped : journal.DriftsBy (Transaction.onlyIf (entry.attempt.state = .reserved)
          (setState surroundings event.attemptId .notSubmitted now)) := by
      simp only [leads_onlyIf]
      exact ⟨fun reserved => setState_drifts holds (.drop now reserved), fun _ => .refl⟩
    refine dropped.imp ?_
    intro _ middle drifts
    rw [leads_bind]
    refine acknowledgeAlphaEvent_drifts.imp ?_
    intro _ later further
    rw [leads_bind, leads_refuse]
    refine ⟨fun _ => ?_, fun _ => trivial⟩
    exact (drifts.trans further).followed coherent recordNoRadioProof_drifts

theorem retireAlphaIntents_drifts (events : List AlphaRadioEvent) (coherent : journal.Coherent) :
    journal.DriftsBy (retireAlphaIntents surroundings now keepCurrent fresh events) := by
  induction events generalizing journal with
  | nil => exact .refl
  | cons event rest ih =>
    unfold retireAlphaIntents
    simp only [leads_bind]
    refine (retireAlphaIntent_drifts coherent).imp ?_
    exact fun _ middle drifts => drifts.followed coherent ih

theorem retireOrphanedAlphaIntents_drifts (coherent : journal.Coherent) :
    journal.DriftsBy (retireOrphanedAlphaIntents surroundings now excluded keepCurrent fresh) := by
  unfold retireOrphanedAlphaIntents
  simp only [leads_bind, leads_refuse]
  exact ⟨fun _ => retireAlphaIntents_drifts _ coherent, fun _ => trivial⟩

theorem acknowledgeAlphaIntent_drifts {eventId : Identifier} (coherent : journal.Coherent) :
    journal.DriftsBy (acknowledgeAlphaIntent surroundings eventId permitted now fresh) := by
  unfold acknowledgeAlphaIntent
  simp only [leads_bind, leads_get]
  cases journal.getAlphaEvent eventId with
  | none => exact .refl
  | some event =>
    simp only [leads_ite]
    refine ⟨fun _ => .refl, fun _ => ⟨fun _ => .refl, fun _ => ?_⟩⟩
    rcases coherent event.attemptId with lacks | ⟨entry, holds⟩
    · simp only [lacks.getAttempt]
      exact .refl
    simp only [holds.getAttempt, leads_ite, leads_bind]
    constructor
    · intro _
      refine acknowledgeAlphaEvent_drifts.imp ?_
      intro _ middle drifts
      rw [leads_onlyIf]
      exact ⟨fun _ => drifts.followed coherent recordNoRadioProof_drifts, fun _ => drifts⟩
    · intro unsettled
      have reserved : entry.attempt.state = .reserved := by
        by_contra different
        exact unsettled (.inl different)
      refine (acknowledgeAlphaEvent_holds holds).imp ?_
      rintro count middle ⟨drifts, holdsMiddle⟩
      have stillReserved : (if surroundings.isTypedSubmit03 event.attemptId
          then entry else entry.acknowledge eventId now).attempt.state = .reserved := by
        split_ifs
        exact reserved
      refine ⟨fun _ => drifts, fun _ => ⟨fun _ => ?_, fun _ => ?_⟩⟩
      · exact drifts.followed coherent fun _ =>
          setState_drifts holdsMiddle (.permit now stillReserved)
      · refine (setState_drifts holdsMiddle (.drop now stillReserved)).imp ?_
        intro _ dropped further
        exact (drifts.trans further).followed coherent recordNoRadioProof_drifts

theorem insertAttempt_leads (coherent : journal.Coherent) :
    Finishes (insertAttempt attempt) (fun _ after => journal.Lacks attempt.attemptId ∧
        after = { journal with attempts := journal.attempts ++ [attempt] }) journal := by
  unfold insertAttempt
  simp only [leads_bind, leads_get, leads_refuse]
  refine ⟨fun unused => ?_, fun _ => trivial⟩
  rw [leads_set]
  refine ⟨?_, rfl⟩
  rcases coherent attempt.attemptId with lacks | ⟨entry, holds⟩
  · exact lacks
  · have present := holds.mem_attempts.mpr rfl
    rw [List.any_eq_false] at unused
    exact absurd (beq_iff_eq.mpr present.2) (unused _ present.1)

theorem insertSegments_leads {segments : List SmsSegment} : Finishes (insertSegments segments)
      (fun _ after =>
        after = { journal with segments := journal.segments ++ segments }) journal := by
  unfold insertSegments
  simp only [leads_bind, leads_get, leads_refuse, leads_set, implies_true, and_self]

theorem insertAlphaEvent_leads : Finishes (insertAlphaEvent event)
      (fun _ after => after = { journal with
        events := journal.events ++ [event]
        inserted := journal.inserted ++ [event] }) journal := by
  unfold insertAlphaEvent
  simp only [leads_bind, leads_get, leads_refuse, leads_set, implies_true, and_self]

theorem checkApprovedSender_leads : Finishes (checkApprovedSender now approvedSenderToken)
      (fun _ after => after = journal) journal := by
  cases approvedSenderToken with
  | none => exact rfl
  | some token =>
    unfold checkApprovedSender
    simp only [leads_bind, leads_refuse, implies_true, and_self]

/-- The rows of a new attempt. -/
def added (journal : Journal) (entry : Entry) : Journal where
  attempts := journal.attempts ++ [entry.attempt]
  segments := journal.segments ++ entry.segments
  events := journal.events ++ entry.events
  inserted := journal.inserted ++ entry.inserted

/-- All rows of an entry are rows of its attempt. -/
structure Owned (attemptId : Identifier) (entry : Entry) : Prop where
  attempt : entry.attempt.attemptId = attemptId
  segments : ∀ segment ∈ entry.segments, segment.attemptId = attemptId
  events : ∀ event ∈ entry.events, event.attemptId = attemptId
  inserted : ∀ event ∈ entry.inserted, event.attemptId = attemptId

theorem Lacks.added (lacks : journal.Lacks attemptId)
    (owned : Owned attemptId entry) : journal.Turns attemptId entry (journal.added entry) := by
  have attempts : ∀ attempt ∈ [entry.attempt], attempt.attemptId = attemptId := by
    simpa using owned.attempt
  refine ⟨⟨?_, ?_, ?_, ?_⟩, fun other different => ⟨?_, ?_, ?_, ?_⟩⟩
  · exact filter_append_of_owned lacks.attempts attempts
  · exact filter_append_of_owned lacks.segments owned.segments
  · exact filter_append_of_owned lacks.events owned.events
  · exact filter_append_of_owned lacks.inserted owned.inserted
  · exact filter_append_of_other attempts different
  · exact filter_append_of_other owned.segments different
  · exact filter_append_of_other owned.events different
  · exact filter_append_of_other owned.inserted different

section Reservation

variable (attemptId messageId : Identifier) (subscriptionId segmentCount : Int)
  (intentEventId : Identifier) (now : Int) (identity : EvidenceIdentity)

/-- The entry of an attempt that was just reserved. -/
def reservedEntry : Entry :=
  let attempt := reservedAttempt attemptId messageId subscriptionId segmentCount now identity
  let intent := attempt.alphaEvent messageId intentEventId .durableSubmitIntent now
  { attempt, segments := blankSegments attemptId segmentCount
    events := [intent], inserted := [intent] }

variable {attemptId messageId subscriptionId segmentCount intentEventId now identity}

theorem reservedEntry_isNew (few : 1 ≤ segmentCount ∧ segmentCount ≤ 6) :
    (reservedEntry attemptId messageId subscriptionId segmentCount intentEventId
      now identity).IsNew :=
  ⟨rfl, rfl, rfl, few, rfl, messageId, intentEventId, now, rfl, rfl, rfl⟩

theorem reservedEntry_owned : Owned attemptId (reservedEntry attemptId messageId subscriptionId
      segmentCount intentEventId now identity) := by
  refine ⟨rfl, ?_, ?_, ?_⟩
  · intro segment present
    obtain ⟨_, -, rfl⟩ := List.mem_map.mp present
    rfl
  · intro event present
    rw [List.mem_singleton.mp present]
    rfl
  · intro event present
    rw [List.mem_singleton.mp present]
    rfl

/-- The rows that a reservation adds. -/
theorem reserveAlpha_leads_added (coherent : journal.Coherent) :
    Finishes (reserveAlpha surroundings attemptId messageId subscriptionId
        segmentCount intentEventId now approvedSenderToken identity)
      (fun _ after => journal.Lacks attemptId ∧ (1 ≤ segmentCount ∧ segmentCount ≤ 6) ∧
        after = journal.added (reservedEntry attemptId messageId subscriptionId
          segmentCount intentEventId now identity)) journal := by
  unfold reserveAlpha
  simp only [leads_bind, leads_refuse]
  refine ⟨fun _ => ⟨fun _ => ⟨fun few => ?_, ?_⟩, ?_⟩, ?_⟩
  · refine (insertAttempt_leads coherent).imp ?_
    rintro _ _ ⟨lacks, rfl⟩
    refine insertSegments_leads.imp ?_
    rintro _ _ rfl
    refine insertAlphaEvent_leads.imp ?_
    rintro _ _ rfl
    refine checkApprovedSender_leads.imp ?_
    rintro _ _ rfl
    exact ⟨lacks, by simpa using few, rfl⟩
  all_goals exact fun _ => trivial

theorem reserveAlpha_leads (coherent : journal.Coherent) :
    Finishes (reserveAlpha surroundings attemptId messageId subscriptionId
        segmentCount intentEventId now approvedSenderToken identity)
      (fun _ after => journal.Lacks attemptId ∧ ∃ entry : Entry,
        entry.IsNew ∧ journal.Turns attemptId entry after) journal := by
  refine (reserveAlpha_leads_added coherent).imp ?_
  rintro _ _ ⟨lacks, few, rfl⟩
  exact ⟨lacks, _, reservedEntry_isNew few, lacks.added reservedEntry_owned⟩

end Reservation

end Operations

/-! ## Runs -/

end Journal

/-- How an operation moves the entry of an attempt. -/
def Operation.Explains (attemptId : Identifier) (entry next : Entry) : Operation → Prop
  | .recordCallback target callback now fresh later =>
    next = entry ∨ attemptId = target ∧
      next = entry.recordCallback callback now fresh later
  | _ => entry.Drifts next

namespace Journal

/-- An operation moves the entries, and adds at most new ones. -/
def Evolves (journal : Journal) (operation : Operation) (after : Journal) : Prop := ∀ attemptId,
    (journal.Lacks attemptId → after.Lacks attemptId ∨
      ∃ entry, after.Holds attemptId entry ∧ entry.IsNew) ∧
    ∀ entry, journal.Holds attemptId entry → ∃ next, after.Holds attemptId next ∧
        operation.Explains attemptId entry next

section Runs

variable {journal : Journal}

theorem Evolves.of_drifts (explained : ∀ attemptId entry next, entry.Drifts next →
      operation.Explains attemptId entry next)
    (drifts : journal.Drifts after) : journal.Evolves operation after := by
  intro attemptId
  refine ⟨fun lacks => .inl ((drifts attemptId).1 lacks), ?_⟩
  intro entry holds
  obtain ⟨next, holdsNext, reached⟩ := (drifts attemptId).2 entry holds
  exact ⟨next, holdsNext, explained attemptId entry next reached⟩

theorem Evolves.of_commit {α : Type} {transaction : JournalTransaction α}
    (explained : ∀ attemptId entry next, entry.Drifts next →
      operation.Explains attemptId entry next)
    (leads : journal.DriftsBy transaction) :
    journal.Evolves operation (transaction.commit journal).2 :=
  .of_drifts explained (leads.commit .refl)

theorem Evolves.coherent (evolves : journal.Evolves operation after) (coherent : journal.Coherent) :
    after.Coherent := by
  intro attemptId
  rcases coherent attemptId with lacks | ⟨entry, holds⟩
  · rcases (evolves attemptId).1 lacks with still | ⟨entry, holds, -⟩
    · exact .inl still
    · exact .inr ⟨entry, holds⟩
  · obtain ⟨next, holdsNext, -⟩ := (evolves attemptId).2 entry holds
    exact .inr ⟨next, holdsNext⟩

theorem recordCallback_evolves (coherent : journal.Coherent) :
    Finishes (recordCallback surroundings target callback now fresh later)
      (fun _ after => journal.Evolves (.recordCallback target callback now fresh later) after)
      journal := by
  have unchanged : journal.Evolves (.recordCallback target callback now fresh later) journal := by
    intro attemptId
    exact ⟨.inl, fun entry holds => ⟨entry, holds, .inl rfl⟩⟩
  cases typed : surroundings.isTypedSubmit03 target with
  | true =>
    unfold recordCallback
    rw [typed, if_pos rfl]
    exact unchanged
  | false =>
    rcases coherent target with lacks | ⟨entry, holds⟩
    · unfold recordCallback
      rw [typed, if_neg Bool.false_ne_true]
      simp only [leads_bind, leads_get, lacks.getAttempt]
      exact unchanged
    refine (recordCallback_turns typed holds).imp ?_
    intro _ after turns attemptId
    by_cases isTarget : attemptId = target
    · subst isTarget
      refine ⟨fun lacks => absurd holds lacks.not_holds, ?_⟩
      intro held holdsHeld
      rw [holdsHeld.unique holds]
      exact ⟨_, turns.holds, .inr ⟨rfl, rfl⟩⟩
    · have agrees := turns.others attemptId isTarget
      exact ⟨fun lacks => .inl (lacks.agrees agrees), fun held holdsHeld =>
          ⟨held, holdsHeld.agrees agrees, .inl rfl⟩⟩

theorem reserveAlpha_evolves (coherent : journal.Coherent) :
    Finishes (reserveAlpha surroundings target messageId subscriptionId
        segmentCount intentEventId now approvedSenderToken identity)
      (fun _ after => journal.Evolves (.reserveAlpha target messageId subscriptionId segmentCount
          intentEventId now approvedSenderToken identity) after) journal := by
  refine (reserveAlpha_leads coherent).imp ?_
  rintro _ after ⟨lacks, entry, isNew, turns⟩ attemptId
  by_cases isTarget : attemptId = target
  · subst isTarget
    exact ⟨fun _ => .inr ⟨entry, turns.holds, isNew⟩,
      fun held holdsHeld => absurd holdsHeld lacks.not_holds⟩
  · have agrees := turns.others attemptId isTarget
    exact ⟨fun lacks => .inl (lacks.agrees agrees),
      fun held holdsHeld => ⟨held, holdsHeld.agrees agrees, .refl⟩⟩

theorem perform_evolves (coherent : journal.Coherent) (surroundings : Surroundings)
    (operation : Operation) :
    journal.Evolves operation (journal.perform surroundings operation) := by
  cases operation with
  | reserveAlpha =>
    refine (reserveAlpha_evolves coherent).commit ?_
    exact .of_drifts (fun _ _ _ => id) .refl
  | recordCallback =>
    refine (recordCallback_evolves coherent).commit ?_
    exact fun _ => ⟨.inl, fun entry holds => ⟨entry, holds, .inl rfl⟩⟩
  | acknowledgeAlphaIntent =>
    exact .of_commit (fun _ _ _ => id) (acknowledgeAlphaIntent_drifts coherent)
  | consumeRadioStart =>
    exact .of_commit (fun _ _ _ => id) consumeRadioStart_drifts
  | markAcknowledgedNoRadio | markPreflightNoRadio =>
    exact .of_commit (fun _ _ _ => id) (markNoRadio_drifts rfl coherent)
  | retireOrphanedAlphaIntents =>
    exact .of_commit (fun _ _ _ => id) (retireOrphanedAlphaIntents_drifts coherent)
  | markInterrupted now =>
    refine .of_commit (fun _ _ _ => id) (moveAttempts_drifts ?_)
    exact fun _ _ _ underWay => .interrupt now underWay
  | markUnsentReservations now =>
    refine .of_commit (fun _ _ _ => id) (moveAttempts_drifts ?_)
    exact fun _ _ _ reserved => .drop now (beq_iff_eq.mp reserved)
  | markStalledSubmission _ now =>
    refine .of_commit (fun _ _ _ => id) (moveAttempts_drifts ?_)
    exact fun _ _ _ selected =>
      .interrupt now (Bool.and_eq_true_iff.mp selected).2
  | markTimedOutDeliveries _ now =>
    refine .of_commit (fun _ _ _ => id) (moveAttempts_drifts ?_)
    exact fun _ _ _ selected =>
      .timeOut now (beq_iff_eq.mp (Bool.and_eq_true_iff.mp selected).1)
  | acknowledgeAlphaEvent =>
    exact .of_commit (fun _ _ _ => id) acknowledgeAlphaEvent_drifts

theorem empty_lacks (attemptId : Identifier) : Journal.empty.Lacks attemptId := ⟨rfl, rfl, rfl, rfl⟩

theorem run_coherent (coherent : journal.Coherent) (steps : List Step) :
    (journal.run steps).Coherent := by
  induction steps generalizing journal with
  | nil => exact coherent
  | cons step rest ih =>
    exact ih ((perform_evolves coherent step.1 step.2).coherent coherent)

end Runs

end Journal

theorem Operation.Explains.reaches {operation : Operation}
    (explained : operation.Explains attemptId entry next) :
    entry.Reaches next := by
  cases operation with
  | recordCallback target callback now fresh later =>
    rcases explained with rfl | ⟨-, rfl⟩
    · exact .refl
    · exact .single (.callback callback now fresh later)
  | _ => exact Entry.Drifts.reaches explained

namespace Journal

variable {journal : Journal}

theorem run_reaches (coherent : journal.Coherent) (holds : journal.Holds attemptId entry)
    (steps : List Step) :
    ∃ next, (journal.run steps).Holds attemptId next ∧ entry.Reaches next := by
  induction steps generalizing journal entry with
  | nil => exact ⟨entry, holds, .refl⟩
  | cons step rest ih =>
    have evolves := perform_evolves coherent step.1 step.2
    obtain ⟨middle, holdsMiddle, explained⟩ := (evolves attemptId).2 entry holds
    obtain ⟨next, holdsNext, reached⟩ := ih (evolves.coherent coherent) holdsMiddle
    exact ⟨next, holdsNext, explained.reaches.trans reached⟩

/-- Every entry of a run that began with nothing grew out of a new one. -/
theorem run_entries (coherent : journal.Coherent) (lacks : journal.Lacks attemptId)
    (steps : List Step) : (journal.run steps).Lacks attemptId ∨
      ∃ first entry : Entry, first.IsNew ∧ first.Reaches entry ∧
        (journal.run steps).Holds attemptId entry := by
  induction steps generalizing journal with
  | nil => exact .inl lacks
  | cons step rest ih =>
    have evolves := perform_evolves coherent step.1 step.2
    have coherentNext := evolves.coherent coherent
    rcases (evolves attemptId).1 lacks with still | ⟨first, holds, isNew⟩
    · exact ih coherentNext still
    · obtain ⟨entry, holdsEntry, reached⟩ := run_reaches coherentNext holds rest
      exact .inr ⟨first, entry, isNew, reached, holdsEntry⟩

theorem empty_coherent : Journal.empty.Coherent := fun attemptId => .inl (empty_lacks attemptId)

end Journal

/-- What new entries satisfy and steps keep holds of all entries. -/
theorem Entry.Reaches.preserved {property : Entry → Prop}
    (kept : ∀ current next, property current → current.Step next → property next)
    (holds : property first) (reached : first.Reaches entry) : property entry := by
  induction reached with
  | refl => exact holds
  | tail _ step ih => exact kept _ _ ih step

end Zrotext.Phone
