import Zrotext.Phone.Evolution

/-!
# A journal with one attempt

The operations on a journal that knows a single attempt, from its reservation
to its radio start.  The identifiers of its events are distinct, because the
table of events refuses an identifier that is taken.
-/

namespace Zrotext.Phone

open Foundation Foundation.Transaction List

/-- No two events share an identifier. -/
def Journal.Distinct (journal : Journal) : Prop := (journal.events.map (·.eventId)).Nodup

/-- A transaction that leaves the events distinct. -/
def KeepsDistinct {α : Type} (transaction : JournalTransaction α) : Prop :=
  ∀ journal : Journal, journal.Distinct →
    Finishes transaction (fun _ after => after.Distinct) journal

namespace KeepsDistinct

variable {α β : Type}

theorem pure (value : α) : KeepsDistinct (Pure.pure value : JournalTransaction α) :=
  fun _ distinct => distinct

theorem bind (first : KeepsDistinct transaction)
    (second : ∀ value, KeepsDistinct (continuation value)) :
    KeepsDistinct (transaction >>= continuation) := by
  intro journal distinct
  simp only [leads_bind]
  exact (first journal distinct).imp (fun value after kept => second value after kept)

theorem read (keeps : ∀ journal, KeepsDistinct (continuation journal)) :
    KeepsDistinct (get >>= continuation) :=
  fun journal distinct => keeps journal journal distinct

theorem ite [Decidable condition] (keepsFirst : KeepsDistinct first)
    (keepsSecond : KeepsDistinct second) :
    KeepsDistinct (if condition then first else second) := by
  split_ifs
  · exact keepsFirst
  · exact keepsSecond

theorem updateAttempts (selects : SmsAttempt → Bool) (change : SmsAttempt → SmsAttempt) :
    KeepsDistinct (Phone.updateAttempts selects change) :=
  fun _ distinct => distinct

theorem updateSegments (selects : SmsSegment → Bool) (change : SmsSegment → SmsSegment) :
    KeepsDistinct (Phone.updateSegments selects change) :=
  fun _ distinct => distinct

theorem insertAlphaEvent (event : AlphaRadioEvent) :
    KeepsDistinct (Phone.insertAlphaEvent event) := by
  intro journal distinct
  unfold Phone.insertAlphaEvent
  simp only [leads_bind, leads_get, leads_refuse, leads_set, implies_true, and_true]
  intro unused
  unfold Journal.Distinct
  rw [map_append, nodup_append_comm]
  refine nodup_cons.mpr ⟨fun taken => ?_, distinct⟩
  obtain ⟨other, listed, same⟩ := mem_map.mp taken
  exact any_eq_false.mp unused other listed (beq_iff_eq.mpr same)

theorem removePendingNoRadioProof (attemptId : Identifier) :
    KeepsDistinct (Phone.removePendingNoRadioProof attemptId) :=
  fun _ distinct => distinct.sublist (filter_sublist.map _)

theorem recordConflict : KeepsDistinct (Phone.recordConflict surroundings attempt now fresh) := by
  refine bind (updateAttempts _ _) fun marked => ite (pure _) ?_
  cases attempt.messageId with
  | none => exact pure _
  | some messageId =>
    exact bind (removePendingNoRadioProof _) fun _ => insertAlphaEvent _

theorem reportCallback {next : AttemptState} : KeepsDistinct
      (Phone.reportCallback attempt callback next now fresh later) := by
  unfold Phone.reportCallback
  cases attempt.messageId with
  | none => exact pure _
  | some messageId =>
    exact bind (ite (insertAlphaEvent _) (pure _)) fun _ =>
      ite (insertAlphaEvent _) (pure _)

theorem storeCallback : KeepsDistinct (Phone.storeCallback surroundings attempt callback now fresh
      later) := by
  refine bind (ite (updateSegments _ _) (updateSegments _ _)) fun changed =>
    ite (pure _) (read fun journal => ite recordConflict ?_)
  exact bind reportCallback fun _ => bind (updateAttempts _ _) fun _ => pure _

theorem recordCallback :
    KeepsDistinct (Phone.recordCallback surroundings attemptId callback now fresh later) := by
  refine ite (pure _) (read fun journal => ?_)
  cases journal.getAttempt attemptId with
  | none => exact pure _
  | some attempt =>
    refine ite (pure _) ?_
    cases journal.getSegment attemptId callback.index with
    | none => exact recordConflict
    | some segment =>
      simp only
      cases callback.decision segment with
      | ignore => exact ite recordConflict (pure _)
      | conflict => exact recordConflict
      | store => exact storeCallback

end KeepsDistinct

namespace Journal

/-- The journal knows one attempt and nothing else. -/
structure Alone (journal : Journal) (attemptId : Identifier) (entry : Entry) : Prop where
  holds : journal.Holds attemptId entry
  others : ∀ other, other ≠ attemptId → journal.Lacks other
  distinct : journal.Distinct

namespace Alone

variable {journal after : Journal}

section

variable (alone : journal.Alone attemptId entry)

include alone

theorem attempts : journal.attempts = [entry.attempt] :=
  Table.eq_part alone.holds.attempts fun other different => (alone.others other different).attempts

theorem events : journal.events = entry.events :=
  Table.eq_part alone.holds.events fun other different => (alone.others other different).events

theorem turns {next : Entry} (turns : journal.Turns attemptId next after)
    (distinct : after.Distinct) : after.Alone attemptId next :=
  ⟨turns.holds, fun other different =>
    (alone.others other different).agrees (turns.others other different),
    distinct⟩

theorem updateAttempts (keeps : ∀ attempt, (change attempt).attemptId = attempt.attemptId)
    (selects : SmsAttempt → Bool) :
    Finishes (Phone.updateAttempts selects change) (fun count after =>
        selects entry.attempt = false ∧ count = 0 ∧ after.Alone attemptId entry ∨
          selects entry.attempt ∧ count = 1 ∧ after.Alone attemptId
              { entry with attempt := change entry.attempt }) journal := by
  have moved : Holds
      { journal with
        attempts := Table.update selects change journal.attempts }
      attemptId (changed selects change entry) :=
    alone.holds.updateAttempts keeps
  have others : ∀ other, other ≠ attemptId → Lacks
      { journal with
        attempts := Table.update selects change journal.attempts } other :=
    fun other different => (alone.others other different).updateAttempts keeps
  have count : journal.attempts.countP selects =
      if selects entry.attempt then 1 else 0 := by
    rw [alone.attempts, countP_singleton]
  unfold Phone.updateAttempts
  simp only [leads_bind, leads_get, leads_set, leads_pure, count]
  cases selected : selects entry.attempt with
  | false =>
    have same : changed selects change entry = entry := by
      unfold changed
      rw [selected, if_neg Bool.false_ne_true]
    rw [same] at moved
    exact .inl ⟨rfl, rfl, moved, others, alone.distinct⟩
  | true =>
    have isChanged : changed selects change entry =
        { entry with attempt := change entry.attempt } := by
      unfold changed
      rw [selected, if_pos rfl]
    rw [isChanged] at moved
    exact .inr ⟨rfl, rfl, moved, others, alone.distinct⟩

theorem moveAttempts (selects : SmsAttempt → Bool)
    (state : AttemptState) : Finishes (Phone.moveAttempts surroundings selects state now)
      (fun count after =>
        count = 0 ∧ after.Alone attemptId entry ∨ selects entry.attempt ∧
            after.Alone attemptId (entry.moveTo state now)) journal := by
  refine (alone.updateAttempts (by intro attempt; rfl) _).imp ?_
  rintro count after (⟨-, isCount, kept⟩ | ⟨selected, -, moved⟩)
  · exact .inl ⟨isCount, kept⟩
  · exact .inr ⟨(Bool.and_eq_true_iff.mp selected).2, moved⟩

/-- An acknowledgement reaches the events of the attempt, or none. -/
theorem acknowledgeAlphaEvent (eventId : Identifier) :
    Finishes (Phone.acknowledgeAlphaEvent surroundings eventId now)
      (fun _ after => after.Alone attemptId (if surroundings.isTypedSubmit03 attemptId then entry
        else entry.acknowledge eventId now)) journal := by
  refine ⟨alone.holds.acknowledge eventId, ?_, ?_⟩
  · exact fun other different => (alone.others other different).acknowledge
  · refine (congrArg List.Nodup (Table.map_update AlphaRadioEvent.eventId ?_ _)).mpr alone.distinct
    intro event
    rfl

theorem setState (untyped : surroundings.isTypedSubmit03 attemptId = false) (state : AttemptState) :
    Finishes (Phone.setState surroundings attemptId state now)
      (fun _ after => after.Alone attemptId (entry.moveTo state now)) journal := by
  unfold Phone.setState
  simp only [leads_bind]
  refine (alone.updateAttempts (by intro attempt; rfl) _).imp ?_
  rintro count after (⟨unselected, -⟩ | ⟨-, -, moved⟩)
  · simp [alone.holds.owner, untyped] at unselected
  · exact moved

/-- The attempt may start once its intent was permitted. -/
theorem acknowledgeAlphaIntent (eventId : Identifier) :
    Finishes (Phone.acknowledgeAlphaIntent surroundings eventId true now fresh)
      (fun permitted after => permitted = true → after.Alone attemptId
        ((entry.acknowledge eventId now).moveTo .submitting now)) journal := by
  unfold Phone.acknowledgeAlphaIntent
  simp only [leads_bind, leads_get]
  cases found : journal.getAlphaEvent eventId with
  | none => exact fun wrong => absurd wrong Bool.false_ne_true
  | some event =>
    have isOwn : event.attemptId = attemptId := by
      have present := mem_of_find?_eq_some found
      rw [alone.events] at present
      exact (alone.holds.mem_events.mp present).2
    simp only [isOwn, alone.holds.getAttempt, leads_ite, leads_pure,
      Bool.false_eq_true, false_implies, implies_true, true_and]
    intro untyped _
    rw [Bool.not_eq_true] at untyped
    constructor
    · intro _
      rw [leads_bind]
      refine (Leads.of_fact trivial _).imp ?_
      intro _ _ _
      rw [leads_bind]
      refine (Leads.of_fact trivial _).imp ?_
      exact fun _ _ _ refused => absurd refused Bool.false_ne_true
    · intro _
      rw [leads_bind]
      refine (alone.acknowledgeAlphaEvent eventId).imp ?_
      intro count middle acknowledged
      rw [untyped, if_neg Bool.false_ne_true] at acknowledged
      simp only [leads_ite, leads_pure, leads_bind, if_true]
      refine ⟨fun _ refused => absurd refused Bool.false_ne_true, ?_⟩
      intro _
      exact (acknowledged.setState untyped .submitting).imp (fun _ _ moved _ => moved)

theorem consumeRadioStart :
    Finishes (Phone.consumeRadioStart surroundings attemptId messageId subscriptionId
        segmentCount now)
      (fun count after => count = 1 → after.Alone attemptId (entry.moveTo .radioStarted now))
      journal := by
  refine (alone.moveAttempts _ .radioStarted).imp ?_
  rintro count after (⟨isCount, -⟩ | ⟨-, moved⟩) started
  · omega
  · exact moved

end

theorem reserveAlpha : Finishes (Phone.reserveAlpha surroundings attemptId messageId subscriptionId
        segmentCount intentEventId now approvedSenderToken identity)
      (fun _ after => (1 ≤ segmentCount ∧ segmentCount ≤ 6) ∧
        after.Alone attemptId (reservedEntry attemptId messageId subscriptionId
          segmentCount intentEventId now identity)) Journal.empty := by
  refine (reserveAlpha_leads_added empty_coherent).imp ?_
  rintro _ _ ⟨lacks, few, rfl⟩
  have turns : Journal.empty.Turns attemptId
      (reservedEntry attemptId messageId subscriptionId segmentCount
        intentEventId now identity) _ := lacks.added reservedEntry_owned
  refine ⟨few, turns.holds, fun other different => ?_, ?_⟩
  · exact (empty_lacks other).agrees (turns.others other different)
  · exact nodup_singleton _

/-- A callback is recorded in the entry of the attempt, or nowhere. -/
theorem recordCallback (alone : journal.Alone attemptId entry) :
    Finishes (Phone.recordCallback surroundings attemptId callback now fresh later)
      (fun _ after => after.Alone attemptId entry ∨ after.Alone attemptId
        (entry.recordCallback callback now fresh later)) journal := by
  cases typed : surroundings.isTypedSubmit03 attemptId with
  | true =>
    unfold Phone.recordCallback
    rw [typed, if_pos rfl]
    exact .inl alone
  | false =>
    refine ((recordCallback_turns typed alone.holds).and
      (KeepsDistinct.recordCallback journal alone.distinct)).imp ?_
    rintro _ after ⟨turns, distinct⟩
    exact .inr (alone.turns turns distinct)

end Alone

end Journal

end Zrotext.Phone
