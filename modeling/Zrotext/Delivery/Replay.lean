import Zrotext.Delivery.Upload

/-!
# Reports that are uploaded again

A report that was accepted is answered in the same way ever after, whatever
happens in between, and its repetition changes nothing.  An attempt that is
proved not to have been submitted takes no further report.
-/

namespace Zrotext.Delivery

open Domain Foundation Transaction List

variable {after : Tables}

/-- A report is on record, with the state that it led to. -/
structure Tables.Answers (deployment : Deployment) (event : RadioEvent) (state : MessageState)
    (tables : Tables) : Prop where
  entered : deployment.hostedEntry = true
  wellFormed : malformedRadioEvent event = false
  stored : ∃ code, evidenceCode event.evidence = some code ∧
    ∃ row ∈ tables.events, row.id = event.eventId ∧
      row.eventDigest = radioEventDigest deployment event code ∧
      row.resultingState = state
  owned : ∃ record, tables.Holds event.messageId record ∧ record.message.accountId = event.accountId

theorem Effect.events_kept (effect : Effect deployment directory tables after)
    (present : row ∈ tables.events) : row ∈ after.events := by
  cases effect with
  | reserved | connected | claimed | closed | granted => exact present
  | released | followed | silenced | timedOut =>
    exact mem_append_left _ present

theorem owner_preserved (messageId accountId : Uuid) : Preserved deployment fun tables => ∃ record,
      tables.Holds messageId record ∧ record.message.accountId = accountId :=
  .of_record (fun _ owner step => by cases step <;> exact owner) messageId

theorem Tables.Answers.preserved (event : RadioEvent) (state : MessageState) :
    Preserved deployment (Tables.Answers deployment event state) := by
  have owners : Preserved deployment _ := owner_preserved event.messageId event.accountId
  constructor
  · intro clock key tables after coherent answers arrival
    refine ⟨answers.entered, answers.wellFormed, ?_, owners.arrival coherent answers.owned arrival⟩
    cases arrival with
    | known | created => exact answers.stored
  · intro directory tables after coherent answers effect
    obtain ⟨code, isCode, row, present, isRow⟩ := answers.stored
    exact ⟨answers.entered, answers.wellFormed,
      ⟨code, isCode, row, effect.events_kept present, isRow⟩,
      owners.effect coherent answers.owned effect⟩
  · intro tables sites limits answers
    exact ⟨answers.entered, answers.wellFormed, answers.stored,
      owners.administered sites limits answers.owned⟩

/-- A report on record is answered without any change. -/
theorem Tables.Answers.leads (answers : tables.Answers deployment event state)
    (coherent : tables.Coherent) : Leads (recordRadioEvent deployment directory clock event)
      (fun value after => value = state ∧ after = tables) (fun _ _ => False) tables := by
  obtain ⟨code, isCode, row, present, isId, isDigest, isState⟩ := answers.stored
  obtain ⟨record, holds, owner⟩ := answers.owned
  have found : tables.events.find? (·.id == event.eventId) = some row := by
    cases found : tables.events.find? (·.id == event.eventId) with
    | none =>
      exact absurd (find?_eq_none.mp found row present) (by simp [isId])
    | some other =>
      have unique := coherent.eventsUnique _ mem_cons_self
      have isOther := find?_some found
      simp only [beq_iff_eq] at isOther
      exact congrArg some (Table.Unique.eq_of_key unique
        (mem_of_find?_eq_some found) present (congrArg some isOther)
        (congrArg some isId))
  have isMessage : radioMessage directory tables event = .ok record.message :=
    radioMessage_of_record holds (coherent.sound holds) owner
  unfold recordRadioEvent
  simp only [leads_bind, leads_demand, leads_refuse,
    leads_enterHostedTransaction, leads_get, leads_compute, isCode, isMessage,
    answers.wellFormed, answers.entered, found, leads_pure, isDigest, isState,
    Option.some.injEq, Except.ok.injEq, forall_eq', reduceCtorEq,
    true_implies, implies_true, and_true, bne_self_eq_false,
    Bool.false_eq_true, and_self, imp_self]

theorem Recorded.answers (recorded : Recorded deployment directory event tables state after)
    (coherent : tables.Coherent) (entered : deployment.hostedEntry) :
    after.Answers deployment event state := by
  cases recorded with
  | known isCode wellFormed found present isId isDigest =>
    obtain ⟨stored, owner, named⟩ := radioMessage_eq_ok found
    obtain ⟨record, holds, _, rfl⟩ := coherent.record_of_message stored
    exact ⟨entered, wellFormed, ⟨_, isCode, _, present, isId, isDigest, rfl⟩,
      record, named ▸ holds, owner⟩
  | @fresh code current _ _ recording appended effect =>
    obtain ⟨message, stored, owner, named, _⟩ := recording.message
    obtain ⟨record, holds, _, rfl⟩ := coherent.record_of_message stored
    refine ⟨entered, recording.wellFormed, ⟨code, recording.isCode,
      eventRow deployment event code state, ?_, rfl, rfl, rfl⟩, ?_⟩
    · rw [appended]
      exact mem_append_right _ (mem_singleton_self _)
    · exact (owner_preserved _ _).effect coherent ⟨record, named ▸ holds, owner⟩ effect

namespace World

/-- Whether a report would be accepted. -/
def accepts (deployment : Deployment) (world : World) (clock : Clock) (event : RadioEvent) : Bool :=
  ((recordRadioEvent deployment world.directory clock event).commit world.tables).1.isOk

/-- The steps of a run without the uploads of reports that were accepted
before. -/
def withoutRepeats (deployment : Deployment) (world : World)
    (accepted : List RadioEvent) : List Step → List Step
  | [] => []
  | next :: rest =>
    match next with
    | .recordRadioEvent clock event =>
      if event ∈ accepted then
        withoutRepeats deployment (world.step deployment next) accepted rest
      else if world.accepts deployment clock event then
        next :: withoutRepeats deployment (world.step deployment next) (event :: accepted) rest
      else
        next :: withoutRepeats deployment (world.step deployment next) accepted rest
    | _ =>
      next :: withoutRepeats deployment (world.step deployment next) accepted rest

variable {world : World}

section

variable (coherent : world.tables.Coherent)

include coherent

/-- A report on record is answered as it was. -/
theorem replay_eq (answers : world.tables.Answers deployment event state) (clock : Clock) :
    (recordRadioEvent deployment world.directory clock event).commit
      world.tables = (.ok state, world.tables) := by
  obtain ⟨value, isOk, rfl, unchanged⟩ :=
    (answers.leads coherent).succeeds fun _ _ impossible => impossible
  exact Prod.ext isOk unchanged

theorem step_repeat (answers : world.tables.Answers deployment event state) (clock : Clock) :
    world.step deployment (.recordRadioEvent clock event) = world := by
  have unchanged := congrArg Prod.snd (replay_eq coherent answers clock)
  change World.mk world.directory _ = world
  rw [World.tablesAfter, unchanged]

theorem answers_of_accepted (accepted : ((recordRadioEvent deployment world.directory clock
      event).commit world.tables).1 = .ok state) :
    (world.step deployment (.recordRadioEvent clock event)).tables.Answers
      deployment event state := by
  obtain ⟨entered, recorded⟩ := (recordRadioEvent_leads_recorded event).of_commit accepted
  exact recorded.answers coherent entered

theorem exists_answers_of_accepts (accepted : world.accepts deployment clock event) :
    ∃ state, (world.step deployment (.recordRadioEvent clock event)).tables.Answers
      deployment event state := by
  unfold accepts at accepted
  cases result : ((recordRadioEvent deployment world.directory clock
      event).commit world.tables).1 with
  | ok state => exact ⟨state, answers_of_accepted coherent result⟩
  | error failure =>
    rw [result] at accepted
    cases accepted

/-- Leaving the repetitions out of a run does not change where it ends. -/
theorem run_withoutRepeats (answers : ∀ event ∈ accepted, ∃ state, world.tables.Answers deployment
    event state)
    (steps : List Step) : world.run deployment (world.withoutRepeats deployment accepted steps) =
      world.run deployment steps := by
  induction steps generalizing world accepted with
  | nil => rfl
  | cons next rest ih =>
    have nextCoherent : (world.step deployment next).tables.Coherent :=
      World.step_coherent coherent next
    have nextAnswers : ∀ event ∈ accepted, ∃ state,
        (world.step deployment next).tables.Answers deployment event
          state := by
      intro event listed
      obtain ⟨state, answered⟩ := answers event listed
      exact ⟨state, ((Tables.Answers.preserved event state).step world next ⟨coherent, answered⟩).2⟩
    cases next with
    | recordRadioEvent clock event =>
      unfold withoutRepeats
      simp only
      split_ifs with known isAccepted
      · obtain ⟨state, answered⟩ := answers event known
        have unchanged := step_repeat coherent answered clock
        rw [unchanged] at nextCoherent nextAnswers ⊢
        refine (ih nextCoherent nextAnswers).trans ?_
        change _ = (world.step deployment _).run deployment rest
        rw [unchanged]
      · refine ih nextCoherent (forall_mem_cons.mpr ⟨?_, nextAnswers⟩)
        exact exists_answers_of_accepts coherent isAccepted
      · exact ih nextCoherent nextAnswers
    | _ => exact ih nextCoherent nextAnswers

end

end World

namespace Record

variable {record : Record}

/-- An attempt is proved not to have been submitted. -/
def Disproves (attemptId : Uuid) (record : Record) : Prop :=
  ∃ attempt ∈ record.attempts, attempt.id = attemptId ∧ attempt.status = .provedNoSubmit

theorem fencedOutcome_ne_provedNoSubmit (state : MessageState) :
    fencedOutcome state ≠ some .provedNoSubmit := by
  cases state <;> rintro ⟨⟩

/-- Such an attempt holds no fence. -/
theorem Disproves.unfenced (disproves : record.Disproves attemptId) (coherent : record.Coherent)
    {fence : DispatchFence} (isFence : record.fence = some fence) :
    fence.attemptId ≠ attemptId := by
  intro isHolder
  obtain ⟨attempt, listed, isAttempt, isStatus⟩ := disproves
  have outcome := coherent.fenced fence isFence
  rw [← coherent.holderStatus fence isFence attempt listed
    (isAttempt.trans isHolder.symm), isStatus] at outcome
  exact fencedOutcome_ne_provedNoSubmit _ outcome

theorem Disproves.become {attempts : List MessageAttempt} {id : Uuid} (different : id ≠ attemptId)
    (disproved : ∃ attempt ∈ attempts, attempt.id = attemptId ∧ attempt.status = .provedNoSubmit) :
    ∃ attempt ∈ Table.update (·.id == id) (MessageAttempt.become status time)
      attempts, attempt.id = attemptId ∧ attempt.status = .provedNoSubmit := by
  obtain ⟨attempt, listed, isAttempt, isStatus⟩ := disproved
  refine ⟨attempt, Table.mem_update_iff.mpr (.inl ⟨listed, ?_⟩), isAttempt, isStatus⟩
  rw [beq_eq_false_iff_ne, isAttempt]
  exact different.symm

theorem Disproves.step {next : Record} (coherent : record.Coherent)
    (disproves : record.Disproves attemptId)
    (step : record.Step deployment next) : next.Disproves attemptId := by
  cases step with
  | reserve | claim | close | timeOut => exact disproves
  | grant =>
    obtain ⟨attempt, listed, isProved⟩ := disproves
    exact ⟨attempt, mem_append_left _ listed, isProved⟩
  | release reports | follow reports =>
    exact Disproves.become (reports.holder ▸ disproves.unfenced coherent reports.fenced) disproves
  | silence isFence _ isHolder =>
    exact Disproves.become (isHolder ▸ disproves.unfenced coherent isFence) disproves

end Record

/-- No new report is accepted for an attempt that was not submitted. -/
theorem Record.Disproves.refused {record : Record} (disproves : record.Disproves attemptId)
    (coherent : tables.Coherent)
    (holds : tables.Holds messageId record)
    (unrecorded : ∀ other ∈ tables.events, other.id ≠ event.eventId)
    (isAttempt : event.attemptId = attemptId) :
    Finishes (recordRadioEvent deployment directory clock event) (fun _ _ => False) tables := by
  refine (recordRadioEvent_leads_recorded event).imp ?_
  rintro _ after ⟨_, recorded⟩
  cases recorded with
  | known _ _ _ present isId => exact unrecorded _ present isId
  | fresh recording =>
    obtain ⟨fence, present, isHolder, _⟩ := recording.fence
    obtain ⟨own, ownHolds, sound, isFence⟩ := coherent.record_of_fence present
    obtain ⟨attempt, listed, isId, isStatus⟩ := disproves
    obtain ⟨holder, held, isHeld⟩ := sound.holder fence isFence
    have same : attempt = holder := by
      refine coherent.attempt_eq (holds.mem_attempts.mp listed).1
        (ownHolds.mem_attempts.mp held).1 ?_
      rw [isId, isHeld, isHolder, isAttempt]
    have sameMessage : fence.messageId = messageId := by
      rw [← (ownHolds.mem_attempts.mp held).2, ← same, (holds.mem_attempts.mp listed).2]
    obtain rfl := holds.eq (sameMessage ▸ ownHolds)
    exact Disproves.unfenced ⟨attempt, listed, isId, isStatus⟩ sound isFence
      (isHolder.trans isAttempt)

/-- In every run, a report that was accepted is answered in the same way ever
after and its repetition changes nothing; the run without all repetitions ends
in the same tables; and once an attempt is proved not to have been submitted,
no new report of it changes the tables. -/
theorem repeated_uploads_change_nothing (deployment : Deployment) (directory : Directory)
    (steps : List Step) : (∀ earlier clock event state middle again,
      let first := (World.start directory).run deployment earlier
      let world := (World.start directory).run deployment
        (earlier ++ .recordRadioEvent clock event :: middle)
      ((recordRadioEvent deployment first.directory clock event).commit
        first.tables).1 = .ok state →
      (recordRadioEvent deployment world.directory again event).commit
        world.tables = (.ok state, world.tables)) ∧
    ((World.start directory).run deployment
        ((World.start directory).withoutRepeats deployment [] steps)).tables =
      ((World.start directory).run deployment steps).tables ∧
    ∀ attempt ∈ ((World.start directory).run deployment steps).tables.attempts,
      attempt.status = .provedNoSubmit →
      ∀ later clock event,
        let world := (World.start directory).run deployment (steps ++ later)
        event.attemptId = attempt.id →
        (∀ other ∈ world.tables.events, other.id ≠ event.eventId) →
        ((recordRadioEvent deployment world.directory clock event).commit
          world.tables).2 = world.tables := by
  refine ⟨?_, ?_, ?_⟩
  · intro earlier clock event state middle again first world accepted
    have coherent : first.tables.Coherent := World.run_coherent deployment directory earlier
    have answered := World.answers_of_accepted coherent accepted
    have kept := (Tables.Answers.preserved event state).run
      (World.step_coherent coherent (.recordRadioEvent clock event)) answered
      middle
    have isWorld : world = (first.step deployment
        (.recordRadioEvent clock event)).run deployment middle :=
      World.run_append deployment _ earlier _
    rw [← isWorld] at kept
    exact World.replay_eq kept.1 kept.2 again
  · refine congrArg World.tables (World.run_withoutRepeats Tables.empty_coherent ?_ steps)
    rintro _ ⟨⟩
  · intro attempt listed isStatus later clock event world isAttempt unrecorded
    have coherent := World.run_coherent deployment directory steps
    obtain ⟨record, holds, _⟩ := coherent.record_of listed fun _ lacks => lacks.attempts
    have disproves : record.Disproves attempt.id :=
      ⟨attempt, holds.mem_attempts.mpr ⟨listed, rfl⟩, rfl, isStatus⟩
    obtain ⟨afterCoherent, next, nextHolds, nextDisproves⟩ :=
      (Preserved.of_record Record.Disproves.step attempt.messageId).run coherent
        ⟨record, holds, disproves⟩ later
    rw [← World.run_append] at afterCoherent nextHolds
    have unchanged : Finishes (recordRadioEvent deployment world.directory clock
        event) (fun _ after => after = world.tables)
        world.tables :=
      (nextDisproves.refused afterCoherent nextHolds unrecorded isAttempt).imp
        (fun _ _ impossible => impossible.elim)
    exact unchanged.commit rfl

/-- What comes of an upload of the callback of the first message. -/
def Drill.upload (second : Int) (steps : List Step) : Except StoreError MessageState :=
  ((recordRadioEvent deployment directory (clock second)
    (callback 31 10 20 .sentCallbackOk)).commit (tablesAfter steps)).1

/-- The callback of the first message is uploaded again after the second one
was granted. -/
theorem repeated_uploads_change_nothing_drill :
    Drill.upload 103 (Drill.sending.take 5) = .ok .submitted ∧
      Drill.upload 200 Drill.sendingTwo = .ok .submitted := by
  have accepted : Drill.upload 103 (Drill.sending.take 5) = .ok .submitted := by decide +kernel
  have again := (repeated_uploads_change_nothing Drill.deployment Drill.directory
    Drill.sendingTwo).1 (Drill.sending.take 5) (Drill.clock 103)
    (Drill.callback 31 10 20 .sentCallbackOk) .submitted (Drill.sendingTwo.drop 6)
    (Drill.clock 200) accepted
  exact ⟨accepted, congrArg Prod.fst again⟩

end Zrotext.Delivery
