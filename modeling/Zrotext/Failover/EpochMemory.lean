import Zrotext.Failover.PromotionEpoch

/-!
# The epoch memory of a restored controller

A restored controller takes its epoch memory from the promotion that its journal
names, if there is one, and not from the highest epoch that the journal
recorded.  It remembers that epoch as long as no journal is loaded whose record
has caught up with its own promotion.
-/

namespace Zrotext.Failover

open Foundation List

/-- The epoch of the promotion that a phase names. -/
def RestorablePhase.promotion : RestorablePhase → Option U64
  | .promoting newEpoch => some newEpoch
  | .promoted newEpoch _ _ => some newEpoch
  | _ => none

/-- The journal that an event loads. -/
def journalLoaded (config : FailoverConfig) : Event port → Option ControllerJournal
  | ⟨.loadControllerState, some encoded⟩ => FailoverExecutor.loadedJournal config encoded
  | _ => none

/-- The journal recorded only epochs below the promotion that it names. -/
def ControllerJournal.RecordsBelow (journal : ControllerJournal) : Prop :=
  ∀ newEpoch ∈ journal.phase.promotion, journal.maxEpochSeen < newEpoch

instance (journal : ControllerJournal) : Decidable journal.RecordsBelow :=
  Option.decidableForallMem journal.phase.promotion

/-- The epoch of the writer in a report. -/
def MemberReport.epoch (report : MemberReport) : Option U64 :=
  match report.writer with
  | .reachable epoch => some epoch
  | .unreachable => none

/-- The epoch of a promotion that is decided. -/
def promotionDecided : Event port → Option U64
  | ⟨.decided (.promoteStandby _ newEpoch), _⟩ => some newEpoch
  | _ => none

/-- What a restored controller has to remember: the epochs recorded by its
journal or shown by the rounds it has decided, and those of the round at
hand. -/
structure Recollection where
  (known collected : List U64)
deriving DecidableEq

namespace Recollection

/-- The recollection after an event. -/
def next (config : FailoverConfig) (recollection : Recollection) : Event port → Recollection
  | ⟨.loadControllerState, some encoded⟩ =>
    ⟨((FailoverExecutor.loadedJournal config encoded).map ControllerJournal.maxEpochSeen).toList,
      []⟩
  | ⟨.collect nowMs, round⟩ =>
    { recollection with
      collected := (config.freshReports round nowMs).filterMap MemberReport.epoch }
  | ⟨.decided _, _⟩ => ⟨recollection.known ++ recollection.collected, []⟩
  | _ => recollection

/-- The observer of the epochs that have to be remembered. -/
def monitor (config : FailoverConfig) : Monitor port Recollection where
  admits _ event := ∀ journal ∈ journalLoaded config event, journal.RecordsBelow
  next := next config

/-- The recollection after the events of a run. -/
def after (config : FailoverConfig) (events : List (Event port)) : Recollection :=
  (monitor config).after ⟨[], []⟩ events

/-- A promotion is decided only above every epoch to be remembered. -/
def Exceeded (recollection : Recollection) (event : Event port) : Prop :=
  ∀ newEpoch ∈ promotionDecided event,
    ∀ epoch ∈ recollection.known ++ recollection.collected, epoch < newEpoch

/-- The controller at hand remembers what it has to. -/
structure Kept (config : FailoverConfig) (executor : FailoverExecutor)
    (recollection : Recollection) : Prop where
  configured : executor.config = config
  kept : ∀ controller, executor.controller = some controller → controller.config = config ∧
    ∀ epoch ∈ recollection.known, epoch ≤ controller.maxEpochSeen

/-- The invariant of the executor. -/
def Remembers (config : FailoverConfig) : QueueInvariant Recollection :=
  fun executor _ recollection => Kept config executor recollection

variable {recollection : Recollection}

theorem Kept.of_sameCore {after : FailoverExecutor} (kept : Kept config executor recollection)
    (same : FailoverExecutor.SameCore executor after) : Kept config after recollection where
  configured := same.config.trans kept.configured
  kept := by
    rw [same.controller]
    exact kept.kept

/-- The calls of an attempt neither load a journal nor concern a round. -/
theorem next_of_inAttempt (answer : op.Answer) (inAttempt : op.InAttempt) :
    recollection.Exceeded ⟨op, answer⟩ ∧
      (monitor config).next recollection ⟨op, answer⟩ = recollection := by
  cases op <;> first
    | exact ⟨nofun, rfl⟩
    | (rcases inAttempt with (none | none) | none | none | none <;> cases none)

/-- An attempt leaves the controller and the recollection alone. -/
theorem safe_of_uses {α : Type} {program : Program port α} {result : α → FailoverExecutor}
    (uses : Program.Uses PortOp.InAttempt
      (fun value => FailoverExecutor.SameCore executor (result value)) program)
    (kept : Kept config executor recollection) : Program.Safe (monitor config) Exceeded
      (fun value final => Kept config (result value) final) program recollection := by
  refine (uses.safe recollection fun op answer inAttempt _ =>
    next_of_inAttempt answer inAttempt).mono ?_
  rintro value final ⟨same, rfl⟩
  exact kept.of_sameCore same

/-- A restored controller remembers the epoch that its journal recorded. -/
theorem restore_remembers (journal : ControllerJournal) (authorityEpoch : U64)
    (below : journal.RecordsBelow) : journal.maxEpochSeen ≤ (FailoverController.restore config
      (max journal.maxEpochSeen authorityEpoch) journal.phase).maxEpochSeen := by
  have pred : ∀ newEpoch : U64, journal.maxEpochSeen < newEpoch →
      journal.maxEpochSeen ≤ Word.saturatingPred newEpoch := by
    intro newEpoch less
    rw [Fin.le_def, Word.saturatingPred_val]
    exact Nat.le_pred_of_lt less
  cases phase : journal.phase with
  | steady | fencingOldWriter => exact le_max_left _ _
  | promoting newEpoch | promoted newEpoch =>
    exact pred newEpoch (below newEpoch (by rw [phase]; rfl))

theorem keepsReads : KeepsReads (monitor config) Exceeded (Remembers config) := by
  intro executor queue recollection op answer isRead kept _
  cases op with
  | collect nowMs => exact ⟨nofun, kept.configured, kept.kept⟩
  | loadState | holdDispatch | confirmedEpoch => exact ⟨nofun, kept⟩
  | _ => cases isRead

theorem keepsLoad : KeepsLoad (monitor config) Exceeded (Remembers config) fun _ _ => True := by
  intro executor recollection epoch answer kept absent _ admitted
  have unrestored : ∀ final, Kept config executor final := by
    intro final
    refine ⟨kept.configured, ?_⟩
    rw [absent]
    exact nofun
  refine ⟨nofun, unrestored _, ?_⟩
  rintro encoded rfl _
  refine ⟨kept.configured, ?_⟩
  rw [kept.configured]
  cases loaded : FailoverExecutor.loadedJournal config encoded with
  | none =>
    rintro controller ⟨⟩
    refine ⟨kept.configured, ?_⟩
    simp [monitor, next, loaded]
  | some journal =>
    rintro controller ⟨⟩
    refine ⟨kept.configured, ?_⟩
    simp only [monitor, next, loaded, Option.map_some, Option.toList_some, mem_singleton, forall_eq]
    exact restore_remembers journal epoch (admitted journal loaded)

theorem le_epochAfter (controller : FailoverController) (check : Check)
    (known : ∀ epoch ∈ recollection.known, epoch ≤ controller.maxEpochSeen) :
    ∀ epoch ∈ recollection.known ++ (controller.config.freshReports check.round
        check.nowMs).filterMap MemberReport.epoch, epoch ≤ controller.epochAfter check := by
  intro epoch member
  cases mem_append.mp member with
  | inl earlier =>
    exact le_trans (known epoch earlier) (FailoverController.le_foldl_seeEpoch _ _)
  | inr shown =>
    obtain ⟨report, fresh, carried⟩ := mem_filterMap.mp shown
    refine FailoverController.epoch_le_foldl_seeEpoch _ check _ report fresh epoch ?_
    unfold MemberReport.epoch at carried
    split at carried <;> cases carried
    assumption

/-- A promotion is decided above the epoch memory of its check. -/
theorem epochAfter_lt (controller : FailoverController)
    (decided : newEpoch ∈ promotionDecided
      ⟨.decided (controller.observe check.round check.nowMs).2, ()⟩) :
    controller.epochAfter check < newEpoch := by
  have move := controller.observe_transition check
  unfold FailoverController.Moves at move
  generalize (controller.observe check.round check.nowMs).2 = decision at move decided
  cases decision with
  | promoteStandby siteId epoch =>
    cases decided
    exact move.seen_lt
  | _ => cases decided

/-- A round is decided above every epoch known and every epoch it shows. -/
theorem keepsRounds (frames : Frames (monitor config) Exceeded (Remembers config)
    (AtRest (Remembers config))) :
    KeepsRounds (monitor config) Exceeded (Remembers config) (AtRest (Remembers config)) := by
  intro executor retried nowMs recollection kept round _
  refine ⟨nofun, ?_⟩
  cases present : executor.controller with
  | none => exact ⟨kept.configured, by rw [present]; exact nofun⟩
  | some controller =>
    obtain ⟨configured, known⟩ := kept.kept controller present
    have covered := le_epochAfter controller ⟨round, nowMs⟩ known
    rw [configured] at covered
    refine frames.concludeRound_safe executor retried _ _ fun _ => ⟨?_, ?_⟩
    · intro newEpoch decided epoch member
      exact lt_of_le_of_lt (covered epoch member)
        (epochAfter_lt controller decided)
    · have after : Kept config
          { executor with controller := some (controller.observe round nowMs).1 }
          ⟨recollection.known ++
            (config.freshReports round nowMs).filterMap MemberReport.epoch, []⟩ := by
        refine ⟨kept.configured, ?_⟩
        rintro _ ⟨⟩
        rw [controller.observe_config ⟨round, nowMs⟩,
          controller.observe_maxEpochSeen ⟨round, nowMs⟩]
        exact ⟨configured, covered⟩
      generalize (controller.observe round nowMs).2 = decision
      cases decision <;> exact after

theorem frames :
    Frames (monitor config) Exceeded (Remembers config) (AtRest (Remembers config)) where
  read := keepsReads
  bookkeeping _ _ _ _ _ _ kept := ⟨kept.configured, kept.kept⟩
  forget _ _ _ _ _ kept := ⟨kept.configured, kept.kept⟩
  discard _ _ _ kept := ⟨kept.configured, nofun⟩
  restore := keepsLoad.restore keepsReads
    (fun _ _ _ _ _ _ kept => ⟨kept.configured, kept.kept⟩) fun _ _ _ _ => trivial
  attempt executor before action later recollection kept :=
    safe_of_uses (executor.attempt_uses action) kept
  reconcile executor queue recollection controller kept present := by
    obtain ⟨configured, known⟩ := kept.kept controller present
    refine ⟨kept.configured, ?_⟩
    rintro _ ⟨⟩
    rcases controller.reconcileComplete_cases with same | ⟨_, _, _, _, _, same⟩ <;>
      rw [same] <;> exact ⟨configured, known⟩
  flags executor queue recollection journal newEpoch _ _ _ _ kept _ _ :=
    safe_of_uses ((FailoverExecutor.saveJournal_uses _).mono
      (fun _ save => .inl (.inr save)) fun _ => id)
      (kept.of_sameCore (executor.sameCore_journal _))
  idle _ _ _ kept _ := ⟨nofun, kept⟩
  enter executor recollection reacquired kept _ := by
    refine ⟨nofun, ?_⟩
    cases reacquired with
    | true => exact ⟨kept.configured, nofun⟩
    | false => exact kept
  leave _ _ kept := kept

end Recollection

/-- The epoch memory survives restarts: in every run of the executor in which
each loaded journal recorded only epochs below the promotion it names, a
promotion is decided above every epoch that the journal loaded last recorded or
that a round decided since then showed, and the controller remembers all of
them. -/
theorem restored_controller_remembers (config : FailoverConfig) (events : List (Event port))
    (executor : FailoverExecutor) (run : (executorMachine config).Run events executor)
    (below : ∀ event ∈ events, ∀ journal ∈ journalLoaded config event, journal.RecordsBelow) :
    (∀ before decision later newEpoch, events = before ++ decision :: later →
      promotionDecided decision = some newEpoch →
      ∀ epoch ∈ (Recollection.after config before).known ++
        (Recollection.after config before).collected, epoch < newEpoch) ∧
    ∀ controller, executor.controller = some controller →
      ∀ epoch ∈ (Recollection.after config events).known, epoch ≤ controller.maxEpochSeen := by
  have admitted : ∀ recollection, (Recollection.monitor config).Admits recollection events := by
    clear run
    induction events with
    | nil => exact fun _ => trivial
    | cons event events ih =>
      rw [forall_mem_cons] at below
      exact fun recollection => ⟨below.1, ih below.2 _⟩
  obtain ⟨along, kept⟩ := Recollection.frames.run_along
    (Recollection.keepsRounds Recollection.frames)
    (fun _ _ => ⟨rfl, nofun⟩) run ⟨[], []⟩ (admitted _)
  refine ⟨?_, fun controller present => (kept.kept controller present).2⟩
  rintro before decision later newEpoch rfl decided
  exact along.at_split newEpoch decided

/-- The ports of a failover whose promotion is lost and decided again. -/
def repeatedPromotionPorts : MemoryPorts :=
  failNextPromotion (outagePorts [readyCheck 103, readyCheck 104])

/-- A failover that is restarted between the two decisions. -/
def repeatedPromotionDrill : Drill :=
  drill repeatedPromotionPorts
    ([100, 101, 102, 103].map drillTick ++ drillRestart :: [104].map drillTick)

/-- Epoch 8 is decided again after the restart, above the epoch that is known. -/
theorem restored_controller_remembers_drill :
    let before := repeatedPromotionDrill.trace.take 27
    (Recollection.after drillConfig before).known = [7] ∧
      ∀ epoch ∈ (Recollection.after drillConfig before).known ++
        (Recollection.after drillConfig before).collected, epoch < 8 := by
  refine ⟨by decide +kernel, ?_⟩
  refine (restored_controller_remembers drillConfig repeatedPromotionDrill.trace
    repeatedPromotionDrill.state (drill_run _ _ (drillMoves_restart _ _)) ?_).1 _
    ⟨.decided (.promoteStandby "east".toList 8), ()⟩
    (repeatedPromotionDrill.trace.drop 28) 8 ?_ rfl <;>
    decide +kernel

/-- The ports of a drill whose next save fails. -/
def failNextSave (ports : MemoryPorts) : MemoryPorts :=
  { ports with authority := { ports.authority with failSaveAfter := some 0, savesSinceArm := 0 } }

/-- A failover whose intent cannot be saved. -/
def unsavedIntentDrill : Drill :=
  continueDrill (drill (outagePorts [readyCheck 103, reachableCheck 104 9, unreachableCheck 105,
      readyCheck 106]) ([100, 101, 102].map drillTick))
    failNextSave ([103].map drillTick)

/-- The failover goes on: epoch 9 is observed, then the intent is saved and its
promotion is lost, and the executor is restarted. -/
def lateIntentDrill : Drill :=
  continueDrill (continueDrill unsavedIntentDrill failNextSave ([104].map drillTick))
    failNextPromotion ([105].map drillTick ++ drillRestart :: [106].map drillTick)

/-- Epoch 8 is decided although epoch 9 was observed before the restart. -/
theorem restored_controller_forgets :
    (executorMachine drillConfig).Run lateIntentDrill.trace lateIntentDrill.state ∧
      ∃ before decision later, lateIntentDrill.trace = before ++ decision :: later ∧
        promotionDecided decision = some 8 ∧
        (Recollection.after drillConfig before).known = [9] := by
  refine ⟨?_, lateIntentDrill.trace.take 35, ⟨.decided (.promoteStandby "east".toList 8), ()⟩,
    lateIntentDrill.trace.drop 36, by decide +kernel, rfl, by decide +kernel⟩
  refine continueDrill_run _ _ _ (drillMoves_restart _ _) ?_
  refine continueDrill_run _ _ _ (ticks_made _) ?_
  refine continueDrill_run _ _ _ (ticks_made _) ?_
  exact drill_run _ _ (ticks_made _)

end Zrotext.Failover
