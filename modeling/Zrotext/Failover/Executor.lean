import Zrotext.Failover.Journal
import Zrotext.Failover.Port

/-!
# The failover executor

The controller loop that gathers a round, decides, and applies the decision to
the writer authority (`executor.rs`).  A method that mutates the executor is a
program over the ports that returns the new executor next to its result; the
order of its calls and of its assignments is the source's.
-/

namespace Zrotext.Failover

open Foundation

/-- A decision whose application failed and is retried unchanged. -/
inductive PendingAction
  | fence (siteId : Text)
  | promote (siteId : Text) (newEpoch : U64)
deriving DecidableEq

/-- An action applied to the authority. -/
inductive AppliedAction
  | fence (siteId : Text) (outcome : FenceOutcome)
  | promote (siteId : Text) (newEpoch : U64) (outcome : PromoteOutcome)
  | rejoinRecorded (siteId : Text)
deriving DecidableEq

/-- How a tick's decision fared against the authority. -/
inductive Application
  | none
  | applied (action : AppliedAction) (replayed : Bool)
  | pending (action : PendingAction)
  | superseded (promotionEpoch authorityEpoch : U64)
deriving DecidableEq

/-- The outcome of one tick. -/
structure TickReport where
  decision : Option Decision
  application : Application
  journalSaved : Bool
deriving DecidableEq

/-- The report of a tick in which no round ran. -/
def TickReport.idle : TickReport := ⟨none, .none, false⟩

/-- Coarse executor state. -/
inductive ExecutorStatus
  | waitingForAuthority | running
  | journalInconsistent (journalEpoch authorityEpoch : U64)
  | promotionSuperseded (promotionEpoch authorityEpoch : U64)
  | epochAnchorAhead (anchoredEpoch authorityEpoch : U64)
deriving DecidableEq

/-- The statuses in which the executor has failed closed for good. -/
def ExecutorStatus.isTerminal : ExecutorStatus → Bool
  | .waitingForAuthority => false
  | .running => false
  | .journalInconsistent _ _ => true
  | .promotionSuperseded _ _ => true
  | .epochAnchorAhead _ _ => true

/-- Error of the reconciliation input. -/
inductive ReconcileError
  | notOutstanding | promotionPending
deriving DecidableEq

/-- Result of one application attempt. -/
inductive AttemptOutcome
  | applied (application : Application)
  | pending
  | superseded (promotionEpoch authorityEpoch : U64)
deriving DecidableEq

/-- The executor. -/
structure FailoverExecutor where
  config : FailoverConfig
  controller : Option FailoverController
  (journal durableJournal : Option ControllerJournal)
  authorityEpochAtRestore : U64
  pending : List PendingAction
  status : ExecutorStatus
  liveExternalRequired : Bool
deriving DecidableEq

/-- What an attempt leaves behind. -/
structure Attempted where
  executor : FailoverExecutor
  journalSaved : Bool
  outcome : AttemptOutcome

/-- What the retry of the pending actions leaves behind. -/
structure Retried where
  executor : FailoverExecutor
  stillPending : List PendingAction
  application : Application
  journalSaved : Bool
  superseded : Option Application

namespace FailoverExecutor

/-- An executor that has read nothing yet. -/
def new (config : FailoverConfig) (liveExternalRequired : Bool) : FailoverExecutor where
  config
  controller := none
  journal := none
  durableJournal := none
  authorityEpochAtRestore := 0
  pending := []
  status := .waitingForAuthority
  liveExternalRequired

variable (executor : FailoverExecutor) (journal : ControllerJournal) (siteId : Text)
  (newEpoch : U64)

/-- Drop everything cached from a previous exclusive period. -/
def discardStaleState : FailoverExecutor :=
  { executor with
    controller := none, journal := none, durableJournal := none, pending := []
    status := .waitingForAuthority }

/-- The journal of the current configuration in a given phase. -/
def buildJournal (phase : RestorablePhase) : ControllerJournal where
  members := executor.config.members
  writerSiteId := executor.config.writerSiteId
  standbySiteId := executor.config.standbySiteId
  maxEpochSeen := executor.controller.elim 0 FailoverController.maxEpochSeen
  phase

/-- Journal that the fence was applied, never past a promotion. -/
def advanceJournalFence : FailoverExecutor :=
  let advance : Bool :=
    match executor.journal with
    | none => true
    | some journal => journal.phase == .steady
  if advance then
    { executor with journal := some (executor.buildJournal .fencingOldWriter) }
  else
    executor

/-- Journal that the promotion completed. -/
def advanceJournalPromoted : FailoverExecutor :=
  match executor.journal with
  | some journal =>
    match journal.phase with
    | .promoted existing _ _ =>
      if existing = newEpoch then executor
      else
        { executor with
          journal :=
            some { journal with phase := .promoted newEpoch false false } }
    | _ =>
      { executor with
        journal :=
          some { journal with phase := .promoted newEpoch false false } }
  | none =>
    { executor with
      journal := some (executor.buildJournal (.promoted newEpoch false false)) }

/-- Persist the journal; a confirmed save refreshes the durable copy. -/
def saveJournal : Program port (FailoverExecutor × Bool) :=
  match executor.journal with
  | none => pure (executor, false)
  | some journal =>
    match journal.encode with
    | .error _ => pure (executor, false)
    | .ok encoded => do
      match ← Port.saveControllerState encoded with
      | .saved =>
        pure ({ executor with durableJournal := executor.journal }, true)
      | .failed _ => pure (executor, false)

/-- Try to fence the old writer's site. -/
def attemptFence : Program port Attempted :=
  if siteId ≠ executor.config.writerSiteId then
    pure ⟨executor, false, .pending⟩
  else do
    match ← Port.fenceWriterSite siteId with
    | some .fenced => do
      let (executor, saved) ← executor.advanceJournalFence.saveJournal
      pure ⟨executor, saved, .applied (.applied (.fence siteId .fenced) false)⟩
    | some .alreadyFenced => do
      let (executor, saved) ← executor.advanceJournalFence.saveJournal
      pure ⟨executor, saved, .applied (.applied (.fence siteId .alreadyFenced) true)⟩
    | some .siteRowMissing => pure ⟨executor, false, .pending⟩
    | none => pure ⟨executor, false, .pending⟩

/-- The confirmed-durable journal already holds this promotion intent. -/
def intentAlreadyDurable : Bool :=
  match executor.durableJournal with
  | some journal => journal.phase == .promoting newEpoch
  | none => false

/-- Make the promotion intent durable; the flags tell whether the journal was
saved by this call and whether the intent is durable. -/
def secureIntent : Program port (FailoverExecutor × Bool × Bool) :=
  if executor.intentAlreadyDurable newEpoch then
    pure (executor, false, true)
  else do
    let intended :=
      { executor with
        journal := some (executor.buildJournal (.promoting newEpoch)) }
    let (executor, saved) ← intended.saveJournal
    pure (executor, saved, saved)

/-- The external authority holds the old writer's host under the token of this
promotion. -/
def confirmHostFence : Program port Bool := do
  let fenceToken := FenceToken.forPromotion newEpoch
  match ← Port.fenceStatus executor.config.writerSiteId with
  | .fenced token => pure (token == fenceToken)
  | .unfenced => do
    match ← Port.fenceHost executor.config.writerSiteId fenceToken with
    | .fenced token => pure (token == fenceToken)
    | .alreadyFenced token => pure (token == fenceToken)
    | .refusedCompetingFence _ => pure false
    | .refusedUnconfirmed => pure false
  | .unconfirmed => pure false

/-- The externally anchored epoch allows this promotion. -/
def anchorAllows : Program port Bool := do
  match ← Port.confirmedEpoch with
  | .confirmed anchored =>
    pure (!(decide (newEpoch ≤ anchored) &&
      decide (executor.authorityEpochAtRestore < newEpoch)))
  | .unconfirmed => pure false

/-- The external anchor witnessed the promotion. -/
def witnessPromotion : Program port Bool := do
  match ← Port.recordPromotion newEpoch with
  | .recorded => pure true
  | .refused anchoredEpoch => pure (anchoredEpoch == newEpoch)
  | .refusedUnconfirmed => pure false

/-- Finish a promotion that the authority's compare-and-set confirmed. -/
def completePromotion
    (journalSaved : Bool) (outcome : PromoteOutcome) : Program port Attempted := do
  let executor := { executor with authorityEpochAtRestore := newEpoch }
  if ← witnessPromotion newEpoch then
    let (executor, saved) ← (executor.advanceJournalPromoted newEpoch).saveJournal
    pure ⟨executor, journalSaved || saved, .applied (.applied (.promote siteId newEpoch outcome)
        (outcome == .alreadyAtEpoch))⟩
  else
    pure ⟨executor, journalSaved, .pending⟩

/-- Try to promote the standby. -/
def attemptPromote : Program port Attempted :=
  if siteId ≠ executor.config.standbySiteId then
    pure ⟨executor, false, .pending⟩
  else do
    let (executor, journalSaved, intentDurable) ← executor.secureIntent newEpoch
    if !intentDurable then
      pure ⟨executor, journalSaved, .pending⟩
    else if !(← executor.confirmHostFence newEpoch) then
      pure ⟨executor, journalSaved, .pending⟩
    else if !(← executor.anchorAllows newEpoch) then
      pure ⟨executor, journalSaved, .pending⟩
    else
      match ← Port.promoteStandby siteId executor.config.writerSiteId newEpoch with
      | some .promoted =>
        executor.completePromotion siteId newEpoch journalSaved .promoted
      | some .alreadyAtEpoch =>
        executor.completePromotion siteId newEpoch journalSaved .alreadyAtEpoch
      | some (.refusedHigherEpoch current) =>
        pure ⟨executor, journalSaved, .superseded newEpoch current⟩
      | some .refusedWriterUnfenced => pure ⟨executor, journalSaved, .pending⟩
      | some .siteRowMissing => pure ⟨executor, journalSaved, .pending⟩
      | none => pure ⟨executor, journalSaved, .pending⟩

/-- Try one action against the authority. -/
def attempt : PendingAction → Program port Attempted
  | .fence siteId => executor.attemptFence siteId
  | .promote siteId newEpoch => executor.attemptPromote siteId newEpoch

/-- Attempt a decision of this round, queueing it when it stays pending. -/
def attemptFresh (action : PendingAction) :
    Program port (FailoverExecutor × Bool × Application) := do
  let attempted ← executor.attempt action
  match attempted.outcome with
  | .applied application =>
    pure (attempted.executor, attempted.journalSaved, application)
  | .pending =>
    pure ({ attempted.executor with
        pending := attempted.executor.pending ++ [action] },
      attempted.journalSaved, .pending action)
  | .superseded promotionEpoch authorityEpoch =>
    pure ({ attempted.executor with
        status := .promotionSuperseded promotionEpoch authorityEpoch },
      attempted.journalSaved, .superseded promotionEpoch authorityEpoch)

/-- The promotion epoch of a journal in the promoted phase. -/
def promotedEpoch : Option U64 :=
  match journal.phase with
  | .promoted newEpoch _ _ => some newEpoch
  | _ => none

/-- The journal with the one-time rejoin recorded, if it still has to be. -/
def recordRejoin : Option ControllerJournal :=
  match journal.phase with
  | .promoted newEpoch reconciled false =>
    some { journal with phase := .promoted newEpoch reconciled true }
  | _ => none

/-- The external anchor confirms the promoted epoch of the journal. -/
def anchorConfirmsPromotion : Program port Bool :=
  match executor.journal.bind promotedEpoch with
  | none => pure false
  | some promoted => do
    match ← Port.confirmedEpoch with
    | .confirmed epoch => pure (decide (promoted ≤ epoch))
    | .unconfirmed => pure false

/-- Record the one-time rejoin emission. -/
def applyRejoin : Program port (FailoverExecutor × Bool × Application) := do
  if !(← executor.anchorConfirmsPromotion) then
    pure (executor, false, .none)
  else
    match executor.journal.bind recordRejoin with
    | none => pure (executor, false, .none)
    | some journal => do
      let (executor, saved) ←
        { executor with journal := some journal }.saveJournal
      pure (executor, saved, .applied (.rejoinRecorded siteId) false)

/-- Apply, or park, a fresh decision. -/
def applyDecision : Decision → Program port (FailoverExecutor × Bool × Application)
  | .fenceOldWriter siteId => executor.attemptFresh (.fence siteId)
  | .promoteStandby siteId newEpoch =>
    executor.attemptFresh (.promote siteId newEpoch)
  | .rejoinFormerWriterAsReplica siteId => executor.applyRejoin siteId
  | .hold _ => pure (executor, false, .none)
  | .quorumLost => pure (executor, false, .none)
  | .keepDispatchPaused => pure (executor, false, .none)

/-- Retry the pending actions in order, stopping at a supersession. -/
def retry (executor : FailoverExecutor) (application : Application)
    (journalSaved : Bool) : List PendingAction → Program port Retried
  | [] => pure ⟨executor, [], application, journalSaved, none⟩
  | action :: actions => do
    let attempted ← executor.attempt action
    let journalSaved := journalSaved || attempted.journalSaved
    match attempted.outcome with
    | .applied applied =>
      retry attempted.executor applied journalSaved actions
    | .pending => do
      let rest ← retry attempted.executor application journalSaved actions
      pure { rest with stillPending := action :: rest.stillPending }
    | .superseded promotionEpoch authorityEpoch =>
      pure ⟨{ attempted.executor with
          status := .promotionSuperseded promotionEpoch authorityEpoch },
        action :: actions, application, journalSaved,
        some (.superseded promotionEpoch authorityEpoch)⟩

/-- Why a journal cannot be reconciled with the authority's epoch. -/
def journalFault (authorityEpoch : U64) : Option ExecutorStatus :=
  match journal.phase with
  | .promoting newEpoch =>
    if authorityEpoch < Word.saturatingPred newEpoch then
      some (.journalInconsistent newEpoch authorityEpoch)
    else if newEpoch < authorityEpoch then
      some (.promotionSuperseded newEpoch authorityEpoch)
    else
      none
  | .promoted newEpoch _ _ =>
    if authorityEpoch < newEpoch then
      some (.journalInconsistent newEpoch authorityEpoch)
    else
      none
  | .steady =>
    if authorityEpoch < journal.maxEpochSeen then
      some (.journalInconsistent journal.maxEpochSeen authorityEpoch)
    else
      none
  | .fencingOldWriter =>
    if authorityEpoch < journal.maxEpochSeen then
      some (.journalInconsistent journal.maxEpochSeen authorityEpoch)
    else
      none

/-- The journal in a loaded row: parsable and of this configuration. -/
def loadedJournal (config : FailoverConfig) (encoded : Option Text) : Option ControllerJournal :=
  encoded.bind fun line =>
    match ControllerJournal.decode line with
    | .error _ => none
    | .ok journal => if journal.BelongsTo config then some journal else none

/-- The executor resumed from a reconciled journal, or from none. -/
def resume (authorityEpoch : U64) (journal : Option ControllerJournal) : FailoverExecutor :=
  let controller :=
    match journal with
    | some journal =>
      FailoverController.restore executor.config
        (max journal.maxEpochSeen authorityEpoch) journal.phase
    | none =>
      FailoverController.restore executor.config authorityEpoch .steady
  { executor with
    controller := some controller, journal, durableJournal := journal, status := .running }

/-- Restore the controller from the authority and the journal; false when the
executor must wait or has failed closed. -/
def restore : Program port (FailoverExecutor × Bool) := do
  match ← Port.confirmedEpoch with
  | .unconfirmed =>
    pure ({ executor with status := .waitingForAuthority }, false)
  | .confirmed anchored => do
    match ← Port.loadState executor.config.writerSiteId executor.config.standbySiteId with
    | none => pure ({ executor with status := .waitingForAuthority }, false)
    | some snapshot => do
      let executor :=
        { executor with authorityEpochAtRestore := snapshot.epoch }
      if snapshot.epoch < anchored then
        pure ({ executor with
          status := .epochAnchorAhead anchored snapshot.epoch }, false)
      else
        match ← Port.loadControllerState with
        | none =>
          pure ({ executor with status := .waitingForAuthority }, false)
        | some encoded =>
          let journal := loadedJournal executor.config encoded
          match journal.bind (journalFault · snapshot.epoch) with
          | some status => pure ({ executor with status }, false)
          | none => pure (executor.resume snapshot.epoch journal, true)

/-- Recheck the live anchor before a round; false when no round may run. -/
def liveExternalPreflight : Program port (FailoverExecutor × Bool) :=
  if executor.controller.isNone then do
    let held ← Port.holdDispatch
    pure (executor, held)
  else do
    match ← Port.confirmedEpoch with
    | .unconfirmed => do
      let _ ← Port.holdDispatch
      pure (executor.discardStaleState, false)
    | .confirmed anchored => do
      match ← Port.loadState executor.config.writerSiteId executor.config.standbySiteId with
      | none => do
        let _ ← Port.holdDispatch
        pure (executor.discardStaleState, false)
      | some snapshot =>
        if snapshot.epoch < anchored then do
          let _ ← Port.holdDispatch
          pure ({ executor with
            status := .epochAnchorAhead anchored snapshot.epoch }, false)
        else if snapshot.epoch ≠ executor.authorityEpochAtRestore then do
          let held ← Port.holdDispatch
          pure (executor.discardStaleState, held)
        else
          pure (executor, true)

/-- Apply the decision of a round and report it. -/
def concludeRound (retried : Retried)
    (observed : FailoverController × Decision) : Program port (FailoverExecutor × TickReport) := do
  Port.decided observed.2
  let (executor, saved, roundApplication) ←
    { executor with controller := some observed.1 }.applyDecision observed.2
  let application :=
    if roundApplication ≠ .none ∨ retried.application = .none then
      roundApplication
    else
      retried.application
  let application :=
    match application, executor.pending with
    | .none, action :: _ => .pending action
    | application, _ => application
  pure (executor, ⟨some observed.2, application, retried.journalSaved || saved⟩)

/-- Gather a round, decide it and apply the decision. -/
def runRound (retried : Retried) (nowMs : U64) : Program port (FailoverExecutor × TickReport) := do
  let round ← Port.collect nowMs
  match executor.controller with
  | none => pure (executor, .idle)
  | some controller =>
    executor.concludeRound retried (controller.observe round nowMs)

/-- Retry the pending actions and run one round. -/
def runTick (nowMs : U64) : Program port (FailoverExecutor × TickReport) := do
  let retried ←
    { executor with pending := [] }.retry .none false executor.pending
  let executor := { retried.executor with pending := retried.stillPending }
  match retried.superseded with
  | some superseded =>
    pure (executor, ⟨none, superseded, retried.journalSaved⟩)
  | none => executor.runRound retried nowMs

/-- Make sure that a restored controller is at hand. -/
def ensureRestored : Program port (FailoverExecutor × Bool) :=
  if executor.controller.isNone then executor.restore
  else pure (executor, true)

/-- Recheck the external authority where the deployment asks for it. -/
def ensurePreflight : Program port (FailoverExecutor × Bool) :=
  if executor.liveExternalRequired then executor.liveExternalPreflight
  else pure (executor, true)

/-- Drop the cached state after a re-acquired exclusivity. -/
def checkExclusivity : Program port FailoverExecutor := do
  if ← Port.exclusivityReacquired then pure executor.discardStaleState
  else pure executor

/-- Run one check round. -/
def tick (nowMs : U64) : Program port (FailoverExecutor × TickReport) :=
  if executor.status.isTerminal then
    if executor.liveExternalRequired then do
      let _ ← Port.holdDispatch
      pure (executor, .idle)
    else
      pure (executor, .idle)
  else do
    let executor ← executor.checkExclusivity
    let (executor, ready) ← executor.ensurePreflight
    if !ready then pure (executor, .idle)
    else do
      let (executor, restored) ← executor.ensureRestored
      if !restored then pure (executor, .idle)
      else executor.runTick nowMs

/-- The journal with the reconciliation recorded, if it holds a promotion. -/
def recordReconciled : Option ControllerJournal :=
  match journal.phase with
  | .promoted newEpoch _ rejoinEmitted =>
    some { journal with phase := .promoted newEpoch true rejoinEmitted }
  | _ => none

/-- The operator reports that the reconciliation is complete. -/
def reconcileComplete (executor : FailoverExecutor) :
    Program port (FailoverExecutor × Except ReconcileError Unit) := do
  let executor ← executor.checkExclusivity
  if executor.pending ≠ [] then
    pure (executor, .error .promotionPending)
  else
    match executor.controller with
    | none => pure (executor, .error .notOutstanding)
    | some controller =>
      match controller.reconcileComplete with
      | (_, .error _) => pure (executor, .error .notOutstanding)
      | (controller, .ok _) =>
        let executor := { executor with controller := some controller }
        match executor.journal.bind recordReconciled with
        | none => pure (executor, .ok ())
        | some journal => do
          let (executor, _) ←
            { executor with journal := some journal }.saveJournal
          pure (executor, .ok ())

end FailoverExecutor

/-- What drives an executor. -/
inductive ExecutorInput
  | tick (nowMs : U64)
  | reconcileComplete
deriving DecidableEq

/-- How an executor handles an input, reports left aside. -/
def FailoverExecutor.handle (executor : FailoverExecutor) :
    ExecutorInput → Program port FailoverExecutor
  | .tick nowMs => do
    let (executor, _) ← executor.tick nowMs
    pure executor
  | .reconcileComplete => do
    let (executor, _) ← executor.reconcileComplete
    pure executor

/-- The executor of one configuration, restarted from nothing after a crash. -/
def executorMachine (config : FailoverConfig) : Machine port FailoverExecutor ExecutorInput where
  fresh executor := ∃ live, executor = FailoverExecutor.new config live
  handle := FailoverExecutor.handle

end Zrotext.Failover
