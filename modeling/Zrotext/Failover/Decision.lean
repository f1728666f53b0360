import Zrotext.Foundation.KeyedFold
import Zrotext.Foundation.Text
import Zrotext.Foundation.Word

/-!
# The promotion decision

The pure state machine that turns rounds of quorum member reports into
decisions (`decision.rs`).  Every function here is the source function of the
same name; a method that mutates the controller returns the new controller
next to its result.
-/

namespace Zrotext.Failover

open Foundation

/-- Number of independent quorum members. -/
def requiredMembers : Nat := 3

/-- Failed-check threshold before fencing is requested. -/
def defaultFailedChecksRequired : U32 := 3

/-- Successful-check threshold before the former writer may rejoin. -/
def defaultRecoveryChecksRequired : U32 := 5

/-- Minimum stable duration before the former writer may rejoin. -/
def defaultRecoveryStableMs : U64 := 5 * 60 * 1000

/-- Age beyond which a member observation is no longer evidence. -/
def defaultObservationFreshnessMs : U64 := 10000

/-- Highest epoch a promotion may name, the largest signed 64-bit value. -/
def maxStoredEpoch : U64 := 2 ^ 63 - 1

/-- A validated configuration: three distinct named members and two different
named sites. -/
structure FailoverConfig where
  members : List Text
  (writerSiteId standbySiteId : Text)
  (failedChecksRequired recoveryChecksRequired : U32)
  (recoveryStableMs observationFreshnessMs : U64)
  memberCount : members.length = requiredMembers
  membersNamed : ∀ member ∈ members, member ≠ []
  membersDistinct : members.Nodup
  writerNamed : writerSiteId ≠ []
  standbyNamed : standbySiteId ≠ []
  sitesDiffer : writerSiteId ≠ standbySiteId
deriving DecidableEq

namespace FailoverConfig

/-- Validate a configuration; the thresholds start from their defaults. -/
def new (members : List Text) (writerSiteId standbySiteId : Text) : Except Text FailoverConfig :=
  if memberCount : members.length = requiredMembers then
    if membersNamed : ∀ member ∈ members, member ≠ [] then
      if membersDistinct : members.Nodup then
        if sitesNamed : writerSiteId ≠ [] ∧ standbySiteId ≠ [] then
          if sitesDiffer : writerSiteId ≠ standbySiteId then
            .ok {
              members, writerSiteId
              standbySiteId, failedChecksRequired := defaultFailedChecksRequired
              recoveryChecksRequired := defaultRecoveryChecksRequired
              recoveryStableMs := defaultRecoveryStableMs
              observationFreshnessMs := defaultObservationFreshnessMs, memberCount, membersNamed
              membersDistinct, writerNamed := sitesNamed.1
              standbyNamed := sitesNamed.2
              sitesDiffer }
          else .error "writer and standby must be different sites".toList
        else
          .error "writer and standby site identifiers must not be empty".toList
      else .error "member identifiers must be distinct".toList
    else .error "member identifiers must not be empty".toList
  else .error "the quorum needs exactly 3 independent members".toList

variable (config : FailoverConfig)

/-- Override the failed and successful check thresholds. -/
def withCheckThresholds (failedChecksRequired recoveryChecksRequired : U32) : FailoverConfig :=
  { config with failedChecksRequired, recoveryChecksRequired }

/-- Override the minimum stable duration before a rejoin. -/
def withRecoveryStableMs (recoveryStableMs : U64) : FailoverConfig :=
  { config with recoveryStableMs }

/-- Override how long an observation counts as fresh evidence. -/
def withObservationFreshnessMs (observationFreshnessMs : U64) : FailoverConfig :=
  { config with observationFreshnessMs }

/-- Size of a majority of the configured members. -/
def majority : Nat := config.members.length / 2 + 1

end FailoverConfig

/-- What one member observed about the current writer. -/
inductive WriterObservation
  | reachable (epoch : U64)
  | unreachable
deriving DecidableEq

/-- Epoch carried by a reachable observation. -/
def WriterObservation.epoch? : WriterObservation → Option U64
  | .reachable epoch => some epoch
  | .unreachable => none

/-- The `sites` row of the old writer as one member observed it. -/
structure SiteFenceState where
  (enabled draining : Bool)
deriving DecidableEq

/-- A site is fenced when it is draining or disabled. -/
def SiteFenceState.isFenced (fence : SiteFenceState) : Bool := !fence.enabled || fence.draining

/-- One member's report for one check round. -/
structure MemberReport where
  memberId : Text
  observedAtMs : U64
  writer : WriterObservation
  writerSiteFence : Option SiteFenceState
  (writerStopConfirmed standbyReady formerWriterHealthy : Option Bool)
deriving DecidableEq

namespace MemberReport

variable (report : MemberReport)

/-- The report shows the old writer's site fenced. -/
def showsSiteFenced : Bool := report.writerSiteFence.any SiteFenceState.isFenced

/-- The report confirms that the old writer is stopped. -/
def showsStopConfirmed : Bool := report.writerStopConfirmed == some true

/-- The report shows the standby ready. -/
def showsStandbyReady : Bool := report.standbyReady == some true

/-- The report shows the former writer healthy. -/
def showsFormerWriterHealthy : Bool := report.formerWriterHealthy == some true

end MemberReport

/-- The reports that one check round gathered. -/
structure Round where
  reports : List MemberReport
deriving DecidableEq

/-- Controller phase. -/
inductive Phase
  | steady
  | suspecting (consecutiveFailures : U32)
  | fencingOldWriter
  | promoted (newEpoch : U64) (reconciled : Bool) (rejoinEmitted : Bool) (healthyStreak : U32)
      (stableSinceMs : Option U64)
deriving DecidableEq

/-- The part of a phase that survives a restart. -/
inductive RestorablePhase
  | steady | fencingOldWriter
  | promoting (newEpoch : U64)
  | promoted (newEpoch : U64) (reconciled rejoinEmitted : Bool)
deriving DecidableEq

/-- Label of a restorable phase in the journal encoding. -/
def RestorablePhase.label : RestorablePhase → Text
  | .steady => "steady".toList
  | .fencingOldWriter => "fencing".toList
  | .promoting _ => "promoting".toList
  | .promoted _ _ _ => "promoted".toList

/-- Why a round led to no action. -/
inductive HoldReason
  | writerHealthy
  | writerFailureSuspected (consecutiveFailures : U32)
  | conflictingEvidence (reachable unreachable : Nat)
  | awaitingFencingEvidence (siteFenced stopConfirmed : Bool)
  | awaitingStandbyReadiness | failoverCancelledWriterRecovered | epochUnknown | epochExhausted
  | steadyOnNewWriter
  | formerWriterRecovering (healthyChecks : U32) (stableMs : U64)
deriving DecidableEq

/-- The action, or deliberate non-action, for one check round. -/
inductive Decision
  | hold (reason : HoldReason)
  | quorumLost
  | fenceOldWriter (siteId : Text)
  | promoteStandby (siteId : Text) (newEpoch : U64)
  | keepDispatchPaused
  | rejoinFormerWriterAsReplica (siteId : Text)
deriving DecidableEq

/-- One member's folded vote for a round. -/
structure MemberVote where
  memberId : Text
  reachableEpoch : Option U64
  (siteFenced stopConfirmed standbyReady formerWriterHealthy : Bool)
deriving DecidableEq

namespace MemberVote

/-- The vote of a member before any of its reports is folded. -/
def blank (memberId : Text) : MemberVote where
  memberId
  reachableEpoch := none
  siteFenced := true
  stopConfirmed := true
  standbyReady := true
  formerWriterHealthy := true

/-- Fold one report: a reachable report dominates the writer vote, positive
evidence stays only while it is unanimous. -/
def fold (vote : MemberVote) (report : MemberReport) : MemberVote :=
  { vote with
    reachableEpoch :=
      match report.writer with
      | .reachable epoch =>
        some (vote.reachableEpoch.elim epoch fun seen => max seen epoch)
      | .unreachable => vote.reachableEpoch
    siteFenced := vote.siteFenced && report.showsSiteFenced
    stopConfirmed := vote.stopConfirmed && report.showsStopConfirmed
    standbyReady := vote.standbyReady && report.showsStandbyReady
    formerWriterHealthy :=
      vote.formerWriterHealthy && report.showsFormerWriterHealthy }

/-- Reports are folded into votes by member identity. -/
def keyed : KeyedFold Text MemberReport MemberVote where
  recordKey := MemberReport.memberId
  entryKey := MemberVote.memberId
  blank := blank
  fold := fold
  entryKey_blank := fun _ => rfl
  entryKey_fold := fun _ _ => rfl

end MemberVote

/-- What the votes of a round say about the writer. -/
structure Consensus where
  majority : Nat
  (healthy failure : Bool)
  (reachable unreachable : Nat)
deriving DecidableEq

/-- The promotion-decision state machine. -/
structure FailoverController where
  config : FailoverConfig
  phase : Phase
  maxEpochSeen : U64
deriving DecidableEq

/-- Reports that count as evidence in a round: from configured members, not
future-dated and not older than the freshness window. -/
def FailoverConfig.freshReports (config : FailoverConfig) (round : Round)
    (nowMs : U64) : List MemberReport :=
  round.reports.filter fun report =>
    decide (report.memberId ∈ config.members) &&
      decide (report.observedAtMs ≤ nowMs ∧
        nowMs - report.observedAtMs ≤ config.observationFreshnessMs)

namespace FailoverController

/-- A controller that has observed nothing. -/
def new (config : FailoverConfig) : FailoverController where
  config
  phase := .steady
  maxEpochSeen := 0

/-- Rebuild a controller from durable state; streaks restart at zero. -/
def restore (config : FailoverConfig) (maxEpochSeen : U64)
    (phase : RestorablePhase) : FailoverController where
  config
  maxEpochSeen :=
    match phase with
    | .promoting newEpoch => Word.saturatingPred newEpoch
    | .promoted newEpoch _ _ => Word.saturatingPred newEpoch
    | _ => maxEpochSeen
  phase :=
    match phase with
    | .steady => .steady
    | .fencingOldWriter => .fencingOldWriter
    | .promoting _ => .fencingOldWriter
    | .promoted newEpoch reconciled rejoinEmitted =>
      .promoted newEpoch reconciled rejoinEmitted 0 none

variable (controller : FailoverController)

/-- The explicit reconciliation input after an unplanned promotion. -/
def reconcileComplete : FailoverController × Except Text Unit :=
  match controller.phase with
  | .promoted newEpoch false rejoinEmitted healthyStreak stableSinceMs =>
    ({ controller with
        phase :=
          .promoted newEpoch true rejoinEmitted healthyStreak stableSinceMs },
      .ok ())
  | _ =>
    (controller, .error "reconciliation is only outstanding immediately after promotion".toList)

/-- A round without quorum restarts any incomplete hysteresis. -/
def resetHysteresisOnLostEvidence : FailoverController :=
  match controller.phase with
  | .suspecting _ => { controller with phase := .steady }
  | .promoted newEpoch reconciled rejoinEmitted _ _ =>
    { controller with
      phase := .promoted newEpoch reconciled rejoinEmitted 0 none }
  | _ => controller

/-- Record one more failed round, fencing at the threshold. -/
def enterSuspecting (consecutiveFailures : U32) : FailoverController × Decision :=
  if controller.config.failedChecksRequired ≤ consecutiveFailures then
    ({ controller with phase := .fencingOldWriter }, .fenceOldWriter controller.config.writerSiteId)
  else
    ({ controller with phase := .suspecting consecutiveFailures },
      .hold (.writerFailureSuspected consecutiveFailures))

/-- One round in the steady phase. -/
def observeSteady (consensus : Consensus) : FailoverController × Decision :=
  if consensus.healthy then
    (controller, .hold .writerHealthy)
  else if consensus.failure then
    controller.enterSuspecting 1
  else
    (controller, .hold (.conflictingEvidence consensus.reachable consensus.unreachable))

/-- One round in the suspecting phase. -/
def observeSuspecting (consecutiveFailures : U32)
    (consensus : Consensus) : FailoverController × Decision :=
  if consensus.healthy then
    ({ controller with phase := .steady }, .hold .writerHealthy)
  else if consensus.failure then
    controller.enterSuspecting (Word.saturatingSucc consecutiveFailures)
  else
    ({ controller with phase := .steady },
      .hold (.conflictingEvidence consensus.reachable consensus.unreachable))

/-- One round in the fencing phase. -/
def observeFencing (votes : List MemberVote)
    (consensus : Consensus) : FailoverController × Decision :=
  if consensus.healthy then
    ({ controller with phase := .steady }, .hold .failoverCancelledWriterRecovered)
  else if !consensus.failure then
    (controller, .hold (.conflictingEvidence consensus.reachable consensus.unreachable))
  else
    let siteFenced :=
      decide (consensus.majority ≤ votes.countP MemberVote.siteFenced)
    let stopConfirmed :=
      decide (consensus.majority ≤ votes.countP MemberVote.stopConfirmed)
    if !siteFenced || !stopConfirmed then
      (controller, .hold (.awaitingFencingEvidence siteFenced stopConfirmed))
    else if !decide (consensus.majority ≤ votes.countP MemberVote.standbyReady) then
      (controller, .hold .awaitingStandbyReadiness)
    else if controller.maxEpochSeen = 0 then
      (controller, .hold .epochUnknown)
    else if maxStoredEpoch ≤ controller.maxEpochSeen then
      (controller, .hold .epochExhausted)
    else
      match Word.checkedAdd controller.maxEpochSeen 1 with
      | none => (controller, .hold .epochExhausted)
      | some newEpoch =>
        ({ controller with phase := .promoted newEpoch false false 0 none },
          .promoteStandby controller.config.standbySiteId newEpoch)

/-- One round in the promoted phase, whose data are the arguments. -/
def observePromoted (newEpoch : U64)
    (reconciled rejoinEmitted : Bool) (healthyStreak : U32) (stableSinceMs : Option U64)
    (votes : List MemberVote) (majority : Nat) (nowMs : U64) : FailoverController × Decision :=
  if !reconciled then
    (controller, .keepDispatchPaused)
  else if rejoinEmitted then
    (controller, .hold .steadyOnNewWriter)
  else if !decide (majority ≤ votes.countP MemberVote.formerWriterHealthy) then
    ({ controller with
        phase := .promoted newEpoch reconciled rejoinEmitted 0 none },
      .hold .steadyOnNewWriter)
  else
    let healthyStreak := Word.saturatingSucc healthyStreak
    let stableSince := stableSinceMs.getD nowMs
    let stableMs := Word.saturatingSub nowMs stableSince
    if controller.config.recoveryChecksRequired ≤ healthyStreak ∧
        controller.config.recoveryStableMs ≤ stableMs then
      ({ controller with
          phase :=
            .promoted newEpoch reconciled true healthyStreak
              (some stableSince) },
        .rejoinFormerWriterAsReplica controller.config.writerSiteId)
    else
      ({ controller with
          phase :=
            .promoted newEpoch reconciled rejoinEmitted healthyStreak
              (some stableSince) },
        .hold (.formerWriterRecovering healthyStreak stableMs))

/-- The highest epoch seen once a vote is taken into account. -/
def seeEpoch (seen : U64) (vote : MemberVote) : U64 :=
  vote.reachableEpoch.elim seen fun epoch => max seen epoch

/-- What the votes of a round say about the writer. -/
def consensusOf (votes : List MemberVote) : Consensus :=
  let majority := controller.config.majority
  let reachable := votes.countP fun vote => vote.reachableEpoch.isSome
  { majority, healthy := decide (majority ≤ reachable)
    failure :=
      decide (majority ≤ votes.length - reachable) && decide (reachable = 0)
    reachable, unreachable := votes.length - reachable }

/-- Evaluate one check round. -/
def observe (round : Round) (nowMs : U64) : FailoverController × Decision :=
  let votes := MemberVote.keyed.collect (controller.config.freshReports round nowMs)
  let controller :=
    { controller with
      maxEpochSeen := votes.foldl seeEpoch controller.maxEpochSeen }
  if votes.length < controller.config.majority then
    (controller.resetHysteresisOnLostEvidence, .quorumLost)
  else
    let consensus := controller.consensusOf votes
    match controller.phase with
    | .steady => controller.observeSteady consensus
    | .suspecting consecutiveFailures =>
      controller.observeSuspecting consecutiveFailures consensus
    | .fencingOldWriter => controller.observeFencing votes consensus
    | .promoted newEpoch reconciled rejoinEmitted healthyStreak stableSinceMs =>
      controller.observePromoted newEpoch reconciled rejoinEmitted
        healthyStreak stableSinceMs votes consensus.majority nowMs

end FailoverController
end Zrotext.Failover
