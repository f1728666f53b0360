import Zrotext.Failover.Evidence

/-!
# Everything one observation can do

`Transition` lists the moves of the controller's phase together with the
evidence each of them rests on, and `observe_transition` says that `observe`
makes no other move.  Later proofs use the list and never unfold `observe`.
-/

namespace Zrotext.Failover

open Foundation FailoverConfig

/-- Failed rounds counted so far by a phase that has not requested fencing. -/
def Phase.failures : Phase → Option U32
  | .steady => some 0
  | .suspecting consecutiveFailures => some consecutiveFailures
  | .fencingOldWriter => none
  | .promoted _ _ _ _ _ => none

/-- A phase whose incomplete hysteresis has been restarted. -/
def Phase.restarted : Phase → Phase
  | .suspecting _ => .steady
  | .promoted newEpoch reconciled rejoinEmitted _ _ =>
    .promoted newEpoch reconciled rejoinEmitted 0 none
  | phase => phase

/-- The decisions of a round after the promotion. -/
inductive Decision.AfterPromotion (config : FailoverConfig) : Decision → Prop
  | keepDispatchPaused : AfterPromotion config .keepDispatchPaused
  | steadyOnNewWriter : AfterPromotion config (.hold .steadyOnNewWriter)
  | formerWriterRecovering (healthyChecks : U32) (stableMs : U64) : AfterPromotion config
        (.hold (.formerWriterRecovering healthyChecks stableMs))
  | rejoin : AfterPromotion config (.rejoinFormerWriterAsReplica config.writerSiteId)

/-- The moves of the phase in one check, where `seen` is the epoch memory that
already includes the check's own reports. -/
inductive Transition (config : FailoverConfig) (check : Check)
    (seen : U64) : Phase → Decision → Phase → Prop
  | quorumLost (phase : Phase) : ¬ config.HasQuorum check →
      Transition config check seen phase .quorumLost phase.restarted
  | healthy (phase : Phase) (failures : U32) : phase.failures = some failures →
      config.MajorityReachable check →
      Transition config check seen phase (.hold .writerHealthy) .steady
  | suspected (phase : Phase) (failures : U32) : phase.failures = some failures →
      config.Failed check → Word.saturatingSucc failures < config.failedChecksRequired →
      Transition config check seen phase
        (.hold (.writerFailureSuspected (Word.saturatingSucc failures)))
        (.suspecting (Word.saturatingSucc failures))
  | fence (phase : Phase) (failures : U32) : phase.failures = some failures → config.Failed check →
      config.failedChecksRequired ≤ Word.saturatingSucc failures →
      Transition config check seen phase (.fenceOldWriter config.writerSiteId) .fencingOldWriter
  | conflicting (phase : Phase) (failures : U32) (reachable unreachable : Nat) :
      phase.failures = some failures → Transition config check seen phase
        (.hold (.conflictingEvidence reachable unreachable)) .steady
  | cancelled : config.MajorityReachable check → Transition config check seen .fencingOldWriter
        (.hold .failoverCancelledWriterRecovered) .steady
  | waiting (reason : HoldReason) : reason ≠ .failoverCancelledWriterRecovered →
      ¬ config.MajorityReachable check →
      Transition config check seen .fencingOldWriter (.hold reason) .fencingOldWriter
  | promote (newEpoch : U64) : config.Failed check →
      config.MajorityShows check MemberReport.showsSiteFenced →
      config.MajorityShows check MemberReport.showsStopConfirmed →
      config.MajorityShows check MemberReport.showsStandbyReady → 0 < seen →
      newEpoch.val = seen.val + 1 → newEpoch ≤ maxStoredEpoch →
      Transition config check seen .fencingOldWriter (.promoteStandby config.standbySiteId newEpoch)
        (.promoted newEpoch false false 0 none)
  | afterPromotion (newEpoch : U64) (reconciled rejoinEmitted rejoinEmittedNow : Bool)
      (healthyStreak healthyStreakNow : U32) (stableSinceMs stableSinceMsNow : Option U64)
      (decision : Decision) : decision.AfterPromotion config → Transition config check seen
        (.promoted newEpoch reconciled rejoinEmitted healthyStreak stableSinceMs) decision
        (.promoted newEpoch reconciled rejoinEmittedNow healthyStreakNow stableSinceMsNow)

/-- The promotion has been decided. -/
def Phase.IsPromoted : Phase → Prop
  | .promoted _ _ _ _ _ => True
  | _ => False

/-- A decided promotion is never taken back, and never decided again. -/
theorem Transition.keepsPromoted (move : Transition config check seen phase decision next)
    (promoted : phase.IsPromoted) :
    next.IsPromoted ∧ ∀ siteId newEpoch, decision ≠ .promoteStandby siteId newEpoch := by
  cases move with
  | quorumLost _ _ =>
    cases phase with
    | promoted _ _ _ _ _ => exact ⟨trivial, nofun⟩
    | _ => cases promoted
  | afterPromotion _ _ _ _ _ _ _ _ _ after =>
    refine ⟨trivial, ?_⟩
    rintro siteId newEpoch rfl
    cases after
  | healthy _ _ counted | suspected _ _ counted | fence _ _ counted | conflicting _ _ _ _ counted =>
    cases phase <;> cases counted <;> cases promoted
  | cancelled | waiting | promote => cases promoted

/-- A promotion is decided in the fencing phase, under a positive epoch. -/
theorem Transition.promotes (move : Transition config check seen phase
      (.promoteStandby siteId newEpoch) next) :
    phase = .fencingOldWriter ∧ next.IsPromoted ∧ newEpoch ≠ 0 := by
  cases move with
  | promote _ _ _ _ _ _ successor _ =>
    refine ⟨rfl, trivial, ?_⟩
    rintro rfl
    exact absurd successor (Nat.succ_ne_zero _).symm
  | afterPromotion _ _ _ _ _ _ _ _ _ after => cases after

theorem Transition.seen_lt (move : Transition config check seen phase
      (.promoteStandby siteId newEpoch) next) : seen < newEpoch := by
  cases move with
  | promote _ _ _ _ _ _ successor _ =>
    rw [Fin.lt_def, successor]
    exact Nat.lt_succ_self _
  | afterPromotion _ _ _ _ _ _ _ _ _ after => cases after

namespace FailoverConfig

/-- Members that reach the writer also report, so they are a quorum. -/
theorem MajorityReachable.hasQuorum {config : FailoverConfig}
    (reachable : config.MajorityReachable check) : config.HasQuorum check := by
  refine le_trans reachable (List.countP_mono_left ?_)
  intro member _ reaches
  cases reports : config.reportsOf check member with
  | nil => rw [reports] at reaches; exact reaches
  | cons report rest => rfl

end FailoverConfig

namespace FailoverController

/-- A result of one check moved the phase along a listed transition. -/
def Moves (controller : FailoverController) (check : Check) (seen : U64)
    (result : FailoverController × Decision) : Prop :=
  Transition controller.config check seen controller.phase result.2 result.1.phase

theorem resetHysteresisOnLostEvidence_eq (controller : FailoverController) :
    controller.resetHysteresisOnLostEvidence =
      { controller with phase := controller.phase.restarted } := by
  obtain ⟨config, phase, seen⟩ := controller
  cases phase <;> rfl

variable (controller : FailoverController) (check : Check)

/-- The consensus of a check. -/
abbrev consensus : Consensus := controller.consensusOf (controller.config.votes check)

theorem consensusOf_healthy_iff :
    (controller.consensus check).healthy ↔ controller.config.MajorityReachable check := by
  rw [majorityReachable_iff]
  exact decide_eq_true_iff

theorem consensusOf_failure_iff (quorum : controller.config.HasQuorum check) :
    (controller.consensus check).failure ↔ controller.config.Failed check := by
  unfold Failed
  rw [noneReachable_iff]
  rw [hasQuorum_iff] at *
  simp only [consensusOf, Bool.and_eq_true, decide_eq_true_eq]
  constructor
  · rintro ⟨_, none⟩
    exact ⟨quorum, none⟩
  · rintro ⟨_, none⟩
    refine ⟨?_, none⟩
    rw [none]
    exact quorum

/-- Recording a failed round either fences or keeps suspecting. -/
theorem enterSuspecting_transition (seen failures)
    (counted : controller.phase.failures = some failures)
    (failed : controller.config.Failed check) : controller.Moves check seen
      (controller.enterSuspecting (Word.saturatingSucc failures)) := by
  unfold enterSuspecting
  split
  case isTrue reached =>
    exact .fence controller.phase failures counted failed reached
  case isFalse below =>
    exact .suspected controller.phase failures counted failed (not_le.mp below)

theorem observeSteady_transition (seen) (steady : controller.phase = .steady)
    (quorum : controller.config.HasQuorum check) : controller.Moves check seen
      (controller.observeSteady (controller.consensus check)) := by
  have counted : controller.phase.failures = some 0 := by rw [steady]; rfl
  unfold observeSteady
  split
  case isTrue healthy =>
    rw [consensusOf_healthy_iff] at healthy
    have move : Transition controller.config check seen controller.phase
        (.hold .writerHealthy) .steady :=
      .healthy controller.phase 0 counted healthy
    rw [← steady] at move
    exact move
  case isFalse _ =>
    split
    case isTrue failure =>
      rw [controller.consensusOf_failure_iff check quorum] at failure
      exact controller.enterSuspecting_transition check seen 0 counted failure
    case isFalse _ =>
      let consensus := controller.consensus check
      have move : Transition controller.config check seen controller.phase
          (.hold (.conflictingEvidence consensus.reachable consensus.unreachable)) .steady :=
        .conflicting controller.phase 0 _ _ counted
      rw [← steady] at move
      exact move

theorem observeSuspecting_transition (seen failures)
    (suspecting : controller.phase = .suspecting failures)
    (quorum : controller.config.HasQuorum check) : controller.Moves check seen
      (controller.observeSuspecting failures (controller.consensus check)) := by
  have counted : controller.phase.failures = some failures := by
    rw [suspecting]; rfl
  unfold observeSuspecting
  split
  case isTrue healthy =>
    rw [consensusOf_healthy_iff] at healthy
    exact .healthy controller.phase failures counted healthy
  case isFalse _ =>
    split
    case isTrue failure =>
      rw [controller.consensusOf_failure_iff check quorum] at failure
      exact controller.enterSuspecting_transition check seen failures counted failure
    case isFalse _ =>
      exact .conflicting controller.phase failures _ _ counted

theorem observeFencing_transition (fencing : controller.phase = .fencingOldWriter)
    (quorum : controller.config.HasQuorum check) : controller.Moves check controller.maxEpochSeen
      (controller.observeFencing (controller.config.votes check)
        (controller.consensus check)) := by
  have wait : ∀ reason : HoldReason, reason ≠ .failoverCancelledWriterRecovered →
      ¬ controller.config.MajorityReachable check →
      controller.Moves check controller.maxEpochSeen (controller, .hold reason) := by
    intro reason different unreachable
    rw [Moves, fencing]
    exact .waiting reason different unreachable
  unfold observeFencing
  split
  case isTrue healthy =>
    rw [consensusOf_healthy_iff] at healthy
    rw [Moves, fencing]
    exact .cancelled healthy
  case isFalse unhealthy =>
    rw [consensusOf_healthy_iff] at unhealthy
    split
    · exact wait _ (by simp) unhealthy
    case isFalse failure =>
      rw [Bool.not_eq_true', Bool.not_eq_false,
        controller.consensusOf_failure_iff check quorum] at failure
      simp only
      split
      · exact wait _ (by simp) unhealthy
      case isFalse fencedAndStopped =>
        split
        · exact wait _ (by simp) unhealthy
        case isFalse ready =>
          split
          · exact wait _ (by simp) unhealthy
          case isFalse known =>
            split
            · exact wait _ (by simp) unhealthy
            case isFalse storable =>
              cases added : Word.checkedAdd controller.maxEpochSeen 1 with
              | none => exact wait _ (by simp) unhealthy
              | some newEpoch =>
                rw [Word.checkedAdd_eq_some_iff] at added
                simp only [Bool.or_eq_true, Bool.not_eq_true',
                  decide_eq_false_iff_not, not_or, not_not]
                  at fencedAndStopped ready
                rw [Moves, fencing]
                refine .promote newEpoch failure ?_ ?_ ?_ (Fin.pos_iff_ne_zero.mpr known) added ?_
                · rw [majorityShows_siteFenced_iff]
                  exact fencedAndStopped.1
                · rw [majorityShows_stopConfirmed_iff]
                  exact fencedAndStopped.2
                · rw [majorityShows_standbyReady_iff]
                  exact ready
                · rw [not_le, Fin.lt_def] at storable
                  rw [Fin.le_def, added]
                  exact storable

theorem observePromoted_transition
    (seen newEpoch reconciled rejoinEmitted healthyStreak stableSinceMs) (votes majority)
    (promoted : controller.phase = .promoted newEpoch reconciled rejoinEmitted healthyStreak
        stableSinceMs) :
    controller.Moves check seen (controller.observePromoted newEpoch reconciled rejoinEmitted
        healthyStreak stableSinceMs votes majority check.nowMs) := by
  have stay : ∀ decision : Decision, decision.AfterPromotion controller.config →
      controller.Moves check seen (controller, decision) := by
    intro decision after
    rw [Moves, promoted]
    exact .afterPromotion _ _ _ _ _ _ _ _ _ after
  have move : ∀ (decision : Decision) (rejoinNow : Bool) (streakNow : U32) (sinceNow : Option U64),
      decision.AfterPromotion controller.config →
      controller.Moves check seen
        ({ controller with
            phase :=
              .promoted newEpoch reconciled rejoinNow streakNow sinceNow },
          decision) := by
    intro decision rejoinNow streakNow sinceNow after
    rw [Moves, promoted]
    exact .afterPromotion _ _ _ _ _ _ _ _ _ after
  unfold observePromoted
  split
  · exact stay _ .keepDispatchPaused
  · split
    · exact stay _ .steadyOnNewWriter
    · split
      · exact move _ _ _ _ .steadyOnNewWriter
      · simp only
        split
        · exact move _ _ _ _ .rejoin
        · exact move _ _ _ _ (.formerWriterRecovering _ _)

/-- The epoch memory after a check. -/
def epochAfter : U64 := (controller.config.votes check).foldl seeEpoch controller.maxEpochSeen

/-- The controller as a check finds it once the epochs have been read. -/
def withEpochs : FailoverController :=
  { controller with maxEpochSeen := controller.epochAfter check }

theorem observe_of_lost (lost : ¬ controller.config.HasQuorum check) :
    controller.observe check.round check.nowMs =
      ((controller.withEpochs check).resetHysteresisOnLostEvidence, .quorumLost) := by
  rw [hasQuorum_iff, not_le] at lost
  exact if_pos lost

theorem observe_of_quorum (quorum : controller.config.HasQuorum check) :
    controller.observe check.round check.nowMs =
      match controller.phase with
      | .steady =>
        (controller.withEpochs check).observeSteady (controller.consensus check)
      | .suspecting consecutiveFailures =>
        (controller.withEpochs check).observeSuspecting consecutiveFailures
          (controller.consensus check)
      | .fencingOldWriter =>
        (controller.withEpochs check).observeFencing (controller.config.votes check)
          (controller.consensus check)
      | .promoted newEpoch reconciled rejoinEmitted healthyStreak stableSinceMs =>
        (controller.withEpochs check).observePromoted newEpoch reconciled
          rejoinEmitted healthyStreak stableSinceMs
          (controller.config.votes check) controller.config.majority
          check.nowMs := by
  rw [hasQuorum_iff, ← not_lt] at quorum
  exact if_neg quorum

/-- An observation moves the phase along one of the listed transitions. -/
theorem observe_transition : controller.Moves check (controller.epochAfter check)
      (controller.observe check.round check.nowMs) := by
  by_cases quorum : controller.config.HasQuorum check
  · rw [observe_of_quorum controller check quorum]
    cases phase : controller.phase with
    | steady =>
      exact (controller.withEpochs check).observeSteady_transition check _ phase quorum
    | suspecting failures =>
      exact (controller.withEpochs check).observeSuspecting_transition check
        _ failures phase quorum
    | fencingOldWriter =>
      exact (controller.withEpochs check).observeFencing_transition check phase quorum
    | promoted newEpoch reconciled rejoinEmitted healthyStreak stableSinceMs =>
      exact (controller.withEpochs check).observePromoted_transition check _
        newEpoch reconciled rejoinEmitted healthyStreak stableSinceMs _ _
        phase
  · rw [observe_of_lost controller check quorum, resetHysteresisOnLostEvidence_eq]
    exact .quorumLost controller.phase quorum

/-- A result differs from the controller at most in its phase. -/
def OnlyPhase (result : FailoverController × Decision) : Prop :=
  result.1.config = controller.config ∧ result.1.maxEpochSeen = controller.maxEpochSeen

theorem enterSuspecting_onlyPhase (failures : U32) :
    controller.OnlyPhase (controller.enterSuspecting failures) := by
  unfold enterSuspecting
  split <;> exact ⟨rfl, rfl⟩

theorem observeSteady_onlyPhase (consensus : Consensus) :
    controller.OnlyPhase (controller.observeSteady consensus) := by
  unfold observeSteady
  split
  · exact ⟨rfl, rfl⟩
  · split
    · exact controller.enterSuspecting_onlyPhase 1
    · exact ⟨rfl, rfl⟩

theorem observeSuspecting_onlyPhase (failures : U32) (consensus : Consensus) :
    controller.OnlyPhase (controller.observeSuspecting failures consensus) := by
  unfold observeSuspecting
  split
  · exact ⟨rfl, rfl⟩
  · split
    · exact controller.enterSuspecting_onlyPhase _
    · exact ⟨rfl, rfl⟩

theorem observeFencing_onlyPhase (votes : List MemberVote) (consensus : Consensus) :
    controller.OnlyPhase (controller.observeFencing votes consensus) := by
  unfold observeFencing
  simp only
  repeat' split
  all_goals exact ⟨rfl, rfl⟩

theorem observePromoted_onlyPhase (newEpoch reconciled rejoinEmitted healthyStreak stableSinceMs)
    (votes majority nowMs) : controller.OnlyPhase
      (controller.observePromoted newEpoch reconciled rejoinEmitted
        healthyStreak stableSinceMs votes majority nowMs) := by
  unfold observePromoted
  simp only
  repeat' split
  all_goals exact ⟨rfl, rfl⟩

/-- An observation keeps the configuration and remembers the epochs it read. -/
theorem observe_onlyPhase : (controller.withEpochs check).OnlyPhase
      (controller.observe check.round check.nowMs) := by
  by_cases quorum : controller.config.HasQuorum check
  · rw [observe_of_quorum controller check quorum]
    cases phase : controller.phase with
    | steady => exact observeSteady_onlyPhase _ _
    | suspecting failures => exact observeSuspecting_onlyPhase _ _ _
    | fencingOldWriter => exact observeFencing_onlyPhase _ _ _
    | promoted newEpoch reconciled rejoinEmitted healthyStreak stableSinceMs =>
      exact observePromoted_onlyPhase _ _ _ _ _ _ _ _ _
  · rw [observe_of_lost controller check quorum, resetHysteresisOnLostEvidence_eq]
    exact ⟨rfl, rfl⟩

@[simp] theorem observe_config : (controller.observe check.round check.nowMs).1.config =
      controller.config :=
  (controller.observe_onlyPhase check).1

@[simp] theorem observe_maxEpochSeen : (controller.observe check.round check.nowMs).1.maxEpochSeen =
      controller.epochAfter check :=
  (controller.observe_onlyPhase check).2

/-- The reconciliation input only sets the flag of a promoted phase. -/
theorem reconcileComplete_cases : controller.reconcileComplete.1 = controller ∨
      ∃ newEpoch rejoinEmitted healthyStreak stableSinceMs, controller.phase =
            .promoted newEpoch false rejoinEmitted healthyStreak stableSinceMs ∧
          controller.reconcileComplete.1 =
            { controller with
              phase :=
                .promoted newEpoch true rejoinEmitted healthyStreak
                  stableSinceMs } := by
  unfold reconcileComplete
  split
  case h_1 newEpoch rejoinEmitted healthyStreak stableSinceMs phase =>
    exact .inr ⟨_, _, _, _, phase, rfl⟩
  case h_2 => exact .inl rfl

end FailoverController
end Zrotext.Failover
