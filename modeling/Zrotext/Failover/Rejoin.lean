import Zrotext.Failover.History

/-!
# After the promotion

A promoted controller keeps dispatch paused until reconciliation was reported,
once.  It lets the former writer rejoin at most once, and only after a streak
of rounds in which a majority saw that writer healthy.
-/

namespace Zrotext.Failover

open Foundation List Decision

namespace MemberVote

theorem foldl_fold_formerWriterHealthy (vote : MemberVote) (reports : List MemberReport) :
    (reports.foldl fold vote).formerWriterHealthy = (vote.formerWriterHealthy &&
        reports.all MemberReport.showsFormerWriterHealthy) := by
  induction reports generalizing vote with
  | nil => simp
  | cons report reports ih =>
    rw [foldl_cons, ih, all_cons]
    simp only [fold, Bool.and_assoc]

end MemberVote

namespace FailoverConfig

/-- A majority of members unanimously reports the former writer healthy. -/
def FormerHealthy (config : FailoverConfig) (check : Check) : Prop :=
  config.MajorityShows check MemberReport.showsFormerWriterHealthy

instance (config : FailoverConfig) (check : Check) : Decidable (config.FormerHealthy check) :=
  inferInstanceAs (Decidable (config.MajorityShows _ _))

theorem formerHealthy_iff (config : FailoverConfig) (check : Check) : config.FormerHealthy check ↔
      config.majority ≤ (config.votes check).countP MemberVote.formerWriterHealthy :=
  config.majorityShows_iff check _ _ fun member reports =>
    MemberVote.foldl_fold_formerWriterHealthy (.blank member) reports

end FailoverConfig

/-- The moves of a round with quorum after the promotion. -/
inductive Recovery (config : FailoverConfig) (check : Check) (newEpoch : U64) :
    Phase → Decision → Phase → Prop
  | paused (rejoinEmitted : Bool) (streak : U32) (since : Option U64) :
      Recovery config check newEpoch (.promoted newEpoch false rejoinEmitted streak since)
        .keepDispatchPaused
        (.promoted newEpoch false rejoinEmitted streak since)
  | rejoined (streak : U32) (since : Option U64) : Recovery config check newEpoch
        (.promoted newEpoch true true streak since) (.hold .steadyOnNewWriter)
        (.promoted newEpoch true true streak since)
  | unhealthy (streak : U32) (since : Option U64) : ¬ config.FormerHealthy check →
      Recovery config check newEpoch (.promoted newEpoch true false streak since)
        (.hold .steadyOnNewWriter) (.promoted newEpoch true false 0 none)
  | rejoins (streak : U32) (since : Option U64) : config.FormerHealthy check →
      config.recoveryChecksRequired ≤ Word.saturatingSucc streak → config.recoveryStableMs ≤
        Word.saturatingSub check.nowMs (since.getD check.nowMs) →
      Recovery config check newEpoch (.promoted newEpoch true false streak since)
        (.rejoinFormerWriterAsReplica config.writerSiteId)
        (.promoted newEpoch true true (Word.saturatingSucc streak) (some (since.getD check.nowMs)))
  | recovering (streak : U32) (since : Option U64) (stableMs : U64) : config.FormerHealthy check →
      Recovery config check newEpoch (.promoted newEpoch true false streak since)
        (.hold (.formerWriterRecovering (Word.saturatingSucc streak) stableMs))
        (.promoted newEpoch true false (Word.saturatingSucc streak) (some (since.getD check.nowMs)))

namespace FailoverController

theorem observePromoted_recovery (controller : FailoverController) (check : Check)
    (newEpoch reconciled rejoinEmitted streak since) (promoted : controller.phase =
      .promoted newEpoch reconciled rejoinEmitted streak since) :
    Recovery controller.config check newEpoch controller.phase
      (controller.observePromoted newEpoch reconciled rejoinEmitted streak since
        (controller.config.votes check) controller.config.majority check.nowMs).2
      (controller.observePromoted newEpoch reconciled rejoinEmitted streak since
        (controller.config.votes check) controller.config.majority check.nowMs).1.phase := by
  rw [promoted]
  unfold observePromoted
  cases reconciled with
  | false =>
    rw [if_pos (show (!false) = true from rfl)]
    simp only [promoted]
    exact .paused rejoinEmitted streak since
  | true =>
    rw [if_neg (by decide)]
    cases rejoinEmitted with
    | true =>
      rw [if_pos rfl]
      simp only [promoted]
      exact .rejoined streak since
    | false =>
      rw [if_neg (by decide)]
      split
      case isTrue unhealthy =>
        rw [Bool.not_eq_true', decide_eq_false_iff_not,
          ← FailoverConfig.formerHealthy_iff] at unhealthy
        exact .unhealthy streak since unhealthy
      case isFalse healthy =>
        rw [Bool.not_eq_true', decide_eq_false_iff_not, not_not,
          ← FailoverConfig.formerHealthy_iff] at healthy
        simp only
        split
        case isTrue met => exact .rejoins streak since healthy met.1 met.2
        case isFalse => exact .recovering streak since _ healthy

theorem observe_recovery (controller : FailoverController) (check : Check)
    {newEpoch reconciled rejoinEmitted streak since} (promoted : controller.phase =
      .promoted newEpoch reconciled rejoinEmitted streak since)
    (quorum : controller.config.HasQuorum check) :
    Recovery controller.config check newEpoch controller.phase
      (controller.observe check.round check.nowMs).2
      (controller.observe check.round check.nowMs).1.phase := by
  rw [observe_of_quorum controller check quorum]
  simp only [promoted]
  have recovery := (controller.withEpochs check).observePromoted_recovery check
    newEpoch reconciled rejoinEmitted streak since promoted
  rw [show (controller.withEpochs check).phase = controller.phase from rfl, promoted] at recovery
  exact recovery

end FailoverController

/-- A round with its decision, or a call that reports reconciliation. -/
inductive Occurrence
  | checked (check : Check) (decision : Decision)
  | reconciled (succeeded : Bool)
deriving DecidableEq

/-- A controller with everything that happened to it, the oldest first. -/
structure Course where
  controller : FailoverController
  occurrences : List Occurrence

namespace Course

def start (config : FailoverConfig) : Course := ⟨.new config, []⟩

def step (course : Course) : Input → Course
  | .observe check =>
    let result := course.controller.observe check.round check.nowMs
    { controller := result.1, occurrences := course.occurrences ++ [.checked check result.2] }
  | .reconcileComplete =>
    let result := course.controller.reconcileComplete
    { controller := result.1, occurrences := course.occurrences ++
        [.reconciled result.2.isOk] }

def run (config : FailoverConfig) (inputs : List Input) : Course := inputs.foldl step (start config)

end Course

/-- The rounds among occurrences. -/
def checksOf (occurrences : List Occurrence) : List Check := occurrences.filterMap fun
    | .checked check _ => some check
    | .reconciled _ => none

def Decision.IsFencing : Decision → Prop
  | .fenceOldWriter _ => True
  | _ => False

def Decision.IsPromotion : Decision → Prop
  | .promoteStandby _ _ => True
  | _ => False

def Decision.IsRejoin : Decision → Prop
  | .rejoinFormerWriterAsReplica _ => True
  | _ => False

/-- Some round decided in a certain way. -/
def Decided (certain : Decision → Prop) (occurrences : List Occurrence) : Prop :=
  ∃ check decision, .checked check decision ∈ occurrences ∧ certain decision

/-- Reconciliation was reported with success. -/
def WasReconciled (occurrences : List Occurrence) : Prop := .reconciled true ∈ occurrences

variable (config : FailoverConfig) (checks : List Check)

/-- The rounds end with a streak that is long enough, in number and in time, and
in which the former writer was healthy.  A clock that went back counts as no
time. -/
def EndsRecovered : Prop :=
  ∃ streak first last, streak <:+ checks ∧ config.recoveryChecksRequired.val ≤ streak.length ∧
    (∀ check ∈ streak, config.HasQuorum check ∧ config.FormerHealthy check) ∧
    streak.head? = some first ∧ streak.getLast? = some last ∧
    config.recoveryStableMs.val ≤ last.nowMs.val - first.nowMs.val

/-- What an occurrence may be, after those before it. -/
structure AfterPromotion (config : FailoverConfig) (before : List Occurrence)
    (occurrence : Occurrence) : Prop where
  /-- Dispatch stays paused until reconciliation. -/
  paused : ∀ check decision, occurrence = .checked check decision →
    Decided IsPromotion before → ¬ WasReconciled before →
      config.HasQuorum check → decision = .keepDispatchPaused
  /-- Reconciliation succeeds exactly when it is due. -/
  reconciles : ∀ succeeded, occurrence = .reconciled succeeded → (succeeded = true ↔
      Decided IsPromotion before ∧ ¬ WasReconciled before)
  /-- The former writer rejoins once, after reconciliation and a streak. -/
  rejoins : ∀ check decision, occurrence = .checked check decision → decision.IsRejoin →
      Decided IsPromotion before ∧ WasReconciled before ∧
        ¬ Decided IsRejoin before ∧
        EndsRecovered config (checksOf before ++ [check])
  /-- Nothing is fenced or promoted again. -/
  settled : Decided IsPromotion before → ∀ check decision,
    occurrence = .checked check decision → ¬ decision.IsFencing ∧ ¬ decision.IsPromotion

/-- The rounds end with a streak of so many healthy ones since a time. -/
def Streaks (count : U32) (since : Option U64) : Prop :=
  ∃ streak, streak <:+ checks ∧ count.val ≤ streak.length ∧
    (∀ check ∈ streak, config.HasQuorum check ∧ config.FormerHealthy check) ∧
    since = streak.head?.map Check.nowMs

/-- Reconciliation was reported to a phase. -/
def Phase.hasReconciled : Phase → Bool
  | .promoted _ reconciled _ _ _ => reconciled
  | _ => false

/-- The former writer was let back in before a phase. -/
def Phase.hasRejoined : Phase → Bool
  | .promoted _ _ rejoinEmitted _ _ => rejoinEmitted
  | _ => false

/-- Before reconciliation nothing is counted, and before the rejoin the counted
streak is one. -/
def Phase.Counts : Phase → Prop
  | .promoted _ reconciled rejoinEmitted count since =>
    (reconciled = false → rejoinEmitted = false ∧ count = 0 ∧ since = none) ∧
    (rejoinEmitted = false → Streaks config checks count since)
  | _ => True

/-- A phase agrees with what happened. -/
structure Remembers (config : FailoverConfig) (occurrences : List Occurrence)
    (phase : Phase) : Prop where
  promoted : Decided IsPromotion occurrences ↔ phase.IsPromoted
  reconciled : WasReconciled occurrences ↔ phase.hasReconciled = true
  rejoined : Decided IsRejoin occurrences ↔ phase.hasRejoined = true
  counts : phase.Counts config (checksOf occurrences)

/-- A round moves a phase in step with its decision, within the law. -/
structure Advance (config : FailoverConfig) (checks : List Check) (check : Check) (phase : Phase)
    (decision : Decision)
    (next : Phase) : Prop where
  promoted : next.IsPromoted ↔ phase.IsPromoted ∨ decision.IsPromotion
  reconciled : next.hasReconciled = phase.hasReconciled
  rejoined : next.hasRejoined = true ↔ phase.hasRejoined = true ∨ decision.IsRejoin
  counts : next.Counts config (checks ++ [check])
  paused : phase.IsPromoted → phase.hasReconciled = false →
    config.HasQuorum check → decision = .keepDispatchPaused
  rejoins : decision.IsRejoin → phase.IsPromoted ∧ phase.hasReconciled = true ∧
      phase.hasRejoined = false ∧ EndsRecovered config (checks ++ [check])
  settled : phase.IsPromoted → ¬ decision.IsFencing ∧ ¬ decision.IsPromotion

section Steps

variable {config : FailoverConfig} {checks : List Check} {phase : Phase} {count : U32}

theorem decided_checked : Decided certain (occurrences ++ [.checked check decision]) ↔
      Decided certain occurrences ∨ certain decision := by
  unfold Decided
  simp only [mem_append, mem_singleton, Occurrence.checked.injEq]
  constructor
  · rintro ⟨other, former, isOld | ⟨_, rfl⟩, holds⟩
    · exact .inl ⟨other, former, isOld, holds⟩
    · exact .inr holds
  · rintro (⟨other, former, isOld, holds⟩ | holds)
    · exact ⟨other, former, .inl isOld, holds⟩
    · exact ⟨check, decision, .inr ⟨rfl, rfl⟩, holds⟩

theorem decided_reconciled :
    Decided certain (occurrences ++ [.reconciled succeeded]) ↔ Decided certain occurrences := by
  simp [Decided]

theorem checksOf_checked : checksOf (occurrences ++ [.checked check decision]) =
      checksOf occurrences ++ [check] := by
  simp [checksOf]

theorem checksOf_reconciled (succeeded : Bool) : checksOf (occurrences ++ [.reconciled succeeded]) =
      checksOf occurrences := by
  simp [checksOf]

theorem remembers_start (config : FailoverConfig) : Remembers config [] .steady where
  promoted := iff_of_false (fun ⟨_, _, listed, _⟩ => nomatch listed) id
  reconciled := iff_of_false not_mem_nil Bool.false_ne_true
  rejoined := iff_of_false (fun ⟨_, _, listed, _⟩ => nomatch listed) Bool.false_ne_true
  counts := trivial

variable {next : Phase}

theorem Remembers.advance (remembers : Remembers config occurrences phase)
    (advance : Advance config (checksOf occurrences) check phase decision next) :
    Remembers config (occurrences ++ [.checked check decision]) next ∧
      AfterPromotion config occurrences (.checked check decision) := by
  refine ⟨⟨?_, ?_, ?_, ?_⟩, ⟨?_, nofun, ?_, ?_⟩⟩
  · rw [decided_checked, remembers.promoted, advance.promoted]
  · rw [advance.reconciled, ← remembers.reconciled]
    simp [WasReconciled]
  · rw [decided_checked, remembers.rejoined, advance.rejoined]
  · rw [checksOf_checked]
    exact advance.counts
  · rintro _ _ ⟨⟩
    rw [remembers.promoted, remembers.reconciled, Bool.not_eq_true]
    exact advance.paused
  · rintro _ _ ⟨⟩
    rw [remembers.promoted, remembers.reconciled, remembers.rejoined, Bool.not_eq_true]
    exact advance.rejoins
  · rintro wasPromoted _ _ ⟨⟩
    exact advance.settled (remembers.promoted.mp wasPromoted)

/-! ## Rounds -/

theorem streaks_zero (config : FailoverConfig) (checks : List Check) :
    Streaks config checks 0 none :=
  ⟨[], nil_suffix, Nat.le_refl 0, nofun, rfl⟩

section

variable (streaks : Streaks config checks count since) (quorum : config.HasQuorum check)
  (healthy : config.FormerHealthy check)

include streaks quorum healthy

theorem Streaks.grow : ∃ streak, streak <:+ checks ++ [check] ∧
      (Word.saturatingSucc count).val ≤ streak.length ∧
      (∀ check ∈ streak, config.HasQuorum check ∧ config.FormerHealthy check) ∧
      some (since.getD check.nowMs) = streak.head?.map Check.nowMs ∧
      streak.getLast? = some check := by
  obtain ⟨streak, isSuffix, long, all, isSince⟩ := streaks
  refine ⟨streak ++ [check], ?_, ?_, ?_, ?_, getLast?_concat⟩
  · obtain ⟨earlier, rfl⟩ := isSuffix
    exact ⟨earlier, (append_assoc ..).symm⟩
  · rw [length_append, length_singleton]
    exact (Word.saturatingSucc_val_le count).trans (Nat.succ_le_succ long)
  · exact forall_mem_append.mpr ⟨all, forall_mem_singleton.mpr ⟨quorum, healthy⟩⟩
  · rw [isSince]
    cases streak <;> rfl

theorem Streaks.recovered (enough : config.recoveryChecksRequired ≤ Word.saturatingSucc count)
    (stable : config.recoveryStableMs ≤ Word.saturatingSub check.nowMs (since.getD check.nowMs)) :
    EndsRecovered config (checks ++ [check]) := by
  obtain ⟨streak, isSuffix, long, all, isSince, isLast⟩ := streaks.grow quorum healthy
  obtain ⟨first, isFirst, isTime⟩ := Option.map_eq_some_iff.mp isSince.symm
  refine ⟨streak, first, check, isSuffix,
    (Fin.le_def.mp enough).trans long, all, isFirst, isLast, ?_⟩
  rw [isTime]
  exact stable

end

theorem advance_lost (counts : phase.Counts config checks) (lost : ¬ config.HasQuorum check) :
    Advance config checks check phase .quorumLost phase.restarted where
  promoted := by
    cases phase <;>
      simp [Phase.restarted, Phase.IsPromoted, IsPromotion]
  reconciled := by
    cases phase <;> rfl
  rejoined := by
    cases phase <;>
      simp [Phase.restarted, Phase.hasRejoined, IsRejoin]
  counts := by
    cases phase with
    | promoted newEpoch reconciled rejoinEmitted count since =>
      exact ⟨fun pending => ⟨(counts.1 pending).1, rfl, rfl⟩, fun _ => streaks_zero config _⟩
    | _ => trivial
  paused := fun _ _ quorum => absurd quorum lost
  rejoins := nofun
  settled := fun _ => ⟨id, id⟩

/-- A round after the promotion that does not let the former writer back in. -/
theorem Advance.of_promoted {reconciled : Bool} (counts : Phase.Counts config (checks ++ [check])
      (.promoted newEpoch reconciled rejoinEmitted countNow sinceNow))
    (paused : reconciled = false → decision = .keepDispatchPaused) (holds : ¬ decision.IsRejoin)
    (settled : ¬ decision.IsFencing ∧ ¬ decision.IsPromotion) : Advance config checks check
      (.promoted newEpoch reconciled rejoinEmitted count since) decision
      (.promoted newEpoch reconciled rejoinEmitted countNow sinceNow) where
  promoted := iff_of_true trivial (.inl trivial)
  reconciled := rfl
  rejoined := (or_iff_left holds).symm
  counts := counts
  paused := fun _ pending _ => paused pending
  rejoins := fun isRejoin => absurd isRejoin holds
  settled := fun _ => settled

theorem Recovery.advance (recovery : Recovery config check newEpoch phase decision next)
    (counts : phase.Counts config checks) (quorum : config.HasQuorum check) :
    Advance config checks check phase decision next := by
  cases recovery with
  | paused rejoinEmitted count since =>
    obtain ⟨rfl, rfl, rfl⟩ := counts.1 rfl
    exact .of_promoted ⟨fun _ => ⟨rfl, rfl, rfl⟩, fun _ => streaks_zero config _⟩
      (fun _ => rfl) id ⟨id, id⟩
  | rejoined => exact .of_promoted ⟨nofun, nofun⟩ nofun id ⟨id, id⟩
  | unhealthy =>
    exact .of_promoted ⟨nofun, fun _ => streaks_zero config _⟩ nofun id ⟨id, id⟩
  | recovering count since stableMs healthy =>
    obtain ⟨streak, isSuffix, long, all, isSince, _⟩ := (counts.2 rfl).grow quorum healthy
    exact .of_promoted ⟨nofun, fun _ => ⟨streak, isSuffix, long, all, isSince⟩⟩ nofun id ⟨id, id⟩
  | rejoins count since healthy enough stable =>
    exact
      { promoted := iff_of_true trivial (.inl trivial), reconciled := rfl
        rejoined := iff_of_true rfl (.inr trivial), counts := ⟨nofun, nofun⟩, paused := nofun
        rejoins := fun _ => ⟨trivial, rfl, rfl,
          (counts.2 rfl).recovered quorum healthy enough stable⟩
        settled := fun _ => ⟨id, id⟩ }

theorem Transition.unpromoted (move : Transition config check seen phase decision next)
    (unpromoted : ¬ phase.IsPromoted) : ¬ decision.IsRejoin ∧
      ((¬ next.IsPromoted ∧ ¬ decision.IsPromotion) ∨
        ∃ siteId newEpoch, decision = .promoteStandby siteId newEpoch ∧
          next = .promoted newEpoch false false 0 none) := by
  cases move with
  | quorumLost =>
    refine ⟨id, .inl ⟨?_, id⟩⟩
    cases phase with
    | promoted => exact absurd trivial unpromoted
    | _ => exact id
  | promote newEpoch => exact ⟨id, .inr ⟨_, newEpoch, rfl, rfl⟩⟩
  | afterPromotion => exact absurd trivial unpromoted
  | _ => exact ⟨id, .inl ⟨id, id⟩⟩

theorem Phase.flags_of_unpromoted (unpromoted : ¬ phase.IsPromoted) :
    phase.hasReconciled = false ∧ phase.hasRejoined = false ∧ phase.Counts config checks := by
  cases phase with
  | promoted => exact absurd trivial unpromoted
  | _ => exact ⟨rfl, rfl, trivial⟩

/-- A round before the promotion, or the one that promotes. -/
theorem Transition.advance (move : Transition config check seen phase decision next)
    (unpromoted : ¬ phase.IsPromoted) : Advance config checks check phase decision next := by
  obtain ⟨notReconciled, notRejoined, _⟩ := @Phase.flags_of_unpromoted config checks _ unpromoted
  obtain ⟨noRejoin, ⟨stays, noPromotion⟩ | ⟨siteId, newEpoch, rfl, rfl⟩⟩ :=
    move.unpromoted unpromoted
  · obtain ⟨notYet, notBack, counts⟩ := Phase.flags_of_unpromoted stays
    exact
      { promoted := by simp [stays, unpromoted, noPromotion]
        reconciled := notYet.trans notReconciled.symm
        rejoined := by simp [notBack, notRejoined, noRejoin]
        counts := counts
        paused := fun promoted => absurd promoted unpromoted
        rejoins := fun isRejoin => absurd isRejoin noRejoin
        settled := fun promoted => absurd promoted unpromoted }
  · exact
      { promoted := iff_of_true trivial (.inr trivial), reconciled := notReconciled.symm
        rejoined := by
          rw [notRejoined]
          simp [Phase.hasRejoined, noRejoin]
        counts := ⟨fun _ => ⟨rfl, rfl, rfl⟩, fun _ => streaks_zero config _⟩
        paused := fun promoted => absurd promoted unpromoted
        rejoins := fun isRejoin => absurd isRejoin noRejoin
        settled := fun promoted => absurd promoted unpromoted }

/-- Every round stays within the law. -/
theorem FailoverController.observe_advance (controller : FailoverController) (check : Check)
    (counts : controller.phase.Counts controller.config checks) :
    Advance controller.config checks check controller.phase
      (controller.observe check.round check.nowMs).2
      (controller.observe check.round check.nowMs).1.phase := by
  by_cases quorum : controller.config.HasQuorum check
  · cases isPhase : controller.phase with
    | promoted newEpoch reconciled rejoinEmitted count since =>
      have recovery := controller.observe_recovery check isPhase quorum
      rw [isPhase] at recovery counts
      exact recovery.advance counts quorum
    | _ =>
      have move := controller.observe_transition check
      unfold FailoverController.Moves at move
      rw [isPhase] at move
      exact move.advance id
  · rw [controller.observe_of_lost check quorum,
      FailoverController.resetHysteresisOnLostEvidence_eq]
    exact advance_lost counts quorum

theorem AfterPromotion.of_reconciliation (reconciles : succeeded = true ↔
      Decided IsPromotion occurrences ∧ ¬ WasReconciled occurrences) :
    AfterPromotion config occurrences (.reconciled succeeded) where
  paused := nofun
  reconciles := by
    rintro _ ⟨⟩
    exact reconciles
  rejoins := nofun
  settled := fun _ => nofun

theorem Remembers.undue (remembers : Remembers config occurrences phase)
    (undue : ¬ (phase.IsPromoted ∧ phase.hasReconciled = false)) :
    Remembers config (occurrences ++ [.reconciled false]) phase ∧
      AfterPromotion config occurrences (.reconciled false) := by
  refine ⟨⟨?_, ?_, ?_, ?_⟩, .of_reconciliation ?_⟩
  · exact decided_reconciled.trans remembers.promoted
  · rw [← remembers.reconciled]
    simp [WasReconciled]
  · exact decided_reconciled.trans remembers.rejoined
  · rw [checksOf_reconciled]
    exact remembers.counts
  · rw [remembers.promoted, remembers.reconciled, Bool.not_eq_true]
    exact iff_of_false Bool.false_ne_true undue

theorem Remembers.due (remembers : Remembers config occurrences
      (.promoted newEpoch false rejoinEmitted count since)) :
    Remembers config (occurrences ++ [.reconciled true])
        (.promoted newEpoch true rejoinEmitted count since) ∧
      AfterPromotion config occurrences (.reconciled true) := by
  refine ⟨⟨?_, ?_, ?_, ?_⟩, .of_reconciliation ?_⟩
  · exact decided_reconciled.trans remembers.promoted
  · simp [WasReconciled, Phase.hasReconciled]
  · exact decided_reconciled.trans remembers.rejoined
  · rw [checksOf_reconciled]
    exact ⟨nofun, remembers.counts.2⟩
  · rw [remembers.promoted, remembers.reconciled]
    simp [Phase.IsPromoted, Phase.hasReconciled]

theorem Remembers.reconcile {controller : FailoverController}
    (remembers : Remembers config occurrences controller.phase) : Remembers config
        (occurrences ++ [.reconciled controller.reconcileComplete.2.isOk])
        controller.reconcileComplete.1.phase ∧
      AfterPromotion config occurrences (.reconciled controller.reconcileComplete.2.isOk) := by
  unfold FailoverController.reconcileComplete
  split
  case h_1 newEpoch rejoinEmitted count since isPhase =>
    rw [isPhase] at remembers
    exact remembers.due
  case h_2 notDue =>
    refine remembers.undue ?_
    rintro ⟨promoted, pending⟩
    cases isPhase : controller.phase with
    | promoted newEpoch reconciled rejoinEmitted count since =>
      rw [isPhase] at pending
      cases pending
      exact notDue _ _ _ _ isPhase
    | _ =>
      rw [isPhase] at promoted
      cases promoted

end Steps

/-- The invariant of a course of events. -/
structure Course.Lawful (config : FailoverConfig) (course : Course) : Prop where
  configured : course.controller.config = config
  remembers : Remembers config course.occurrences course.controller.phase
  throughout : Throughout (AfterPromotion config) course.occurrences

namespace Course

theorem Lawful.observe {config : FailoverConfig} (lawful : Lawful config course)
    (check : Check) : Lawful config (course.step (.observe check)) := by
  obtain ⟨controller, occurrences⟩ := course
  obtain ⟨rfl, remembers, throughout⟩ := lawful
  obtain ⟨remembersNext, law⟩ := remembers.advance
    (controller.observe_advance check remembers.counts)
  exact ⟨controller.observe_config check, remembersNext,
    (throughout_concat _ occurrences _).mpr ⟨throughout, law⟩⟩

theorem reconcileComplete_config (controller : FailoverController) :
    controller.reconcileComplete.1.config = controller.config := by
  rcases controller.reconcileComplete_cases with same | ⟨_, _, _, _, _, after⟩
  · rw [same]
  · rw [after]

theorem Lawful.reconcileComplete (lawful : Lawful config course) :
    Lawful config (course.step .reconcileComplete) where
  configured := (reconcileComplete_config course.controller).trans lawful.configured
  remembers := lawful.remembers.reconcile.1
  throughout := (throughout_concat _ course.occurrences _).mpr
    ⟨lawful.throughout, lawful.remembers.reconcile.2⟩

theorem lawful_run (config : FailoverConfig) (inputs : List Input) :
    Lawful config (run config inputs) := by
  unfold run
  induction inputs using reverseRecOn with
  | nil => exact ⟨rfl, remembers_start config, throughout_nil _⟩
  | append_singleton inputs input ih =>
    rw [foldl_append]
    cases input with
    | observe check => exact ih.observe check
    | reconcileComplete => exact ih.reconcileComplete

/-- The rejoin and pause law, at every occurrence of every run. -/
theorem rejoin_and_pause_law (config : FailoverConfig) (inputs : List Input) :
    Throughout (AfterPromotion config) (run config inputs).occurrences :=
  (lawful_run config inputs).throughout

/-- Two checks let the former writer rejoin, after no particular time. -/
def impatientConfig : FailoverConfig := drillConfig.withCheckThresholds 2 2

/-- A round in which every member sees the former writer healthy. -/
def healthyCheck (nowMs : U64) : Check := drillCheck nowMs .unreachable none none none (some true)

/-- A failover and two healthy rounds, the second with an earlier clock. -/
def backwards : List Input := [.observe (reachableCheck 100 7), .observe (unreachableCheck 101),
    .observe (unreachableCheck 102), .observe (readyCheck 103),
    .reconcileComplete, .observe (healthyCheck 200), .observe (healthyCheck 150)]

/-- With no time required, the former writer rejoins after a streak that ends
before it began, and no other streak before it is long enough. -/
theorem rejoin_with_clock_back : (run impatientConfig backwards).occurrences.getLast? =
      some (.checked (healthyCheck 150) (.rejoinFormerWriterAsReplica "west".toList)) ∧
    ∀ streak ∈ (checksOf (run impatientConfig backwards).occurrences).tails,
      impatientConfig.recoveryChecksRequired.val ≤ streak.length →
      (∀ check ∈ streak, impatientConfig.HasQuorum check ∧ impatientConfig.FormerHealthy check) →
      ∀ first ∈ streak.head?, ∀ last ∈ streak.getLast?,
        ¬ (impatientConfig.recoveryStableMs.val : Int) ≤ last.nowMs.val - first.nowMs.val := by
  decide +kernel

end Course
end Zrotext.Failover
