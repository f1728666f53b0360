import Zrotext.Failover.Transition
import Zrotext.Foundation.Trace

/-!
# The history behind every action

A controller is started once and then receives rounds and reconciliation
inputs.  The log of its checks explains each of its actions: a fence request
closes a streak of failed rounds, and a promotion follows an uncancelled fence,
rests on unanimous majorities and names an epoch above everything ever seen.
-/

namespace Zrotext.Failover

open Foundation List MemberReport

/-- One input of the controller. -/
inductive Input
  | observe (check : Check)
  | reconcileComplete
deriving DecidableEq

/-- One evaluated check. -/
structure Observation where
  check : Check
  decision : Decision
deriving DecidableEq

/-- A controller together with the log of its checks, oldest first. -/
structure History where
  controller : FailoverController
  log : List Observation
deriving DecidableEq

namespace History

/-- The history of a controller that has received nothing. -/
def start (config : FailoverConfig) : History where
  controller := .new config
  log := []

/-- One more input. -/
def step (history : History) : Input → History
  | .observe check =>
    let result := history.controller.observe check.round check.nowMs
    { controller := result.1, log := history.log ++ [⟨check, result.2⟩] }
  | .reconcileComplete =>
    { history with controller := history.controller.reconcileComplete.1 }

/-- The history of a sequence of inputs. -/
def run (config : FailoverConfig) (inputs : List Input) : History :=
  inputs.foldl step (start config)

end History

variable (config : FailoverConfig) (log : List Observation)

/-- No check of the log promoted the standby. -/
def NoPromotion : Prop := ∀ observation ∈ log, ∀ siteId newEpoch,
    observation.decision ≠ .promoteStandby siteId newEpoch

/-- The log ends with at least so many failed rounds. -/
def EndsFailed (count : Nat) : Prop :=
  ∃ earlier streak, log = earlier ++ streak ∧ count ≤ streak.length ∧
    ∀ observation ∈ streak, config.Failed observation.check

/-- The log contains a fence request that no majority-reachable round has
followed. -/
def FencedSince : Prop := ∃ earlier fence siteId later, log = earlier ++ fence :: later ∧
    fence.decision = .fenceOldWriter siteId ∧
    ∀ observation ∈ later, ¬ config.MajorityReachable observation.check

/-- Every epoch that a fresh report of the log carried is at most `bound`. -/
def EpochsAtMost (bound : U64) : Prop :=
  ∀ observation ∈ log, ∀ report ∈ config.freshReports observation.check.round
      observation.check.nowMs,
      ∀ epoch, report.writer = .reachable epoch → epoch ≤ bound

/-- What the log before a check, and the check itself, show when the check led
to an action. -/
structure Justified (config : FailoverConfig) (before : List Observation)
    (observation : Observation) : Prop where
  fence : ∀ siteId, observation.decision = .fenceOldWriter siteId →
    EndsFailed config (before ++ [observation]) config.failedChecksRequired.val
  unpromoted : ∀ siteId newEpoch, observation.decision = .promoteStandby siteId newEpoch →
    NoPromotion before
  fenced : ∀ siteId newEpoch, observation.decision = .promoteStandby siteId newEpoch →
    FencedSince config before
  evidence : ∀ siteId newEpoch, observation.decision = .promoteStandby siteId newEpoch →
    config.NoneReachable observation.check ∧
      config.MajorityShows observation.check showsSiteFenced ∧
      config.MajorityShows observation.check showsStopConfirmed ∧
      config.MajorityShows observation.check showsStandbyReady
  epoch : ∀ siteId newEpoch, observation.decision = .promoteStandby siteId newEpoch →
    newEpoch ≤ maxStoredEpoch ∧ ∃ seen, seen < newEpoch ∧
        EpochsAtMost config (before ++ [observation]) seen

/-- What a phase remembers of the log. -/
structure PhaseShows (config : FailoverConfig) (log : List Observation) (phase : Phase) : Prop where
  counting : ∀ failures, phase.failures = some failures →
    NoPromotion log ∧ EndsFailed config log failures.val
  fencing : phase = .fencingOldWriter → NoPromotion log ∧ FencedSince config log

/-- The invariant of a history. -/
structure History.Sound (config : FailoverConfig) (history : History) : Prop where
  configured : history.controller.config = config
  epochs : EpochsAtMost config history.log history.controller.maxEpochSeen
  phase : PhaseShows config history.log history.controller.phase
  justified : Throughout (Justified config) history.log

variable {config : FailoverConfig} {log : List Observation}

theorem EndsFailed.mono {count : Nat} (ends : EndsFailed config log count)
    (fewerLe : fewer ≤ count) : EndsFailed config log fewer := by
  obtain ⟨earlier, streak, split, long, failed⟩ := ends
  exact ⟨earlier, streak, split, le_trans fewerLe long, failed⟩

theorem EndsFailed.concat {count : Nat} (ends : EndsFailed config log count)
    (observation : Observation) (failed : config.Failed observation.check) :
    EndsFailed config (log ++ [observation]) (count + 1) := by
  obtain ⟨earlier, streak, split, long, allFailed⟩ := ends
  refine ⟨earlier, streak ++ [observation], ?_, ?_, ?_⟩
  · rw [split, append_assoc]
  · rw [length_append, length_singleton]
    exact Nat.add_le_add_right long 1
  · rw [forall_mem_append, forall_mem_singleton]
    exact ⟨allFailed, failed⟩

/-- A streak of an exact length can be cut from a longer one. -/
theorem EndsFailed.exact {count : Nat} (ends : EndsFailed config log count) :
    ∃ earlier streak, log = earlier ++ streak ∧ streak.length = count ∧
      ∀ observation ∈ streak, config.Failed observation.check := by
  obtain ⟨earlier, streak, split, long, failed⟩ := ends
  refine ⟨earlier ++ streak.take (streak.length - count),
    streak.drop (streak.length - count), ?_, ?_, ?_⟩
  · rw [append_assoc, take_append_drop, split]
  · rw [length_drop]
    omega
  · intro observation member
    exact failed observation (mem_of_mem_drop member)

theorem NoPromotion.concat (none : NoPromotion log) (observation : Observation)
    (other : ∀ siteId newEpoch, observation.decision ≠ .promoteStandby siteId newEpoch) :
    NoPromotion (log ++ [observation]) := by
  unfold NoPromotion
  rw [forall_mem_append, forall_mem_singleton]
  exact ⟨none, other⟩

theorem FencedSince.concat (fenced : FencedSince config log) (observation : Observation)
    (unreachable : ¬ config.MajorityReachable observation.check) :
    FencedSince config (log ++ [observation]) := by
  obtain ⟨earlier, fence, siteId, later, split, decided, none⟩ := fenced
  refine ⟨earlier, fence, siteId, later ++ [observation], ?_, decided, ?_⟩
  · rw [split, append_assoc, cons_append]
  · rw [forall_mem_append, forall_mem_singleton]
    exact ⟨none, unreachable⟩

theorem EpochsAtMost.concat (epochs : EpochsAtMost config log bound)
    (observation : Observation) (own : ∀ report ∈ config.freshReports observation.check.round
      observation.check.nowMs, ∀ epoch, report.writer = .reachable epoch → epoch ≤ bound) :
    EpochsAtMost config (log ++ [observation]) bound := by
  unfold EpochsAtMost
  rw [forall_mem_append, forall_mem_singleton]
  exact ⟨epochs, own⟩

theorem EpochsAtMost.mono (epochs : EpochsAtMost config log bound)
    (boundLe : bound ≤ larger) : EpochsAtMost config log larger := by
  intro observation member report fresh epoch observed
  exact le_trans (epochs observation member report fresh epoch observed) boundLe

theorem justified_of_noAction (config : FailoverConfig) (before : List Observation)
    (noFence : ∀ siteId, observation.decision ≠ .fenceOldWriter siteId)
    (noPromotion : ∀ siteId newEpoch, observation.decision ≠ .promoteStandby siteId newEpoch) :
    Justified config before observation where
  fence := fun siteId decided => absurd decided (noFence siteId)
  unpromoted := fun siteId newEpoch decided =>
    absurd decided (noPromotion siteId newEpoch)
  fenced := fun siteId newEpoch decided =>
    absurd decided (noPromotion siteId newEpoch)
  evidence := fun siteId newEpoch decided =>
    absurd decided (noPromotion siteId newEpoch)
  epoch := fun siteId newEpoch decided =>
    absurd decided (noPromotion siteId newEpoch)

theorem phaseShows_steady (config : FailoverConfig)
    (none : NoPromotion log) : PhaseShows config log .steady where
  counting := by
    intro failures counted
    cases counted
    exact ⟨none, log, [], by simp, Nat.le_refl 0, by simp⟩
  fencing := nofun

theorem phaseShows_fencing
    (none : NoPromotion log) (fenced : FencedSince config log) :
    PhaseShows config log .fencingOldWriter where
  counting := nofun
  fencing := fun _ => ⟨none, fenced⟩

theorem phaseShows_promoted (config : FailoverConfig) (log : List Observation)
    (newEpoch reconciled rejoinEmitted healthyStreak stableSinceMs) : PhaseShows config log
      (.promoted newEpoch reconciled rejoinEmitted healthyStreak stableSinceMs) where
  counting := nofun
  fencing := nofun

theorem PhaseShows.restarted (shown : PhaseShows config log phase) (check : Check)
    (lost : ¬ config.HasQuorum check) :
    PhaseShows config (log ++ [⟨check, .quorumLost⟩]) phase.restarted := by
  cases phase with
  | steady =>
    exact phaseShows_steady config ((shown.counting 0 rfl).1.concat _ (by simp))
  | suspecting failures =>
    exact phaseShows_steady config ((shown.counting failures rfl).1.concat _ (by simp))
  | fencingOldWriter =>
    obtain ⟨none, fenced⟩ := shown.fencing rfl
    have unreachable : ¬ config.MajorityReachable check := fun reachable => lost reachable.hasQuorum
    exact phaseShows_fencing (none.concat _ (by simp)) (fenced.concat _ unreachable)
  | promoted newEpoch reconciled rejoinEmitted healthyStreak stableSinceMs =>
    exact phaseShows_promoted config _ _ _ _ _ _

theorem PhaseShows.failedRound (shown : PhaseShows config log phase)
    (counted : phase.failures = some failures) (observation : Observation)
    (failed : config.Failed observation.check) : EndsFailed config (log ++ [observation])
      (Word.saturatingSucc failures).val :=
  ((shown.counting failures counted).2.concat observation failed).mono
    (Word.saturatingSucc_val_le failures)

theorem PhaseShows.transition {next : Phase} (shown : PhaseShows config log phase)
    (move : Transition config check seen phase decision next)
    (epochs : EpochsAtMost config (log ++ [⟨check, decision⟩]) seen) :
    PhaseShows config (log ++ [⟨check, decision⟩]) next ∧
      Justified config log ⟨check, decision⟩ := by
  cases move with
  | quorumLost _ lost =>
    exact ⟨shown.restarted check lost, justified_of_noAction config log (by simp) (by simp)⟩
  | healthy _ failures counted | conflicting _ failures _ _ counted =>
    exact ⟨phaseShows_steady config ((shown.counting failures counted).1.concat _ (by simp)),
      justified_of_noAction config log (by simp) (by simp)⟩
  | suspected _ failures counted failed below =>
    refine ⟨⟨?_, fun same => by cases same⟩, justified_of_noAction config log (by simp) (by simp)⟩
    intro count same
    cases same
    exact ⟨(shown.counting failures counted).1.concat _ (by simp),
      shown.failedRound counted _ failed⟩
  | fence _ failures counted failed reached =>
    have none := (shown.counting failures counted).1
    refine ⟨phaseShows_fencing ?_ ?_, ?_⟩
    · exact none.concat _ (by simp)
    · exact ⟨log, ⟨check, .fenceOldWriter config.writerSiteId⟩,
        config.writerSiteId, [], rfl, rfl, by simp⟩
    · refine ⟨?_, by simp, by simp, by simp, by simp⟩
      intro siteId _
      have ends := shown.failedRound counted ⟨check, .fenceOldWriter config.writerSiteId⟩ failed
      exact ends.mono (Fin.le_def.mp reached)
  | cancelled reachable =>
    exact ⟨phaseShows_steady config ((shown.fencing rfl).1.concat _ (by simp)),
      justified_of_noAction config log (by simp) (by simp)⟩
  | waiting reason different unreachable =>
    obtain ⟨none, fenced⟩ := shown.fencing rfl
    exact ⟨phaseShows_fencing (none.concat _ (by simp)) (fenced.concat _ unreachable),
      justified_of_noAction config log (by simp) (by simp)⟩
  | promote newEpoch failed siteFenced stopped ready known successor stored =>
    obtain ⟨none, fenced⟩ := shown.fencing rfl
    refine ⟨phaseShows_promoted config _ _ _ _ _ _, ?_⟩
    refine ⟨by simp, fun _ _ _ => none, fun _ _ _ => fenced,
      fun _ _ _ => ⟨failed.2, siteFenced, stopped, ready⟩, ?_⟩
    intro siteId epoch same
    cases same
    refine ⟨stored, seen, ?_, epochs⟩
    rw [Fin.lt_def, successor]
    exact Nat.lt_succ_self _
  | afterPromotion newEpoch reconciled _ _ _ _ _ _ _ after =>
    refine ⟨phaseShows_promoted config _ _ _ _ _ _, justified_of_noAction config log ?_ ?_⟩ <;>
      cases after <;> simp

namespace History

theorem Sound.observe (sound : Sound config history) (check : Check) :
    Sound config (history.step (.observe check)) := by
  obtain ⟨controller, log⟩ := history
  obtain ⟨rfl, epochs, phase, justified⟩ := sound
  let decision := (controller.observe check.round check.nowMs).2
  have grown : EpochsAtMost controller.config (log ++ [⟨check, decision⟩])
      (controller.epochAfter check) := by
    refine (epochs.mono ?_).concat _ ?_
    · exact FailoverController.le_foldl_seeEpoch _ _
    · intro report fresh epoch observed
      exact FailoverController.epoch_le_foldl_seeEpoch controller.config check
        controller.maxEpochSeen report fresh epoch observed
  obtain ⟨phaseAfter, justifiedNow⟩ := phase.transition (controller.observe_transition check) grown
  exact {
    configured := controller.observe_config check
    epochs := by
      change EpochsAtMost controller.config _
        (controller.observe check.round check.nowMs).1.maxEpochSeen
      rw [FailoverController.observe_maxEpochSeen]
      exact grown
    phase := phaseAfter, justified := (throughout_concat _ log _).mpr ⟨justified, justifiedNow⟩ }

theorem Sound.reconcileComplete (sound : Sound config history) :
    Sound config (history.step .reconcileComplete) := by
  obtain ⟨controller, log⟩ := history
  cases controller.reconcileComplete_cases with
  | inl same =>
    change Sound config ⟨controller.reconcileComplete.1, log⟩
    rw [same]
    exact sound
  | inr changed =>
    obtain ⟨newEpoch, rejoinEmitted, healthyStreak, stableSinceMs, _, after⟩ := changed
    change Sound config ⟨controller.reconcileComplete.1, log⟩
    rw [after]
    exact {
      configured := sound.configured, epochs := sound.epochs
      phase := phaseShows_promoted config log _ _ _ _ _, justified := sound.justified }

theorem Sound.step (sound : Sound config history) (input : Input) :
    Sound config (history.step input) := by
  cases input with
  | observe check => exact sound.observe check
  | reconcileComplete => exact sound.reconcileComplete

theorem sound_run (config : FailoverConfig) (inputs : List Input) :
    Sound config (run config inputs) := by
  unfold run
  induction inputs using reverseRecOn with
  | nil => exact ⟨rfl, nofun, phaseShows_steady config nofun, throughout_nil _⟩
  | append_singleton inputs input ih =>
    rw [foldl_append]
    exact ih.step input

end History

theorem noPromotion_of_justified (justified :
    Throughout (Justified config) (before ++ observation :: later))
    (decided : observation.decision = .promoteStandby siteId newEpoch) :
    NoPromotion (before ++ later) := by
  unfold NoPromotion
  rw [forall_mem_append]
  refine ⟨(justified before observation later rfl).unpromoted siteId newEpoch decided, ?_⟩
  intro other member otherSite otherEpoch otherDecided
  obtain ⟨between, rest, rfl⟩ := append_of_mem member
  have unpromoted := (justified (before ++ observation :: between) other rest
    (by simp)).unpromoted otherSite otherEpoch otherDecided
  exact unpromoted observation (by simp) siteId newEpoch decided

/-- The history law of the controller's actions.  A fence request closes
`failedChecksRequired` consecutive failed rounds.  A promotion is the only one,
follows a fence request with no majority-reachable round in between, rests on a
round without a reachable report and with unanimous majorities, and names a
storable epoch above every epoch reported so far. -/
theorem controller_actions_follow_history (config : FailoverConfig) (inputs : List Input)
    (before later : List Observation) (observation : Observation)
    (split : (History.run config inputs).log = before ++ observation :: later) :
    (∀ siteId, observation.decision = .fenceOldWriter siteId →
      ∃ earlier streak, before ++ [observation] = earlier ++ streak ∧
        streak.length = config.failedChecksRequired.val ∧
        ∀ failed ∈ streak, config.Failed failed.check) ∧
    (∀ siteId newEpoch, observation.decision = .promoteStandby siteId newEpoch →
      NoPromotion (before ++ later) ∧ FencedSince config before ∧
      config.NoneReachable observation.check ∧
      config.MajorityShows observation.check showsSiteFenced ∧
      config.MajorityShows observation.check showsStopConfirmed ∧
      config.MajorityShows observation.check showsStandbyReady ∧
      (∀ past ∈ before ++ [observation],
        ∀ report ∈ config.freshReports past.check.round past.check.nowMs,
          ∀ epoch, report.writer = .reachable epoch → epoch < newEpoch) ∧
      newEpoch ≤ maxStoredEpoch) := by
  have justified := (History.sound_run config inputs).justified
  rw [split] at justified
  have action := justified before observation later rfl
  constructor
  · intro siteId decided
    exact (action.fence siteId decided).exact
  · intro siteId newEpoch decided
    obtain ⟨unreachable, siteFenced, stopped, ready⟩ := action.evidence siteId newEpoch decided
    obtain ⟨stored, seen, above, epochs⟩ := action.epoch siteId newEpoch decided
    refine ⟨noPromotion_of_justified justified decided,
      action.fenced siteId newEpoch decided, unreachable, siteFenced, stopped,
      ready, ?_, stored⟩
    intro past member report fresh epoch observed
    exact lt_of_le_of_lt (epochs past member report fresh epoch observed) above

/-- A round in which every member reaches the writer. -/
def reachableCheck (nowMs epoch : U64) : Check :=
  drillCheck nowMs (.reachable epoch) none none none none

/-- A round in which no member reaches the writer. -/
def unreachableCheck (nowMs : U64) : Check := drillCheck nowMs .unreachable none none none none

/-- A round in which every member confirms the fence, the stop and the
standby. -/
def readyCheck (nowMs : U64) : Check :=
  drillCheck nowMs .unreachable (some ⟨true, true⟩) (some true) (some true) none

/-- The checks of a failover up to the fence request. -/
def drillFenced : List Observation :=
  [⟨reachableCheck 100 7, .hold .writerHealthy⟩,
    ⟨unreachableCheck 101, .hold (.writerFailureSuspected 1)⟩,
    ⟨unreachableCheck 102, .fenceOldWriter "west".toList⟩]

/-- The rounds of the failover and of its promotion. -/
def drillInputs : List Input :=
  [.observe (reachableCheck 100 7), .observe (unreachableCheck 101),
    .observe (unreachableCheck 102), .observe (readyCheck 103)]

/-- The last round of the failover promotes the standby. -/
theorem controller_actions_follow_history_drill :
    (History.run drillConfig drillInputs).log =
        drillFenced ++ [⟨readyCheck 103, .promoteStandby "east".toList 8⟩] ∧
      NoPromotion (drillFenced ++ []) ∧ FencedSince drillConfig drillFenced := by
  have promoted : (History.run drillConfig drillInputs).log =
      drillFenced ++ [⟨readyCheck 103, .promoteStandby "east".toList 8⟩] := by
    decide +kernel
  have law := (controller_actions_follow_history drillConfig drillInputs drillFenced []
    ⟨readyCheck 103, .promoteStandby "east".toList 8⟩ promoted).2 _ _ rfl
  exact ⟨promoted, law.1, law.2.1⟩

end Zrotext.Failover
