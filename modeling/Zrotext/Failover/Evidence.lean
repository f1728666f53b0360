import Zrotext.Failover.Decision

/-!
# What a round is evidence of

The controller counts folded votes.  Here the counts are stated in terms of the
configured members and their fresh reports, which is how the safety rules of
the decision model are worded: a majority of distinct members, a reachable
report that vetoes, positive evidence that must be unanimous.
-/

namespace Zrotext.Failover

open Foundation List MemberVote FailoverController MemberReport

/-- One check: a round of reports and the clock it is evaluated at. -/
structure Check where
  round : Round
  nowMs : U64
deriving DecidableEq

namespace FailoverConfig

variable (config : FailoverConfig)

variable (check : Check)

/-- The fresh reports of one member. -/
def reportsOf (member : Text) : List MemberReport :=
  keyed.recordsOf (config.freshReports check.round check.nowMs) member

/-- A majority of the configured members supports something.  Members are
distinct, so this counts failure domains. -/
def MajorityOf (supports : Text → Bool) : Prop :=
  config.majority ≤ config.members.countP supports

/-- A majority of the members has a fresh report. -/
def HasQuorum : Prop :=
  config.MajorityOf fun member => !(config.reportsOf check member).isEmpty

/-- No fresh report reaches the writer. -/
def NoneReachable : Prop :=
  ∀ report ∈ config.freshReports check.round check.nowMs, report.writer = .unreachable

/-- A quorum round in which nobody reaches the writer. -/
def Failed : Prop :=
  config.HasQuorum check ∧ config.NoneReachable check

/-- A majority of the members has a fresh report that reaches the writer. -/
def MajorityReachable : Prop :=
  config.MajorityOf fun member =>
    (config.reportsOf check member).any fun report =>
      report.writer.epoch?.isSome

/-- A majority of the members has fresh reports, all of which show something. -/
def MajorityShows (shows : MemberReport → Bool) : Prop :=
  config.MajorityOf fun member =>
    !(config.reportsOf check member).isEmpty && (config.reportsOf check member).all shows

instance (config : FailoverConfig) (supports : Text → Bool) :
    Decidable (config.MajorityOf supports) :=
  inferInstanceAs (Decidable (_ ≤ _))

instance (config : FailoverConfig) (check : Check) : Decidable (config.HasQuorum check) :=
  inferInstanceAs (Decidable (config.MajorityOf _))

instance (config : FailoverConfig) (check : Check) : Decidable (config.NoneReachable check) :=
  inferInstanceAs (Decidable (∀ report ∈ _, _))

instance (config : FailoverConfig) (check : Check) : Decidable (config.Failed check) :=
  inferInstanceAs (Decidable (_ ∧ _))

instance (config : FailoverConfig) (check : Check) : Decidable (config.MajorityReachable check) :=
  inferInstanceAs (Decidable (config.MajorityOf _))

instance (config : FailoverConfig) (check : Check) (shows : MemberReport → Bool) :
    Decidable (config.MajorityShows check shows) :=
  inferInstanceAs (Decidable (config.MajorityOf _))

theorem memberId_mem_of_freshReports (config : FailoverConfig) (round : Round) (nowMs : U64) :
    ∀ report ∈ config.freshReports round nowMs, report.memberId ∈ config.members := by
  intro report member
  unfold freshReports at member
  rw [mem_filter, Bool.and_eq_true, decide_eq_true_eq] at member
  exact member.2.1

theorem mem_reportsOf_memberId (config : FailoverConfig) (check : Check) (report : MemberReport)
    (fresh : report ∈ config.freshReports check.round check.nowMs) :
    report ∈ config.reportsOf check report.memberId :=
  mem_filter.mpr ⟨fresh, decide_eq_true rfl⟩

end FailoverConfig

namespace MemberVote

section

variable (vote : MemberVote) (reports : List MemberReport)

include vote reports

/-- Positive evidence in a folded vote is unanimous over the reports. -/
theorem foldl_fold_shows : (reports.foldl fold vote).siteFenced =
        (vote.siteFenced && reports.all showsSiteFenced) ∧
      (reports.foldl fold vote).stopConfirmed =
        (vote.stopConfirmed && reports.all showsStopConfirmed) ∧
      (reports.foldl fold vote).standbyReady =
        (vote.standbyReady && reports.all showsStandbyReady) := by
  induction reports generalizing vote with
  | nil => simp
  | cons report reports ih =>
    obtain ⟨fenced, stopped, ready⟩ := ih (vote.fold report)
    simp only [foldl_cons, all_cons, fenced, stopped, ready]
    simp only [fold, Bool.and_assoc, and_self]

/-- A folded vote is reachable as soon as one report is. -/
theorem foldl_fold_reachable :
    (reports.foldl fold vote).reachableEpoch.isSome = (vote.reachableEpoch.isSome ||
        reports.any fun report => report.writer.epoch?.isSome) := by
  induction reports generalizing vote with
  | nil => simp
  | cons report reports ih =>
    rw [foldl_cons, ih, any_cons, ← Bool.or_assoc]
    congr 1
    cases observed : report.writer <;>
      simp [fold, observed, WriterObservation.epoch?]

theorem foldl_fold_epoch_le (epoch : U64) (carried : vote.reachableEpoch = some epoch) :
    ∃ highest, (reports.foldl fold vote).reachableEpoch = some highest ∧ epoch ≤ highest := by
  induction reports generalizing vote epoch with
  | nil => exact ⟨epoch, carried, le_refl epoch⟩
  | cons report reports ih =>
    rw [foldl_cons]
    cases observed : report.writer with
    | reachable other =>
      obtain ⟨highest, result, bound⟩ := ih (vote.fold report) (max epoch other)
          (by simp [fold, observed, carried])
      exact ⟨highest, result, le_trans (le_max_left _ _) bound⟩
    | unreachable =>
      exact ih (vote.fold report) epoch (by simp [fold, observed, carried])

/-- The epoch of a folded vote is at least that of every reachable report. -/
theorem le_foldl_fold_epoch (member : report ∈ reports)
    (observed : report.writer = .reachable epoch) :
    ∃ highest, (reports.foldl fold vote).reachableEpoch = some highest ∧ epoch ≤ highest := by
  induction reports generalizing vote with
  | nil => cases member
  | cons first reports ih =>
    rw [foldl_cons]
    cases mem_cons.mp member with
    | inl same =>
      subst same
      obtain ⟨highest, result, bound⟩ := foldl_fold_epoch_le (vote.fold report) reports
          (vote.reachableEpoch.elim epoch fun seen => max seen epoch)
          (by simp [fold, observed])
      refine ⟨highest, result, le_trans ?_ bound⟩
      cases vote.reachableEpoch with
      | none => exact le_refl epoch
      | some seen => exact le_max_right seen epoch
    | inr rest => exact ih (vote.fold first) rest

end

end MemberVote

/-- The folded votes of a check. -/
def FailoverConfig.votes (config : FailoverConfig) (check : Check) : List MemberVote :=
  keyed.collect (config.freshReports check.round check.nowMs)

namespace FailoverConfig

variable (config : FailoverConfig) (check : Check)

theorem countP_votes (property : MemberVote → Bool) : (config.votes check).countP property =
      config.members.countP fun member =>
        !(config.reportsOf check member).isEmpty &&
          property ((config.reportsOf check member).foldl fold
            (blank member)) := by
  exact keyed.countP_collect (config.freshReports check.round check.nowMs) config.members
    config.membersDistinct
    (config.memberId_mem_of_freshReports check.round check.nowMs) property

theorem length_votes : (config.votes check).length = config.members.countP fun member =>
        !(config.reportsOf check member).isEmpty := by
  rw [← countP_true, countP_votes]
  simp

theorem hasQuorum_iff : config.HasQuorum check ↔ config.majority ≤ (config.votes check).length := by
  rw [length_votes]
  rfl

theorem countP_reachable : ((config.votes check).countP fun vote => vote.reachableEpoch.isSome) =
      config.members.countP fun member =>
        (config.reportsOf check member).any fun report =>
          report.writer.epoch?.isSome := by
  rw [countP_votes]
  apply countP_congr
  intro member _
  rw [foldl_fold_reachable]
  cases config.reportsOf check member <;> simp [blank]

theorem majorityReachable_iff : config.MajorityReachable check ↔ config.majority ≤
        (config.votes check).countP fun vote => vote.reachableEpoch.isSome := by
  rw [countP_reachable]
  rfl

/-- No vote is reachable exactly when no fresh report is. -/
theorem noneReachable_iff : config.NoneReachable check ↔
      ((config.votes check).countP fun vote => vote.reachableEpoch.isSome) = 0 := by
  rw [countP_reachable, countP_eq_zero]
  constructor
  · intro none member _ reaches
    obtain ⟨report, reported, reachable⟩ := any_eq_true.mp reaches
    rw [none report (mem_of_mem_filter reported)] at reachable
    cases reachable
  · intro none report fresh
    have configured := config.memberId_mem_of_freshReports check.round check.nowMs report fresh
    cases observed : report.writer with
    | unreachable => rfl
    | reachable epoch =>
      refine absurd ?_ (none report.memberId configured)
      rw [any_eq_true]
      exact ⟨report, config.mem_reportsOf_memberId check report fresh, by rw [observed]; rfl⟩

/-- A majority of votes with unanimous evidence is a majority of members whose
reports all show it. -/
theorem majorityShows_iff (shows : MemberReport → Bool) (property : MemberVote → Bool)
    (folded : ∀ (member : Text) (reports : List MemberReport),
      property (reports.foldl fold (blank member)) = reports.all shows) :
    config.MajorityShows check shows ↔ config.majority ≤ (config.votes check).countP property := by
  rw [countP_votes]
  simp only [folded]
  rfl

theorem majorityShows_siteFenced_iff : config.MajorityShows check showsSiteFenced ↔
      config.majority ≤ (config.votes check).countP siteFenced :=
  config.majorityShows_iff check _ _ fun member reports =>
    (foldl_fold_shows (blank member) reports).1

theorem majorityShows_stopConfirmed_iff :
    config.MajorityShows check showsStopConfirmed ↔ config.majority ≤
        (config.votes check).countP stopConfirmed :=
  config.majorityShows_iff check _ _ fun member reports =>
    (foldl_fold_shows (blank member) reports).2.1

theorem majorityShows_standbyReady_iff : config.MajorityShows check showsStandbyReady ↔
      config.majority ≤ (config.votes check).countP standbyReady :=
  config.majorityShows_iff check _ _ fun member reports =>
    (foldl_fold_shows (blank member) reports).2.2

end FailoverConfig

namespace FailoverController

theorem le_seeEpoch (seen : U64) (vote : MemberVote) : seen ≤ seeEpoch seen vote := by
  unfold seeEpoch
  cases vote.reachableEpoch with
  | none => exact le_refl seen
  | some epoch => exact le_max_left seen epoch

theorem le_foldl_seeEpoch (votes : List MemberVote) (seen : U64) :
    seen ≤ votes.foldl seeEpoch seen := by
  induction votes generalizing seen with
  | nil => exact le_refl seen
  | cons vote votes ih =>
    exact le_trans (le_seeEpoch seen vote) (ih _)

theorem le_foldl_seeEpoch_of_mem (votes : List MemberVote) (seen : U64)
    (member : vote ∈ votes) (carried : vote.reachableEpoch = some epoch) :
    epoch ≤ votes.foldl seeEpoch seen := by
  induction votes generalizing seen with
  | nil => cases member
  | cons first votes ih =>
    cases mem_cons.mp member with
    | inl same =>
      subst same
      have bound : epoch ≤ seeEpoch seen vote := by
        rw [seeEpoch, carried]
        exact le_max_right seen epoch
      exact le_trans bound (le_foldl_seeEpoch votes _)
    | inr rest => exact ih (seeEpoch seen first) rest

/-- The epoch memory after a check covers every epoch that a fresh report of
the check carried. -/
theorem epoch_le_foldl_seeEpoch (config : FailoverConfig) (check : Check) (seen : U64)
    (report : MemberReport) (fresh : report ∈ config.freshReports check.round check.nowMs)
    (epoch : U64) (observed : report.writer = .reachable epoch) :
    epoch ≤ (config.votes check).foldl seeEpoch seen := by
  have reported := config.mem_reportsOf_memberId check report fresh
  obtain ⟨highest, folded, bound⟩ :=
    le_foldl_fold_epoch (blank report.memberId)
      (config.reportsOf check report.memberId) reported observed
  have voted : keyed.tally (config.freshReports check.round check.nowMs)
        report.memberId ∈ config.votes check := by
    unfold FailoverConfig.votes
    rw [keyed.mem_collect_iff]
    exact ⟨report.memberId, mem_map_of_mem fresh, rfl⟩
  exact le_trans bound (le_foldl_seeEpoch_of_mem (config.votes check) seen voted folded)

end FailoverController

theorem MemberVote.fold_comm (vote : MemberVote) (first second : MemberReport) :
    (vote.fold first).fold second = (vote.fold second).fold first := by
  unfold fold
  simp only [Bool.and_right_comm]
  congr 1
  cases first.writer <;> cases second.writer <;> cases vote.reachableEpoch <;>
    simp [max_comm, max_left_comm]

theorem MemberVote.fold_idem (vote : MemberVote) (report : MemberReport) :
    (vote.fold report).fold report = vote.fold report := by
  unfold fold
  simp only [Bool.and_assoc, Bool.and_self]
  congr 1
  cases report.writer <;> cases vote.reachableEpoch <;> simp

theorem FailoverController.seeEpoch_comm (seen : U64) (first second : MemberVote) :
    seeEpoch (seeEpoch seen first) second = seeEpoch (seeEpoch seen second) first := by
  unfold seeEpoch
  cases first.reachableEpoch <;> cases second.reachableEpoch <;> simp [max_comm, max_left_comm]

/-- A round is the set of its fresh reports. -/
theorem FailoverController.observe_eq_of_same {round : Round} (controller : FailoverController)
    (nowMs : U64)
    (same : ∀ report, report ∈ controller.config.freshReports round nowMs ↔
      report ∈ controller.config.freshReports other nowMs) :
    controller.observe round nowMs = controller.observe other nowMs := by
  have votes : Perm (keyed.collect (controller.config.freshReports round nowMs))
      (keyed.collect (controller.config.freshReports other nowMs)) :=
    KeyedFold.collect_perm fold_comm fold_idem same
  have seen := votes.foldl_eq' (fun first _ second _ seen =>
    seeEpoch_comm seen first second) controller.maxEpochSeen
  unfold observe consensusOf
    observeFencing observePromoted
  simp only [seen, votes.length_eq, votes.countP_eq]

/-- Rounds with the same reports, in any order and any number of times, are
decided alike, and reports that are future-dated, stale or from outside the
quorum change nothing. -/
theorem rounds_are_sets (controller : FailoverController) (nowMs : U64) :
    (∀ reports others : List MemberReport, (∀ report, report ∈ reports ↔ report ∈ others) →
      controller.observe ⟨reports⟩ nowMs = controller.observe ⟨others⟩ nowMs) ∧
    ∀ before added after : List MemberReport,
      (∀ report ∈ added, nowMs < report.observedAtMs ∨
        controller.config.observationFreshnessMs < nowMs - report.observedAtMs ∨
        report.memberId ∉ controller.config.members) →
      controller.observe ⟨before ++ added ++ after⟩ nowMs =
        controller.observe ⟨before ++ after⟩ nowMs := by
  refine ⟨?_, ?_⟩
  · intro reports others same
    refine controller.observe_eq_of_same nowMs fun report => ?_
    simp only [FailoverConfig.freshReports, mem_filter, same]
  · intro before added after discounted
    refine controller.observe_eq_of_same nowMs fun other => ?_
    simp only [FailoverConfig.freshReports, mem_filter, mem_append, Bool.and_eq_true,
      decide_eq_true_eq]
    refine ⟨?_, ?_⟩
    · rintro ⟨(first | extra) | last, counts⟩
      · exact ⟨.inl first, counts⟩
      · rcases discounted other extra with future | stale | stranger
        · exact absurd counts.2.1 (not_le.mpr future)
        · exact absurd counts.2.2 (not_le.mpr stale)
        · exact absurd counts.1 stranger
      · exact ⟨.inr last, counts⟩
    · rintro ⟨first | last, counts⟩
      · exact ⟨.inl (.inl first), counts⟩
      · exact ⟨.inr last, counts⟩

/-- Three members watching one writer and one standby, fencing after two failed
rounds. -/
def drillConfig : FailoverConfig :=
  let config := (FailoverConfig.new ["a".toList, "b".toList, "c".toList] "west".toList
    "east".toList).toOption.get rfl
  ((config.withCheckThresholds 2 1).withRecoveryStableMs 0).withObservationFreshnessMs 10

/-- A check in which every member reports the same thing at the current time. -/
def drillCheck (nowMs : U64) (writer : WriterObservation) (fence : Option SiteFenceState)
    (stopped ready healthy : Option Bool) : Check where
  round := ⟨drillConfig.members.map fun memberId =>
    { memberId, observedAtMs := nowMs
      writer, writerSiteFence := fence
      writerStopConfirmed := stopped, standbyReady := ready, formerWriterHealthy := healthy }⟩
  nowMs

/-- Neither the order of the reports matters, nor that they come twice, nor stale
reports that the writer is reachable. -/
theorem rounds_are_sets_drill :
    let reports := (drillCheck 100 .unreachable none none none none).round.reports
    let stale := (drillCheck 89 (.reachable 7) none none none none).round.reports
    let controller := new drillConfig
    stale.length = 3 ∧ controller.observe ⟨reports.reverse ++ stale ++ reports⟩ 100 =
      controller.observe ⟨reports⟩ 100 := by
  intro reports stale controller
  obtain ⟨sets, discounted⟩ := rounds_are_sets controller 100
  refine ⟨rfl, ?_⟩
  rw [discounted reports.reverse stale reports (by decide)]
  exact sets _ _ fun report => by rw [mem_append, mem_reverse, or_self]

end Zrotext.Failover
