import Zrotext.Failover.PromotionEpoch

/-!
# What a cancelled failover leaves behind

When the writer recovers before the promotion, the controller holds with
`failoverCancelledWriterRecovered` and returns to the steady phase.  Nothing
else is told: the durable journal keeps the phase it was last saved in, and the
queue keeps a fence that could not be applied yet.  A restart can therefore
revive the failover, and a retry can fence the recovered writer.  Both are shown
on concrete runs, and both are excluded under an explicit condition on the runs.
-/

namespace Zrotext.Failover

open Foundation List PendingAction

/-- The decision that an event marks. -/
def decisionOf : Event port → Option Decision
  | ⟨.decided decision, _⟩ => some decision
  | _ => none

namespace Decision

def cancels : Decision → Bool
  | .hold .failoverCancelledWriterRecovered => true
  | _ => false

def fences : Decision → Bool
  | .fenceOldWriter _ => true
  | _ => false

def promotes : Decision → Bool
  | .promoteStandby _ _ => true
  | _ => false

end Decision

/-- The event marks a decision of a given kind. -/
def decides (kind : Decision → Bool) (event : Event port) : Bool := (decisionOf event).any kind

/-- The call fences the site of the old writer. -/
def callsFence : Event port → Bool
  | ⟨.fenceWriterSite _, _⟩ => true
  | _ => false

/-- The site of the old writer has been fenced. -/
def appliesFence : Event port → Bool
  | ⟨.fenceWriterSite _, some .fenced⟩ => true
  | ⟨.fenceWriterSite _, some .alreadyFenced⟩ => true
  | _ => false

/-- Whether a cancellation still stands after a decision. -/
def Decision.outstanding (before : Bool) (decision : Decision) : Bool :=
  decision.cancels || (before && !decision.fences)

variable {decision : Decision}

/-- A standing cancellation stands until a fence is decided. -/
theorem Decision.outstanding_true (unfenced : decision.fences = false) :
    decision.outstanding true := by
  unfold Decision.outstanding
  rw [unfenced]
  cases decision.cancels <;> rfl

/-- If an observer of cancellations follows the decisions, and one no longer
stands, then a fence was decided since. -/
theorem fence_of_clear {γ : Type} {monitor : Monitor port γ} {stands : γ → Bool}
    (follows : ∀ ghost event, stands (monitor.next ghost event) =
      (decisionOf event).elim (stands ghost) (Decision.outstanding (stands ghost)))
    {ghost : γ} (cancels : decides Decision.cancels cancellation)
    (clear : stands (monitor.after (monitor.next ghost cancellation) between) = false) :
    ∃ event ∈ between, decides Decision.fences event := by
  by_contra none
  have unfenced : ∀ event ∈ between, decides Decision.fences event = false := by
    intro event member
    rw [Bool.eq_false_iff]
    exact fun fences => none ⟨event, member, fences⟩
  have stood : stands (monitor.next ghost cancellation) := by
    obtain ⟨decision, decided, isCancellation⟩ := (Option.any_eq_true _ _).mp cancels
    rw [follows, decided]
    exact Bool.or_eq_true_iff.mpr (.inl isCancellation)
  generalize monitor.next ghost cancellation = current at stood clear
  clear none cancels
  induction between generalizing current with
  | nil => exact Bool.false_ne_true (clear.symm.trans stood)
  | cons event between ih =>
    rw [forall_mem_cons] at unfenced
    refine ih unfenced.2 _ ?_ clear
    rw [follows, stood]
    cases decided : decisionOf event with
    | none => rfl
    | some decision =>
      refine Decision.outstanding_true ?_
      have isUnfenced := unfenced.1
      rwa [decides, decided] at isUnfenced

/-! ## A cancelled failover stays cancelled -/

/-- After a cancellation no promotion is decided before a new fence. -/
def StaysCancelled (events : List (Event port)) : Prop :=
  ∀ before cancellation between promotion later,
    events = before ++ cancellation :: (between ++ promotion :: later) →
    decides Decision.cancels cancellation = true →
    decides Decision.promotes promotion = true →
    ∃ event ∈ between, decides Decision.fences event = true

/-- What an observer of cancellations knows: whether one stands, and the epoch
of the authority when it was last read. -/
structure CancelView where
  outstanding : Bool
  authorityEpoch : U64

/-- The controller resumes a failover under way from this phase. -/
def RestorablePhase.resumesFailover : RestorablePhase → Bool
  | .fencingOldWriter => true
  | .promoting _ => true
  | .steady => false
  | .promoted _ _ _ => false

/-- A load brings a cancelled failover back: while a cancellation stands, the
loaded row holds a usable journal of a failover under way. -/
def revives (config : FailoverConfig) (view : CancelView) : Event port → Bool
  | ⟨.loadControllerState, some encoded⟩ =>
    view.outstanding && (FailoverExecutor.loadedJournal config encoded).any fun journal =>
        (FailoverExecutor.journalFault journal
          view.authorityEpoch).isNone && journal.phase.resumesFailover
  | _ => false

/-- Observer of cancellations.  It admits the loads that do not bring back a
cancelled failover. -/
def cancelMonitor (config : FailoverConfig) : Monitor port CancelView where
  admits view event := revives config view event = false
  next view
    | ⟨.loadState _ _, some snapshot⟩ =>
      { view with authorityEpoch := snapshot.epoch }
    | ⟨.decided decision, _⟩ =>
      { view with outstanding := decision.outstanding view.outstanding }
    | _ => view

instance (config : FailoverConfig) (view : CancelView) (event : Event port) :
    Decidable ((cancelMonitor config).admits view event) :=
  inferInstanceAs (Decidable (revives config view event = false))

/-- No promotion is decided while a cancellation stands. -/
def notWhileCancelled (view : CancelView) (event : Event port) : Prop :=
  decides Decision.promotes event = true → view.outstanding = false

/-- The invariant: while a cancellation stands, no failover is under way. -/
structure CancelKept (config : FailoverConfig) (executor : FailoverExecutor)
    (queue : List PendingAction)
    (view : CancelView) : Prop where
  configured : executor.config = config
  idle : view.outstanding = true → ∀ controller, executor.controller = some controller →
    controller.phase ≠ .fencingOldWriter

namespace CancelKept

/-- The invariant reads the configuration and the controller only. -/
theorem congr {other : FailoverExecutor} {viewNow : CancelView}
    (kept : CancelKept config executor queue view) (sameConfig : other.config = executor.config)
    (sameController : other.controller = executor.controller)
    (sameView : viewNow.outstanding = view.outstanding) :
    CancelKept config other queueNow viewNow where
  configured := sameConfig.trans kept.configured
  idle outstanding controller present := by
    rw [sameView] at outstanding
    rw [sameController] at present
    exact kept.idle outstanding controller present

/-- A call that marks no decision passes, and keeps what stands. -/
theorem step (config : FailoverConfig) (view : CancelView) (op : PortOp) (answer : op.Answer)
    (unmarked : ∀ decision, op ≠ .decided decision) : notWhileCancelled view ⟨op, answer⟩ ∧
      ((cancelMonitor config).next view ⟨op, answer⟩).outstanding = view.outstanding := by
  cases op with
  | decided decision => exact absurd rfl (unmarked decision)
  | loadState writerSite standbySite =>
    refine ⟨nofun, ?_⟩
    cases answer <;> rfl
  | _ => exact ⟨nofun, rfl⟩

theorem step_inAttempt (config : FailoverConfig) (view : CancelView)
    (answer : op.Answer) (inAttempt : op.InAttempt) : notWhileCancelled view ⟨op, answer⟩ ∧
      (cancelMonitor config).next view ⟨op, answer⟩ = view := by
  cases op <;> first
    | exact ⟨nofun, rfl⟩
    | rcases inAttempt with (_ | _) | (_ | _ | _) <;> contradiction

end CancelKept

variable {next : Phase}

/-- While a cancellation stands, a round decides no promotion, and it still
stands afterwards only if no failover is under way. -/
theorem Transition.outstanding (move : Transition config check seen phase decision next)
    (before : Bool) (idle : before → phase ≠ .fencingOldWriter) :
    (decision.promotes → before = false) ∧
      (decision.outstanding before → next ≠ .fencingOldWriter) := by
  have undisturbed : phase = .fencingOldWriter → before = false := by
    intro fencing
    cases before with
    | false => rfl
    | true => exact absurd fencing (idle rfl)
  cases move with
  | quorumLost _ _ =>
    refine ⟨nofun, ?_⟩
    intro stands
    have kept : before := by
      simpa [Decision.outstanding, Decision.cancels, Decision.fences] using stands
    have different := idle kept
    cases phase with
    | fencingOldWriter => exact absurd rfl different
    | _ => exact nofun
  | healthy | suspected | conflicting | cancelled => exact ⟨nofun, nofun⟩
  | fence _ _ _ _ _ =>
    refine ⟨nofun, ?_⟩
    intro stands
    simp [Decision.outstanding, Decision.cancels, Decision.fences] at stands
  | waiting reason different _ =>
    refine ⟨nofun, ?_⟩
    intro stands
    rw [undisturbed rfl] at stands
    cases reason <;> first
      | exact absurd rfl different
      | cases stands
  | promote _ _ _ _ _ _ _ _ => exact ⟨fun _ => undisturbed rfl, nofun⟩
  | afterPromotion _ _ _ _ _ _ _ _ _ after =>
    refine ⟨?_, nofun⟩
    intro promotes
    cases after <;> cases promotes

/-- A controller restored from a journal of no failover under way is not
fencing. -/
theorem restore_not_fencing (config : FailoverConfig) (maxEpochSeen : U64)
    (ended : phase.resumesFailover = false) :
    (FailoverController.restore config maxEpochSeen phase).phase ≠ .fencingOldWriter := by
  cases phase with
  | steady | promoted => exact nofun
  | fencingOldWriter | promoting => cases ended

/-- Loading the journal revives no cancelled failover. -/
theorem cancelKept_load (config : FailoverConfig) :
    KeepsLoad (cancelMonitor config) notWhileCancelled (CancelKept config)
      fun view epoch => view.authorityEpoch = epoch := by
  intro executor view epoch answer kept absent fits admitted
  refine ⟨nofun, kept.congr rfl rfl rfl, ?_⟩
  rintro encoded rfl reconciled
  refine ⟨kept.configured, ?_⟩
  intro outstanding controller present
  have stands : view.outstanding := outstanding
  have harmless : revives config view ⟨.loadControllerState, some encoded⟩ = false := admitted
  rw [kept.configured] at reconciled present
  cases loaded : FailoverExecutor.loadedJournal config encoded with
  | none =>
    rw [loaded] at present
    cases present
    exact nofun
  | some journal =>
    rw [loaded] at present reconciled
    cases present
    refine restore_not_fencing _ _ ?_
    subst fits
    have usable : FailoverExecutor.journalFault journal view.authorityEpoch = none := reconciled
    simpa [revives, stands, loaded, usable] using harmless

/-- The executor decides no promotion while a cancellation stands. -/
theorem cancelKept_upholds (config : FailoverConfig) :
    Upholds (cancelMonitor config) notWhileCancelled (CancelKept config) := by
  have read : KeepsReads (cancelMonitor config) notWhileCancelled (CancelKept config) := by
    intro executor queue view op answer isRead kept _
    have unmarked : ∀ decision, op ≠ .decided decision := by
      rintro decision rfl
      exact isRead
    obtain ⟨checked, same⟩ := CancelKept.step config view op answer unmarked
    exact ⟨checked, kept.congr rfl rfl same⟩
  have bookkeeping : KeepsBookkeeping (CancelKept config) :=
    fun _ _ _ _ _ _ kept => kept.congr rfl rfl rfl
  exact {
    read := read, bookkeeping := bookkeeping
    forget := fun _ _ _ _ _ kept => kept.congr rfl rfl rfl
    discard := fun _ _ _ kept => ⟨kept.configured, nofun⟩
    restore := (cancelKept_load config).restore read bookkeeping
      fun _ _ _ _ => rfl
    attempt := by
      intro executor before action later view kept
      refine ((executor.attempt_uses action).safe view ?_).mono ?_
      · intro op answer inAttempt _
        exact CancelKept.step_inAttempt config view answer inAttempt
      · rintro attempted final ⟨same, rfl⟩
        exact kept.congr same.config same.controller rfl
    exclusivity := fun _ _ _ _ kept _ => ⟨nofun, kept.congr rfl rfl rfl⟩
    observe := by
      intro executor queue view controller round nowMs kept present _
      have move := controller.observe_transition ⟨round, nowMs⟩
      have moved := move.outstanding view.outstanding
        fun stands => kept.idle stands controller present
      refine ⟨moved.1, kept.configured, ?_⟩
      intro stands next replaced
      cases replaced
      exact moved.2 stands
    reconcile := by
      intro executor queue view controller kept present
      refine ⟨kept.configured, ?_⟩
      intro stands next replaced
      cases replaced
      rcases controller.reconcileComplete_cases with
        unchanged | ⟨_, _, _, _, _, updated⟩
      · rw [unchanged]
        exact kept.idle stands controller present
      · rw [updated]
        exact nofun
    flags := by
      intro executor queue view journal newEpoch _ _ reconciled rejoinEmitted
        kept _ _
      refine ((FailoverExecutor.saveJournal_uses _).safe view ?_).mono ?_
      · intro op answer isSave _
        exact CancelKept.step_inAttempt config view answer
          (.inl (.inr isSave))
      · rintro result final ⟨same, rfl⟩
        exact kept.congr same.config same.controller rfl }

theorem cancelMonitor_outstanding (view : CancelView) (event : Event port) :
    ((cancelMonitor config).next view event).outstanding =
      (decisionOf event).elim view.outstanding (Decision.outstanding view.outstanding) := by
  obtain ⟨op, answer⟩ := event
  by_cases marked : ∃ decision, op = .decided decision
  · obtain ⟨decision, rfl⟩ := marked
    rfl
  · have unmarked : ∀ decision, op ≠ .decided decision :=
      fun decision same => marked ⟨decision, same⟩
    rw [(CancelKept.step config view op answer unmarked).2]
    cases op <;> first
      | rfl
      | exact absurd rfl (unmarked _)

/-- The state of the observer before anything happened. -/
def CancelView.initial : CancelView := ⟨false, 0⟩

/-- A cancelled failover stays cancelled in every run, across crashes and
restarts, in which no load of the controller state brings back a usable journal
of a failover under way while a cancellation stands. -/
theorem cancelled_failover_stays_cancelled (config : FailoverConfig) (events : List (Event port))
    (executor : FailoverExecutor) (run : (executorMachine config).Run events executor)
    (forgotten : (cancelMonitor config).Admits .initial events) : StaysCancelled events := by
  rintro before cancellation between promotion later rfl cancels promotes
  have along := ((cancelKept_upholds config).run_along
    (fun _ _ => ⟨rfl, nofun⟩) run .initial forgotten).1
  have rest := ((cancelMonitor config).along_append _ _ _ _).mp along
  exact fence_of_clear cancelMonitor_outstanding cancels (rest.2.2.at_split promotes)

/-- The ports of a failover that is cancelled and later decided again. -/
def renewedPorts : MemoryPorts :=
  outagePorts [reachableCheck 103 7, unreachableCheck 104, unreachableCheck 105, readyCheck 106]

/-- The ticks of a failover that is cancelled and later decided again. -/
def renewedMoves : List DrillMove :=
  [100, 101, 102, 103, 104, 105, 106].map drillTick

/-- The decisions of a failover that is cancelled and decided again. -/
def renewedDecisions : List Decision :=
  [.hold .writerHealthy, .hold (.writerFailureSuspected 1), .fenceOldWriter "west".toList,
    .hold .failoverCancelledWriterRecovered, .hold (.writerFailureSuspected 1),
    .fenceOldWriter "west".toList]

/-- The failover that is decided again promotes. -/
theorem cancelled_failover_stays_cancelled_drill :
    (drill renewedPorts renewedMoves).trace.filterMap decisionOf =
        renewedDecisions ++ [.promoteStandby "east".toList 8] ∧
      StaysCancelled (drill renewedPorts renewedMoves).trace := by
  refine ⟨by decide +kernel, ?_⟩
  exact cancelled_failover_stays_cancelled drillConfig _ _
    (drill_run renewedPorts renewedMoves (ticks_made _)) (by decide +kernel)

/-- The ports of a failover that is cancelled before a restart. -/
def revivedPorts : MemoryPorts := outagePorts [reachableCheck 103 7, readyCheck 104]

/-- Four ticks, a restart and one more tick. -/
def revivedMoves : List DrillMove :=
  [100, 101, 102, 103].map drillTick ++ [drillRestart, drillTick 104]

/-- A restart revives a cancelled failover: the journal still says that the
writer is being fenced, so the first round after the restart decides the
promotion although no fence was decided since the cancellation. -/
theorem restart_revives_cancelled_failover :
    (executorMachine drillConfig).Run (drill revivedPorts revivedMoves).trace
        (drill revivedPorts revivedMoves).state ∧
      ¬ StaysCancelled (drill revivedPorts revivedMoves).trace := by
  constructor
  · exact drill_run revivedPorts revivedMoves (drillMoves_restart _ [104])
  · intro stays
    obtain ⟨event, member, fences⟩ := stays ((drill revivedPorts revivedMoves).trace.take 16)
      ⟨.decided (.hold .failoverCancelledWriterRecovered), ()⟩
      (((drill revivedPorts revivedMoves).trace.drop 17).take 5)
      ⟨.decided (.promoteStandby "east".toList 8), ()⟩
      ((drill revivedPorts revivedMoves).trace.drop 23)
      (by decide +kernel) rfl rfl
    have none : ∀ event ∈ ((drill revivedPorts revivedMoves).trace.drop 17).take 5,
        decides Decision.fences event = false := by
      decide +kernel
    rw [none event member] at fences
    cases fences

/-! ## A recovered writer is not fenced -/

/-- If a fence could not be applied before its failover was cancelled, the site
is not fenced before a new fence is decided. -/
def RecoveredWriterSpared (events : List (Event port)) : Prop :=
  ∀ before decision waiting cancellation between call later,
    events = before ++ decision :: (waiting ++ cancellation :: (between ++ call :: later)) →
    decides Decision.fences decision = true →
    (∀ event ∈ waiting, appliesFence event = false) →
    decides Decision.cancels cancellation = true →
    callsFence call = true →
    ∃ event ∈ between, decides Decision.fences event = true

/-- What an observer of fences knows: whether a decided fence is still to be
applied, and whether its failover was cancelled. -/
structure FenceView where
  (queued cancelled : Bool)

/-- An input starts with a fence to retry whose failover was cancelled. -/
def retriesCancelled (view : FenceView) : Event port → Bool
  | ⟨.exclusivityReacquired, reacquired⟩ =>
    view.queued && view.cancelled && !reacquired
  | _ => false

/-- Observer of fences.  It admits the inputs that do not start with a fence to
retry whose failover was cancelled, unless the exclusivity was re-acquired and
the queue is about to be discarded. -/
def fenceMonitor : Monitor port FenceView where
  admits view event := retriesCancelled view event = false
  next view
    | ⟨.decided decision, _⟩ =>
      { queued := view.queued || decision.fences, cancelled := decision.outstanding view.cancelled }
    | ⟨.fenceWriterSite siteId, answer⟩ =>
      { view with
        queued := view.queued &&
          !appliesFence ⟨.fenceWriterSite siteId, answer⟩ }
    | ⟨.exclusivityReacquired, reacquired⟩ =>
      { view with queued := view.queued && !reacquired }
    | ⟨.loadControllerState, _⟩ => { view with queued := false }
    | _ => view

instance (view : FenceView) (event : Event port) : Decidable (fenceMonitor.admits view event) :=
  inferInstanceAs (Decidable (retriesCancelled view event = false))

/-- No site is fenced while a cancellation stands. -/
def sparesRecovered (view : FenceView) (event : Event port) : Prop :=
  callsFence event = true → view.cancelled = false

/-- An action that fences. -/
def PendingAction.isFence : PendingAction → Bool
  | .fence _ => true
  | .promote _ _ => false

/-- The fence has been requested and the failover not been given up. -/
def Phase.IsFailingOver : Phase → Prop
  | .fencingOldWriter => True
  | .promoted _ _ _ _ _ => True
  | _ => False

/-- The invariant between inputs: a queued fence is one, is known, and belongs
to the failover under way unless that was cancelled. -/
structure FenceQueued (executor : FailoverExecutor) (queue : List PendingAction)
    (view : FenceView) : Prop where
  unread : executor.controller = none → queue = []
  single : queue.countP isFence ≤ 1
  known : ∀ siteId, fence siteId ∈ queue → view.queued = true
  current : ∀ siteId, fence siteId ∈ queue → view.cancelled = false → ∀ controller,
    executor.controller = some controller → controller.phase.IsFailingOver

/-- The invariant inside an input: no queued fence was cancelled. -/
def FenceLive (executor : FailoverExecutor) (queue : List PendingAction)
    (view : FenceView) : Prop :=
  FenceQueued executor queue view ∧
    ∀ siteId, fence siteId ∈ queue → view.cancelled = false

/-- A failover under way decides no second fence, and goes on unless it is
cancelled. -/
theorem Transition.failingOver (move : Transition config check seen phase decision next)
    (failing : phase.IsFailingOver) : decision.fences = false ∧
      (decision.cancels = false → next.IsFailingOver) := by
  cases move with
  | quorumLost _ _ =>
    refine ⟨rfl, fun _ => ?_⟩
    cases phase with
    | fencingOldWriter | promoted => trivial
    | steady | suspecting => cases failing
  | healthy _ _ counted | suspected _ _ counted | fence _ _ counted | conflicting _ _ _ _ counted =>
    cases phase <;> cases counted <;> cases failing
  | cancelled _ => exact ⟨rfl, nofun⟩
  | waiting | promote => exact ⟨rfl, fun _ => trivial⟩
  | afterPromotion _ _ _ _ _ _ _ _ _ after =>
    refine ⟨?_, fun _ => trivial⟩
    cases after <;> rfl

theorem Transition.fences (move : Transition config check seen phase decision next)
    (fences : decision.fences) : next.IsFailingOver := by
  cases move with
  | fence _ _ _ _ _ => trivial
  | afterPromotion _ _ _ _ _ _ _ _ _ after => cases after <;> cases fences
  | _ => cases fences

namespace FenceQueued

/-- The invariant reads the controller and the observer only, and a shorter
queue is as good. -/
theorem congr {other : FailoverExecutor} {shorter : List PendingAction}
    (queued : FenceQueued executor queue view)
    (sameController : other.controller = executor.controller) (sublist : shorter.Sublist queue) :
    FenceQueued other shorter view where
  unread absent := by
    rw [sameController] at absent
    rw [queued.unread absent] at sublist
    exact sublist_nil.mp sublist
  single := sublist.countP_le.trans queued.single
  known siteId member := queued.known siteId (sublist.subset member)
  current siteId member clear controller present := by
    rw [sameController] at present
    exact queued.current siteId (sublist.subset member) clear controller present

end FenceQueued

namespace FenceLive

theorem congr {other : FailoverExecutor} {shorter : List PendingAction}
    (live : FenceLive executor queue view) (sameController : other.controller = executor.controller)
    (sublist : shorter.Sublist queue) : FenceLive other shorter view :=
  ⟨live.1.congr sameController sublist, fun siteId member => live.2 siteId (sublist.subset member)⟩

theorem empty (executor : FailoverExecutor) (view : FenceView) : FenceLive executor [] view :=
  ⟨⟨fun _ => rfl, Nat.zero_le 1, nofun, nofun⟩, nofun⟩

theorem of_no_fence (unread : executor.controller = none → queue = [])
    (none : ∀ siteId, fence siteId ∉ queue) : FenceLive executor queue view := by
  refine ⟨⟨unread, ?_, ?_, ?_⟩, ?_⟩
  · have zero : queue.countP isFence = 0 := by
      rw [countP_eq_zero]
      intro action member isFence
      cases action with
      | fence siteId => exact none siteId member
      | promote siteId newEpoch => cases isFence
    rw [zero]
    exact Nat.zero_le 1
  · exact fun siteId member => absurd member (none siteId)
  · exact fun siteId member => absurd member (none siteId)
  · exact fun siteId member => absurd member (none siteId)

/-- The calls of an attempt to promote, and saves, are invisible. -/
theorem step_quiet (answer : op.Answer) (quiet : op.IsSave ∨ op.InPromotion) :
    sparesRecovered view ⟨op, answer⟩ ∧ fenceMonitor.next view ⟨op, answer⟩ = view := by
  cases op <;> first
    | exact ⟨nofun, rfl⟩
    | rcases quiet with _ | (_ | _ | _) <;> contradiction

theorem attemptFence (live : FenceLive executor (before ++ .fence siteId :: later) view) :
    SafeAttempt fenceMonitor sparesRecovered FenceLive before (.fence siteId) later
      (executor.attemptFence siteId) view := by
  have clear : view.cancelled = false := live.2 siteId (by simp)
  have applied : ∀ (current : FenceView) (application : Application),
      SafeAttempt fenceMonitor sparesRecovered FenceLive before (.fence siteId) later
        (executor.advanceJournalFence.saveJournal >>= fun result =>
          pure ⟨result.1, result.2, .applied application⟩) current := by
    intro current application
    refine ((FailoverExecutor.saveJournal_uses _).safe current ?_).bind ?_
    · intro op answer isSave _
      exact step_quiet answer (.inl isSave)
    · rintro result final ⟨same, rfl⟩
      refine of_no_fence ?_ ?_
      · intro absent
        rw [same.controller, executor.advanceJournalFence_sameCore.controller] at absent
        exact absurd (live.1.unread absent) (append_ne_nil_of_right_ne_nil before
            (cons_ne_nil _ later))
      · intro other member
        cases none_around live.1.single rfl _ member
  unfold FailoverExecutor.attemptFence
  split
  · exact live
  · intro answer _
    refine ⟨fun _ => clear, ?_⟩
    have unchanged : appliesFence ⟨.fenceWriterSite siteId, answer⟩ = false →
        FenceLive executor (before ++ .fence siteId :: later)
          (fenceMonitor.next view ⟨.fenceWriterSite siteId, answer⟩) := by
      intro unapplied
      have same : fenceMonitor.next view ⟨.fenceWriterSite siteId, answer⟩ =
          view := by
        change { view with queued := view.queued && !(appliesFence _) } = view
        rw [unapplied, Bool.not_false, Bool.and_true]
      rw [same]
      exact live
    match answer with
    | some .fenced => exact applied _ _
    | some .alreadyFenced => exact applied _ _
    | some .siteRowMissing => exact unchanged rfl
    | none => exact unchanged rfl

variable {next : FailoverController}

section

variable (live : FenceLive executor queue view) (present : executor.controller = some controller)
  (move : Transition config check seen controller.phase decision next.phase)

include live present move

theorem decided : FenceQueued { executor with controller := some next } queue
      (fenceMonitor.next view ⟨.decided decision, ()⟩) where
  unread := nofun
  single := live.1.single
  known siteId member := by
    change (view.queued || decision.fences)
    rw [live.1.known siteId member]
    rfl
  current siteId member clear other replaced := by
    cases replaced
    have failing := live.1.current siteId member (live.2 siteId member) controller present
    exact (move.failingOver failing).2 (Bool.or_eq_false_iff.mp clear).1

/-- The same inside the input, if the round did not cancel. -/
theorem decidedLive (proceeds : decision.cancels = false) :
    FenceLive { executor with controller := some next } queue
      (fenceMonitor.next view ⟨.decided decision, ()⟩) := by
  refine ⟨live.decided present move, ?_⟩
  intro siteId member
  change decision.outstanding view.cancelled = false
  rw [live.2 siteId member]
  unfold Decision.outstanding
  rw [proceeds]
  rfl

end

theorem append_promote (live : FenceLive executor queue view) (read : executor.controller ≠ none)
    (siteId : Text) (newEpoch : U64) :
    FenceLive executor (queue ++ [.promote siteId newEpoch]) view := by
  have old : ∀ other, fence other ∈ queue ++ [.promote siteId newEpoch] →
      fence other ∈ queue := by
    intro other member
    rcases mem_append.mp member with earlier | last
    · exact earlier
    · cases mem_singleton.mp last
  refine ⟨⟨fun absent => absurd absent read, ?_, ?_, ?_⟩, ?_⟩
  · rw [countP_append]
    exact live.1.single
  · exact fun other member => live.1.known other (old other member)
  · exact fun other member => live.1.current other (old other member)
  · exact fun other member => live.2 other (old other member)

theorem append_fence (live : FenceLive executor queue view)
    (present : executor.controller = some controller)
    (move : Transition config check seen controller.phase (.fenceOldWriter siteId) next.phase) :
    FenceLive { executor with controller := some next } (queue ++ [.fence siteId])
      (fenceMonitor.next view ⟨.decided (.fenceOldWriter siteId), ()⟩) := by
  have none : queue.countP isFence = 0 := by
    rw [countP_eq_zero]
    intro action member isFence
    cases action with
    | promote otherSite newEpoch => cases isFence
    | fence otherSite =>
      have failing := live.1.current otherSite member (live.2 otherSite member) controller present
      cases (move.failingOver failing).1
  have clear : (fenceMonitor.next view
      ⟨.decided (.fenceOldWriter siteId), ()⟩).cancelled = false := by
    change (false || (view.cancelled && !true)) = false
    rw [Bool.not_true, Bool.and_false, Bool.or_false]
  refine ⟨⟨nofun, ?_, ?_, ?_⟩, fun _ _ => clear⟩
  · rw [countP_append, none]
    exact Nat.le_refl 1
  · intro _ _
    exact Bool.or_true view.queued
  · intro _ _ _ other replaced
    cases replaced
    exact move.fences rfl

theorem afterDecision (live : AtRest FenceLive executor view)
    (present : executor.controller = some controller)
    (move : Transition config check seen controller.phase decision next.phase) :
    AfterDecision FenceLive (fun executor view => FenceQueued executor executor.pending view)
      { executor with controller := some next }
      (fenceMonitor.next view ⟨.decided decision, ()⟩) decision := by
  cases decision with
  | hold | quorumLost | keepDispatchPaused => exact decided live present move
  | fenceOldWriter siteId => exact append_fence live present move
  | promoteStandby siteId newEpoch =>
    exact append_promote (decidedLive live present move rfl) nofun siteId newEpoch
  | rejoinFormerWriterAsReplica siteId =>
    change FenceLive _ (executor.pending ++ []) _
    rw [append_nil]
    exact decidedLive live present move rfl

end FenceLive

/-- The executor spares a recovered writer in the admitted runs. -/
theorem fenceLive_maintains : Maintains fenceMonitor sparesRecovered FenceLive
      (fun executor view => FenceQueued executor executor.pending view) := by
  have read : KeepsReads fenceMonitor sparesRecovered FenceLive := by
    intro executor queue view op answer isRead live _
    cases op <;> first
      | exact ⟨nofun, live⟩
      | cases isRead
  have bookkeeping : KeepsBookkeeping FenceLive :=
    fun _ _ _ _ _ _ live => live.congr rfl (List.Sublist.refl _)
  have load : KeepsLoad fenceMonitor sparesRecovered FenceLive fun _ _ => True := by
    intro executor view epoch answer live absent _ _
    have empty := live.1.unread absent
    rw [empty]
    exact ⟨nofun, .empty _ _, fun _ _ _ => .empty _ _⟩
  exact {
    read := read, bookkeeping := bookkeeping
    forget := fun _ before action later _ live =>
      live.congr rfl (sublist_middle before later action)
    discard := fun _ _ _ _ => .empty _ _
    restore := load.restore read bookkeeping fun _ _ _ _ => trivial
    attempt := by
      intro executor before action later view live
      cases action with
      | fence siteId => exact live.attemptFence
      | promote siteId newEpoch =>
        refine ((executor.attemptPromote_uses siteId newEpoch).safe view
          ?_).mono ?_
        · intro op answer inPromotion _
          exact FenceLive.step_quiet answer (.inr inPromotion)
        · rintro attempted final ⟨same, rfl⟩
          exact live.congr same.controller
            (attempted.outcome.queue_sublist before later _)
    reconcile := by
      intro executor queue view controller live present
      refine ⟨⟨nofun, live.1.single, live.1.known, ?_⟩, live.2⟩
      intro siteId member clear next replaced
      cases replaced
      rcases controller.reconcileComplete_cases with
        unchanged | ⟨_, _, _, _, _, updated⟩
      · rw [unchanged]
        exact live.1.current siteId member clear controller present
      · rw [updated]
        trivial
    flags := by
      intro executor queue view journal newEpoch _ _ _ _ live _ _
      refine ((FailoverExecutor.saveJournal_uses _).safe view ?_).mono ?_
      · intro op answer isSave _
        exact FenceLive.step_quiet answer (.inl isSave)
      · rintro result final ⟨same, rfl⟩
        exact live.congr same.controller (List.Sublist.refl queue)
    idle := fun _ _ _ queued _ => ⟨nofun, queued⟩
    enter := by
      intro executor view reacquired queued admitted
      refine ⟨nofun, ?_⟩
      cases reacquired with
      | true => exact .empty _ _
      | false =>
        have same : fenceMonitor.next view
            ⟨.exclusivityReacquired, false⟩ = view := by
          change { view with queued := view.queued && !false } = view
          rw [Bool.not_false, Bool.and_true]
        rw [same]
        refine ⟨queued, ?_⟩
        intro siteId member
        have harmless : (view.queued && view.cancelled && !false) =
            false := admitted
        rw [queued.known siteId member, Bool.not_false, Bool.and_true,
          Bool.true_and] at harmless
        exact harmless
    leave := fun _ _ live => live.1
    decide := by
      intro executor view controller round nowMs live present _
      have move := controller.observe_transition ⟨round, nowMs⟩
      refine ⟨nofun, ?_⟩
      exact FenceLive.afterDecision live present move }

theorem fenceMonitor_cancelled (view : FenceView) (event : Event port) :
    (fenceMonitor.next view event).cancelled =
      (decisionOf event).elim view.cancelled (Decision.outstanding view.cancelled) := by
  obtain ⟨op, answer⟩ := event
  cases op <;> rfl

/-- The state of the observer before anything happened. -/
def FenceView.initial : FenceView := ⟨false, false⟩

/-- A recovered writer is spared in every run, across crashes and restarts, in
which no input starts with a queued fence whose failover was cancelled, unless
the write exclusivity was re-acquired and the queue is discarded. -/
theorem recovered_writer_is_spared (config : FailoverConfig) (events : List (Event port))
    (executor : FailoverExecutor) (run : (executorMachine config).Run events executor)
    (discarded : fenceMonitor.Admits .initial events) : RecoveredWriterSpared events := by
  rintro before decision waiting cancellation between call later rfl _ _ cancels calls
  have along := (fenceLive_maintains.toFrames.run_along fenceLive_maintains.rounds
    (fun _ _ => (FenceLive.empty _ _).1) run .initial discarded).1
  have decided := (fenceMonitor.along_append _ _ _ _).mp along
  have cancelled := (fenceMonitor.along_append _ _ _ _).mp decided.2.2
  exact fence_of_clear fenceMonitor_cancelled cancels (cancelled.2.2.at_split calls)

/-- The next fence fails on its way to the authority. -/
def failNextFence (ports : MemoryPorts) : MemoryPorts :=
  { ports with authority := { ports.authority with failFence := true } }

/-- The write exclusivity has been lost and re-acquired. -/
def reacquireExclusivity (ports : MemoryPorts) : MemoryPorts :=
  { ports with
    authority := { ports.authority with exclusivityLatch := true } }

/-- A failover whose fence fails twice and that is then cancelled. -/
def queuedDrill (later : List Check) : Drill :=
  continueDrill (drill (failNextFence (outagePorts (reachableCheck 103 7 :: later)))
      ([100, 101, 102].map drillTick))
    failNextFence ([103].map drillTick)

theorem queuedDrill_run (later : List Check) :
    (executorMachine drillConfig).Run (queuedDrill later).trace (queuedDrill later).state :=
  continueDrill_run _ _ _ (ticks_made _) (drill_run _ _ (ticks_made _))

/-- The exclusivity is re-acquired before the next tick. -/
def sparedDrill : Drill :=
  continueDrill (queuedDrill [unreachableCheck 104, unreachableCheck 105])
    reacquireExclusivity ([104, 105].map drillTick)

/-- The queued fence is discarded; the writer is fenced when it fails again. -/
theorem recovered_writer_is_spared_drill :
    sparedDrill.trace.filterMap decisionOf = renewedDecisions ∧
      sparedDrill.trace.countP callsFence = 3 ∧ RecoveredWriterSpared sparedDrill.trace := by
  refine ⟨by decide +kernel, by decide +kernel, ?_⟩
  exact recovered_writer_is_spared drillConfig sparedDrill.trace sparedDrill.state
    (continueDrill_run _ _ _ (ticks_made _) (queuedDrill_run _))
    (by decide +kernel)

/-- The writer stays reachable and the executor ticks once more. -/
def staleDrill : Drill :=
  continueDrill (queuedDrill [reachableCheck 104 7]) id ([104].map drillTick)

/-- A retry fences a recovered writer: the fence that could not be applied is
still queued after the cancellation, and the next tick applies it before it
looks at the round in which every member reaches the writer. -/
theorem retry_fences_recovered_writer :
    (executorMachine drillConfig).Run staleDrill.trace staleDrill.state ∧
      ¬ RecoveredWriterSpared staleDrill.trace := by
  constructor
  · exact continueDrill_run _ _ _ (ticks_made _) (queuedDrill_run _)
  · intro spared
    obtain ⟨event, member, fences⟩ := spared (staleDrill.trace.take 11)
      ⟨.decided (.fenceOldWriter "west".toList), ()⟩
      ((staleDrill.trace.drop 12).take 4)
      ⟨.decided (.hold .failoverCancelledWriterRecovered), ()⟩
      ((staleDrill.trace.drop 17).take 1)
      ⟨.fenceWriterSite "west".toList, some .fenced⟩
      (staleDrill.trace.drop 19)
      (by decide +kernel) rfl (by decide +kernel) rfl rfl
    have none : ∀ event ∈ (staleDrill.trace.drop 17).take 1,
        decides Decision.fences event = false := by
      decide +kernel
    rw [none event member] at fences
    cases fences

end Zrotext.Failover
