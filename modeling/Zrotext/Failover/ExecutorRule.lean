import Zrotext.Failover.Executor
import Zrotext.Failover.Transition

/-!
# The invariant rule of the executor

An invariant of the executor relates its state, the queue of actions that still
have to be applied, and an observer of the port calls.  `Upholds` lists what has
to be shown of the parts of a tick; the rule then gives the invariant for ticks,
for the reconciliation input and for every run with crashes and restarts.
-/

namespace Zrotext.Failover

open Foundation List Program PortOp

/-- The actions that a decision asks for. -/
def Decision.actions : Decision → List PendingAction
  | .fenceOldWriter siteId => [.fence siteId]
  | .promoteStandby siteId newEpoch => [.promote siteId newEpoch]
  | _ => []

theorem Decision.actions_length_le (decision : Decision) : decision.actions.length ≤ 1 := by
  cases decision <;> simp [Decision.actions]

/-- Calls that only read, or only pause dispatch. -/
def PortOp.IsRead : PortOp → Prop
  | .collect _ => True
  | .loadState _ _ => True
  | .holdDispatch => True
  | .confirmedEpoch => True
  | _ => False

/-- The reading of the external anchor. -/
def PortOp.IsAnchorRead : PortOp → Prop
  | .confirmedEpoch => True
  | _ => False

/-- The journal save. -/
def PortOp.IsSave : PortOp → Prop
  | .saveControllerState _ => True
  | _ => False

/-- The site fence call. -/
def PortOp.IsSiteFence : PortOp → Prop
  | .fenceWriterSite _ => True
  | _ => False

/-- The calls of an attempt to fence. -/
def PortOp.InFence (op : PortOp) : Prop := op.IsSiteFence ∨ op.IsSave

/-- The call that has a promotion witnessed. -/
def PortOp.IsWitness : PortOp → Prop
  | .recordPromotion _ => True
  | _ => False

/-- The calls that complete a promotion. -/
def PortOp.InCompletion : PortOp → Prop
  | .saveControllerState _ => True
  | .recordPromotion _ => True
  | _ => False

/-- The calls to the external fence authority. -/
def PortOp.IsHostFence : PortOp → Prop
  | .fenceStatus _ => True
  | .fenceHost _ _ => True
  | _ => False

/-- The calls of an attempt to promote. -/
def PortOp.InPromotion : PortOp → Prop
  | .promoteStandby _ _ _ => True
  | op => op.IsHostFence ∨ op.InCompletion ∨ op.IsAnchorRead

/-- The calls of an attempt. -/
def PortOp.InAttempt (op : PortOp) : Prop := op.InFence ∨ op.InPromotion

/-- The queue that an attempt on one of its actions leaves. -/
def AttemptOutcome.queue (before : List PendingAction) (action : PendingAction)
    (later : List PendingAction) : AttemptOutcome → List PendingAction
  | .applied _ => before ++ later
  | .pending => before ++ action :: later
  | .superseded _ _ => before ++ action :: later

theorem sublist_middle {α : Type} (before later : List α) (middle : α) :
    (before ++ later).Sublist (before ++ middle :: later) :=
  (List.Sublist.refl before).append (sublist_cons_self middle later)

theorem AttemptOutcome.queue_sublist (before later : List PendingAction) (action : PendingAction)
    (outcome : AttemptOutcome) : (outcome.queue before action later).Sublist
      (before ++ action :: later) := by
  cases outcome with
  | applied application => exact sublist_middle before later action
  | pending | superseded => exact List.Sublist.refl _

/-- If a queue holds at most one action of a kind, and one stands in its middle,
then there is none around it. -/
theorem none_around (single : (before ++ action :: later).countP kind ≤ 1)
    (isKind : kind action) : ∀ other ∈ before ++ later, kind other = false := by
  rw [countP_append, countP_cons_of_pos isKind] at single
  have zero : (before ++ later).countP kind = 0 := by
    rw [countP_append]
    omega
  intro other member
  exact Bool.eq_false_iff.mpr (countP_eq_zero.mp zero other member)

/-! ## What attempts leave alone -/

/-- Two executors that agree on everything a journal or an epoch does not
touch. -/
structure FailoverExecutor.SameCore (before after : FailoverExecutor) : Prop where
  config : after.config = before.config
  controller : after.controller = before.controller
  pending : after.pending = before.pending
  live : after.liveExternalRequired = before.liveExternalRequired

namespace FailoverExecutor

variable (executor : FailoverExecutor) (op : PortOp) (newEpoch : U64)

theorem SameCore.refl : SameCore executor executor := ⟨rfl, rfl, rfl, rfl⟩

theorem SameCore.trans (early : SameCore first second)
    (late : SameCore second third) : SameCore first third where
  config := late.config.trans early.config
  controller := late.controller.trans early.controller
  pending := late.pending.trans early.pending
  live := late.live.trans early.live

theorem sameCore_journal (journal : Option ControllerJournal) :
    SameCore executor { executor with journal } := ⟨rfl, rfl, rfl, rfl⟩

theorem sameCore_epoch (epoch : U64) :
    SameCore executor { executor with authorityEpochAtRestore := epoch } :=
  ⟨rfl, rfl, rfl, rfl⟩

/-- Saving the journal is one call at most, and touches the durable copy
only. -/
theorem saveJournal_uses : Uses PortOp.IsSave
      (fun result => SameCore executor result.1) executor.saveJournal := by
  unfold saveJournal
  split
  · exact .refl executor
  · split
    · exact .refl executor
    · refine ⟨trivial, ?_⟩
      intro answer
      cases answer with
      | saved => exact ⟨rfl, rfl, rfl, rfl⟩
      | failed written => exact .refl executor

theorem advanceJournalFence_cases :
    executor.advanceJournalFence = executor ∨ (executor.advanceJournalFence =
      { executor with
            journal := some (executor.buildJournal .fencingOldWriter) } ∧
        ∀ journal, executor.journal = some journal → journal.phase = .steady) := by
  unfold advanceJournalFence
  cases stored : executor.journal with
  | none => exact .inr ⟨rfl, nofun⟩
  | some journal =>
    simp only
    split
    case isFalse => exact .inl rfl
    case isTrue steady =>
      refine .inr ⟨rfl, ?_⟩
      intro other same
      cases same
      exact eq_of_beq steady

theorem advanceJournalPromoted_cases (newEpoch : U64) :
    executor.advanceJournalPromoted newEpoch = executor ∨ ∃ journal : ControllerJournal,
        executor.advanceJournalPromoted newEpoch = { executor with journal := some journal } ∧
          journal.phase = .promoted newEpoch false false ∧
          (journal = executor.buildJournal (.promoted newEpoch false false) ∨
            ∃ old, executor.journal = some old ∧ journal = { old with
                phase := .promoted newEpoch false false }) := by
  unfold advanceJournalPromoted
  split
  case h_2 => exact .inr ⟨_, rfl, rfl, .inl rfl⟩
  case h_1 old stored =>
    split
    · split
      · exact .inl rfl
      · exact .inr ⟨_, rfl, rfl, .inr ⟨old, stored, rfl⟩⟩
    · exact .inr ⟨_, rfl, rfl, .inr ⟨old, stored, rfl⟩⟩

theorem advanceJournalFence_sameCore : SameCore executor executor.advanceJournalFence := by
  rcases executor.advanceJournalFence_cases with same | ⟨replaced, _⟩
  · rw [same]
    exact .refl executor
  · rw [replaced]
    exact executor.sameCore_journal _

theorem advanceJournalPromoted_sameCore (newEpoch : U64) :
    SameCore executor (executor.advanceJournalPromoted newEpoch) := by
  rcases executor.advanceJournalPromoted_cases newEpoch with
    same | ⟨journal, replaced, _⟩
  · rw [same]
    exact .refl executor
  · rw [replaced]
    exact executor.sameCore_journal _

theorem attemptFence_uses (siteId : Text) :
    Uses PortOp.InFence (fun attempted => SameCore executor attempted.executor)
      (executor.attemptFence siteId) := by
  have save : ∀ application : Application, Uses PortOp.InFence
        (fun attempted => SameCore executor attempted.executor)
        (executor.advanceJournalFence.saveJournal >>= fun result =>
          pure (⟨result.1, result.2, .applied application⟩ : Attempted)) := by
    intro application
    rw [uses_bind]
    refine (saveJournal_uses _).mono (fun _ => Or.inr) ?_
    intro result same
    exact (executor.advanceJournalFence_sameCore).trans same
  unfold attemptFence
  split
  · exact .refl executor
  · refine ⟨.inl trivial, ?_⟩
    intro answer
    match answer with
    | some .fenced => exact save _
    | some .alreadyFenced => exact save _
    | some .siteRowMissing => exact .refl executor
    | none => exact .refl executor

theorem isSave_inCompletion (save : op.IsSave) : op.InCompletion := by
  cases op <;> trivial

theorem inCompletion_inPromotion (completion : op.InCompletion) : op.InPromotion := by
  cases op <;> first | trivial | exact .inr (.inl completion)

theorem isAnchorRead_inPromotion (isAnchorRead : op.IsAnchorRead) : op.InPromotion := by
  cases op <;> first | trivial | exact .inr (.inr isAnchorRead)

theorem isHostFence_inPromotion (isHostFence : op.IsHostFence) : op.InPromotion := by
  cases op <;> first | trivial | exact .inl isHostFence

theorem secureIntent_uses : Uses PortOp.IsSave (fun result => SameCore executor result.1)
      (executor.secureIntent newEpoch) := by
  unfold secureIntent
  split
  · exact .refl executor
  · rw [uses_bind]
    refine (saveJournal_uses _).mono (fun _ => id) ?_
    intro result same
    exact (executor.sameCore_journal _).trans same

theorem confirmHostFence_uses :
    Uses PortOp.IsHostFence (fun _ => True) (executor.confirmHostFence newEpoch) := by
  refine ⟨trivial, ?_⟩
  intro status
  cases status with
  | fenced | unconfirmed => trivial
  | unfenced =>
    refine ⟨trivial, ?_⟩
    intro outcome
    cases outcome <;> trivial

theorem anchorAllows_uses :
    Uses PortOp.IsAnchorRead (fun _ => True) (executor.anchorAllows newEpoch) := by
  refine ⟨trivial, ?_⟩
  intro reading
  cases reading <;> trivial

theorem witnessPromotion_uses : Uses PortOp.IsWitness (fun _ => True)
      (witnessPromotion newEpoch) := by
  refine ⟨trivial, ?_⟩
  intro record
  cases record <;> trivial

theorem completePromotion_uses (siteId : Text) (newEpoch : U64)
    (journalSaved : Bool) (outcome : PromoteOutcome) : Uses PortOp.InCompletion
      (fun attempted => SameCore executor attempted.executor)
      (executor.completePromotion siteId newEpoch journalSaved outcome) := by
  unfold completePromotion
  rw [uses_bind]
  refine (witnessPromotion_uses newEpoch).mono (fun op _ => by cases op <;> trivial) ?_
  intro witnessed _
  split
  · rw [uses_bind]
    refine (saveJournal_uses _).mono isSave_inCompletion ?_
    intro result same
    exact ((executor.sameCore_epoch newEpoch).trans
      (advanceJournalPromoted_sameCore _ newEpoch)).trans same
  · exact executor.sameCore_epoch newEpoch

theorem attemptPromote_uses (siteId : Text) (newEpoch : U64) :
    Uses PortOp.InPromotion (fun attempted => SameCore executor attempted.executor)
      (executor.attemptPromote siteId newEpoch) := by
  unfold attemptPromote
  split
  · exact .refl executor
  · rw [uses_bind]
    refine (secureIntent_uses executor newEpoch).mono
      (fun op save => inCompletion_inPromotion op (isSave_inCompletion op save))
      ?_
    rintro ⟨intended, journalSaved, intentDurable⟩ same
    simp only
    split
    · exact same
    · rw [uses_bind]
      refine (confirmHostFence_uses intended newEpoch).mono isHostFence_inPromotion ?_
      intro confirmed _
      split
      · exact same
      · rw [uses_bind]
        refine (anchorAllows_uses intended newEpoch).mono isAnchorRead_inPromotion ?_
        intro allowed _
        split
        · exact same
        · refine ⟨trivial, ?_⟩
          have complete : ∀ outcome, Uses PortOp.InPromotion
              (fun attempted => SameCore executor attempted.executor)
              (intended.completePromotion siteId newEpoch journalSaved outcome) := by
            intro outcome
            refine (completePromotion_uses intended siteId newEpoch
              journalSaved outcome).mono inCompletion_inPromotion ?_
            exact fun attempted later => same.trans later
          intro answer
          match answer with
          | some .promoted => exact complete _
          | some .alreadyAtEpoch => exact complete _
          | some (.refusedHigherEpoch current) => exact same
          | some .refusedWriterUnfenced => exact same
          | some .siteRowMissing => exact same
          | none => exact same

/-- An attempt leaves the controller and the queue alone. -/
theorem attempt_uses (action : PendingAction) :
    Uses PortOp.InAttempt (fun attempted => SameCore executor attempted.executor)
      (executor.attempt action) := by
  cases action with
  | fence siteId =>
    exact (attemptFence_uses executor siteId).mono (fun _ => .inl) fun _ => id
  | promote siteId newEpoch =>
    exact (attemptPromote_uses executor siteId newEpoch).mono (fun _ => .inr) fun _ => id

end FailoverExecutor

/-! ## The rule -/

/-- An invariant over the executor, the queue of its open actions and the state
of an observer. -/
abbrev QueueInvariant (γ : Type) := FailoverExecutor → List PendingAction → γ → Prop

section Rule

variable {γ : Type} (monitor : Monitor port γ) (check : γ → Event port → Prop)
  (holds : QueueInvariant γ) (rests : FailoverExecutor → γ → Prop)

/-- Reading calls keep the invariant. -/
def KeepsReads : Prop :=
  ∀ executor queue ghost (op : PortOp) (answer : op.Answer),
    op.IsRead → holds executor queue ghost →
    monitor.Passes check ghost ⟨op, answer⟩ (holds executor queue)

/-- The invariant does not depend on the status, the restored epoch or the
executor's own copy of the queue. -/
def KeepsBookkeeping : Prop :=
  ∀ executor queue ghost status epoch pending, holds executor queue ghost →
    holds { executor with status, authorityEpochAtRestore := epoch, pending } queue ghost

/-- Loading the journal keeps the invariant, and so does resuming from it when
it can be reconciled.  `Fits` is what the observer knows of the authority's
epoch at that point. -/
def KeepsLoad (Fits : γ → U64 → Prop) : Prop :=
  ∀ (executor : FailoverExecutor) ghost epoch (answer : loadControllerState.Answer),
    holds executor executor.pending ghost → executor.controller = none →
    Fits ghost epoch →
    monitor.Passes check ghost ⟨loadControllerState, answer⟩ fun final =>
      holds executor executor.pending final ∧
      ∀ encoded, answer = some encoded →
        (FailoverExecutor.loadedJournal executor.config encoded).bind
            (FailoverExecutor.journalFault · epoch) = none →
        holds (executor.resume epoch (FailoverExecutor.loadedJournal executor.config encoded))
          executor.pending final

/-- The invariant with the executor's own queue. -/
def AtRest (executor : FailoverExecutor) (ghost : γ) : Prop :=
  holds executor executor.pending ghost

/-- What has to be shown of the steps inside a tick. -/
structure Steps : Prop where
  read : KeepsReads monitor check holds
  bookkeeping : KeepsBookkeeping holds
  forget : ∀ executor before action later ghost, holds executor (before ++ action :: later) ghost →
    holds executor (before ++ later) ghost
  discard : ∀ executor queue ghost,
    holds executor queue ghost → holds executor.discardStaleState [] ghost
  restore : ∀ executor ghost, holds executor executor.pending ghost → executor.controller = none →
    Program.Safe monitor check (fun result final => holds result.1 result.1.pending final)
      executor.restore ghost
  attempt : ∀ executor before action later ghost, holds executor (before ++ action :: later) ghost →
    Program.Safe monitor check (fun attempted final => holds attempted.executor
        (attempted.outcome.queue before action later) final)
      (executor.attempt action) ghost
  reconcile : ∀ executor queue ghost controller,
    holds executor queue ghost → executor.controller = some controller →
    holds { executor with controller := some controller.reconcileComplete.1 } queue ghost
  flags : ∀ executor queue ghost (journal : ControllerJournal) newEpoch
      reconciled rejoinEmitted reconciledNow rejoinEmittedNow,
    holds executor queue ghost → executor.journal = some journal →
    journal.phase = .promoted newEpoch reconciled rejoinEmitted →
    Program.Safe monitor check (fun result final => holds result.1 queue final)
      { executor with
        journal := some { journal with
          phase := .promoted newEpoch reconciledNow rejoinEmittedNow }
        }.saveJournal ghost

/-- What has to be shown of an invariant that holds at all times. -/
structure Upholds : Prop extends Steps monitor check holds where
  exclusivity : ∀ executor queue ghost reacquired, holds executor queue ghost →
    monitor.Passes check ghost ⟨exclusivityReacquired, reacquired⟩ (holds executor queue)
  observe : ∀ executor queue ghost controller round nowMs,
    holds executor queue ghost → executor.controller = some controller →
    monitor.Passes check ghost ⟨decided (controller.observe round nowMs).2, ()⟩
      (holds { executor with controller := some (controller.observe round nowMs).1 }
        (queue ++ (controller.observe round nowMs).2.actions))

/-- What has to hold after a decision: the invariant together with the actions
of the decision, or the weaker invariant between inputs if nothing follows. -/
def AfterDecision (executor : FailoverExecutor) (ghost : γ) : Decision → Prop
  | .hold _ => rests executor ghost
  | .quorumLost => rests executor ghost
  | .keepDispatchPaused => rests executor ghost
  | decision => holds executor (executor.pending ++ decision.actions) ghost

/-- What has to be shown, the rounds left aside, of an invariant that may be
weaker between inputs: it is entered again with the first call of an input. -/
structure Frames : Prop extends Steps monitor check holds where
  idle : ∀ executor ghost held, rests executor ghost →
    monitor.Passes check ghost ⟨holdDispatch, held⟩ (rests executor)
  enter : ∀ executor ghost reacquired, rests executor ghost →
    monitor.Passes check ghost ⟨exclusivityReacquired, reacquired⟩
      (AtRest holds (if reacquired then executor.discardStaleState else executor))
  leave : ∀ executor ghost, AtRest holds executor ghost → rests executor ghost

/-- A round that starts from the invariant ends in the weaker one. -/
def KeepsRounds : Prop :=
  ∀ (executor : FailoverExecutor) retried nowMs ghost, AtRest holds executor ghost →
    Program.Safe monitor check (fun result final => rests result.1 final)
      (executor.runRound retried nowMs) ghost

/-- What has to be shown of an invariant that allows for a decision whatever the
round was. -/
structure Maintains : Prop extends Frames monitor check holds rests where
  decide : ∀ executor ghost controller round nowMs,
    AtRest holds executor ghost → executor.controller = some controller →
    monitor.Passes check ghost ⟨decided (controller.observe round nowMs).2, ()⟩ fun final =>
      AfterDecision holds rests
        { executor with controller := some (controller.observe round nowMs).1 } final
        (controller.observe round nowMs).2

end Rule

variable {γ : Type} {monitor : Monitor port γ} {holds : QueueInvariant γ}
  {check : γ → Event port → Prop}

theorem KeepsReads.safe (reads : KeepsReads monitor check holds) {α : Type} {post : α → γ → Prop}
    (op : PortOp)
    (isRead : op.IsRead) (next : op.Answer → Program port α)
    (invariant : holds executor queue ghost) (continues : ∀ answer,
      holds executor queue (monitor.next ghost ⟨op, answer⟩) →
      Safe monitor check post (next answer) (monitor.next ghost ⟨op, answer⟩)) :
    Safe monitor check post (.call op next) ghost := by
  intro answer admitted
  obtain ⟨checked, after⟩ := reads executor queue ghost op answer isRead invariant admitted
  exact ⟨checked, continues answer after⟩

/-- Restoring keeps the invariant if loading the journal does. -/
theorem KeepsLoad.restore (load : KeepsLoad monitor check holds Fits)
    (reads : KeepsReads monitor check holds) (bookkeeping : KeepsBookkeeping holds)
    (fits : ∀ ghost writerSite standbySite (snapshot : AuthoritySnapshot), Fits (monitor.next ghost
          ⟨loadState writerSite standbySite, some snapshot⟩)
        snapshot.epoch)
    (executor : FailoverExecutor) (ghost : γ) (invariant : holds executor executor.pending ghost)
    (absent : executor.controller = none) : Safe monitor check
      (fun result final => holds result.1 result.1.pending final) executor.restore ghost := by
  have status : ∀ (current : FailoverExecutor) final status, holds current current.pending final →
      holds { current with status } current.pending final :=
    fun current final status rest =>
      bookkeeping current current.pending final status
        current.authorityEpochAtRestore current.pending rest
  refine reads.safe confirmedEpoch trivial _ invariant ?_
  intro reading rest
  cases reading with
  | unconfirmed => exact status executor _ _ rest
  | confirmed anchored =>
    refine reads.safe (loadState _ _) trivial _ rest ?_
    intro loaded kept
    cases loaded with
    | none => exact status executor _ _ kept
    | some snapshot =>
      have known := bookkeeping executor executor.pending _
        executor.status snapshot.epoch executor.pending kept
      change Safe monitor check _ (if snapshot.epoch < anchored then _ else _) _
      split
      · exact status _ _ _ known
      · intro answer admitted
        obtain ⟨checked, after, resumed⟩ := load
          { executor with authorityEpochAtRestore := snapshot.epoch } _
          snapshot.epoch answer known absent (fits _ _ _ snapshot) admitted
        refine ⟨checked, ?_⟩
        cases answer with
        | none => exact status _ _ _ after
        | some encoded =>
          simp only [Program.bind]
          split
          · exact status _ _ _ after
          case h_2 reconciled => exact resumed encoded rfl reconciled

/-- An attempt at an action of the queue keeps the invariant, with the queue that
its outcome leaves. -/
abbrev SafeAttempt (monitor : Monitor port γ) (check : γ → Event port → Prop)
    (holds : QueueInvariant γ) (before : List PendingAction) (action : PendingAction)
    (later : List PendingAction) (program : Program port Attempted) (ghost : γ) : Prop :=
  Safe monitor check (fun attempted final => holds attempted.executor
    (attempted.outcome.queue before action later) final) program ghost

/-- The stages of an attempt to promote.  `secured` is what a durable intent
establishes and `ready` what a confirmed host fence adds; the promotion is
called, and completed, only when ready. -/
theorem attemptPromote_safe (secured ready : FailoverExecutor → γ → Prop)
    (executor : FailoverExecutor) (siteId : Text) (newEpoch : U64)
    (before later queue : List PendingAction)
    (isQueue : before ++ .promote siteId newEpoch :: later = queue) (ghost : γ)
    (invariant : holds executor queue ghost)
    (secure : Safe monitor check (fun result final =>
        holds result.1 queue final ∧ (result.2.2 = true → secured result.1 final))
      (executor.secureIntent newEpoch) ghost)
    (confirm : ∀ (intended : FailoverExecutor) final,
      holds intended queue final → secured intended final →
      Safe monitor check (fun confirmed last =>
          holds intended queue last ∧ (confirmed = true → ready intended last))
        (intended.confirmHostFence newEpoch) final)
    (anchor : ∀ (intended : FailoverExecutor) final,
      holds intended queue final → ready intended final →
      Safe monitor check (fun _ last => holds intended queue last ∧ ready intended last)
        (intended.anchorAllows newEpoch) final)
    (promote : ∀ (intended : FailoverExecutor) final fencedSite (answer : Option PromoteOutcome),
      holds intended queue final → ready intended final →
      check final ⟨promoteStandby siteId fencedSite newEpoch, answer⟩ ∧ monitor.next final
          ⟨promoteStandby siteId fencedSite newEpoch, answer⟩ = final)
    (complete : ∀ (intended : FailoverExecutor) final journalSaved outcome,
      holds intended queue final → ready intended final →
      SafeAttempt monitor check holds before (.promote siteId newEpoch) later
        (intended.completePromotion siteId newEpoch journalSaved outcome) final) :
    SafeAttempt monitor check holds before (.promote siteId newEpoch) later
      (executor.attemptPromote siteId newEpoch) ghost := by
  subst isQueue
  unfold FailoverExecutor.attemptPromote
  split
  · exact invariant
  · refine secure.bind ?_
    rintro ⟨intended, journalSaved, intentDurable⟩ final ⟨rest, durable⟩
    simp only
    split
    · exact rest
    case isFalse isDurable =>
      have isSecured := durable (by simpa using isDurable)
      refine (confirm intended final rest isSecured).bind ?_
      rintro confirmed second ⟨kept, becomesReady⟩
      split
      · exact kept
      case isFalse isConfirmed =>
        have isReady := becomesReady (by simpa using isConfirmed)
        refine (anchor intended second kept isReady).bind ?_
        rintro allowed third ⟨last, stillReady⟩
        split
        · exact last
        · intro answer _
          obtain ⟨checked, same⟩ := promote intended third _ answer last stillReady
          refine ⟨checked, ?_⟩
          rw [same]
          match answer with
          | some .promoted => exact complete _ _ _ _ last stillReady
          | some .alreadyAtEpoch => exact complete _ _ _ _ last stillReady
          | some (.refusedHigherEpoch current) => exact last
          | some .refusedWriterUnfenced => exact last
          | some .siteRowMissing => exact last
          | none => exact last

namespace Steps

section

variable (steps : Steps monitor check holds)

include steps

theorem safe_read {α : Type} {post : α → γ → Prop} (op : PortOp)
    (isRead : op.IsRead) (next : op.Answer → Program port α)
    (invariant : holds executor queue ghost)
    (continues : ∀ answer final, holds executor queue final →
      Safe monitor check post (next answer) final) :
    Safe monitor check post (.call op next) ghost :=
  steps.read.safe op isRead next invariant fun answer after =>
    continues answer _ after

theorem status (invariant : holds executor queue ghost)
    (status : ExecutorStatus) : holds { executor with status } queue ghost :=
  steps.bookkeeping executor queue ghost status
    executor.authorityEpochAtRestore executor.pending invariant

theorem setPending (invariant : holds executor queue ghost)
    (pending : List PendingAction) : holds { executor with pending } queue ghost :=
  steps.bookkeeping executor queue ghost executor.status
    executor.authorityEpochAtRestore pending invariant

/-- Retrying the queue keeps the invariant, whatever stands before it. -/
theorem retry_safe (before : List PendingAction)
    (executor : FailoverExecutor) (application : Application) (journalSaved : Bool) (ghost : γ)
    (invariant : holds executor (before ++ actions) ghost) : Safe monitor check
      (fun retried final =>
        holds retried.executor (before ++ retried.stillPending) final)
      (executor.retry application journalSaved actions) ghost := by
  induction actions generalizing before executor application journalSaved ghost with
  | nil => exact invariant
  | cons action actions ih =>
    unfold FailoverExecutor.retry
    refine (steps.attempt executor before action actions ghost invariant).bind ?_
    intro attempted final after
    cases outcome : attempted.outcome with
    | applied applied =>
      rw [outcome] at after
      exact ih before attempted.executor applied _ final after
    | pending =>
      rw [outcome] at after
      have moved : holds attempted.executor ((before ++ [action]) ++ actions) final := by
        rw [append_assoc]
        exact after
      refine (ih (before ++ [action]) attempted.executor application _ final moved).bind ?_
      intro rest last kept
      rw [append_assoc] at kept
      exact kept
    | superseded promotionEpoch authorityEpoch =>
      rw [outcome] at after
      exact steps.status after _

/-- Attempting a fresh action parks it or drops it. -/
theorem attemptFresh_safe
    (invariant : holds executor (executor.pending ++ [action]) ghost) : Safe monitor check
      (fun result final => AtRest holds result.1 final) (executor.attemptFresh action) ghost := by
  unfold FailoverExecutor.attemptFresh
  refine ((steps.attempt executor executor.pending action [] ghost
    invariant).and_uses (executor.attempt_uses action)).bind ?_
  rintro attempted final ⟨after, same⟩
  cases outcome : attempted.outcome with
  | applied application =>
    rw [outcome] at after
    change holds attempted.executor attempted.executor.pending final
    rw [same.pending, ← append_nil executor.pending]
    exact after
  | pending =>
    rw [outcome] at after
    rw [same.pending]
    exact steps.setPending after _
  | superseded promotionEpoch authorityEpoch =>
    rw [outcome] at after
    change holds _ attempted.executor.pending final
    rw [same.pending, ← append_nil executor.pending]
    exact steps.status (steps.forget _ _ action [] final after) _

variable {ghost : γ} (invariant : AtRest holds executor ghost)

include invariant

theorem anchorConfirmsPromotion_safe :
    Safe monitor check (fun _ final => AtRest holds executor final)
      executor.anchorConfirmsPromotion ghost := by
  unfold FailoverExecutor.anchorConfirmsPromotion
  split
  · exact invariant
  · refine steps.safe_read confirmedEpoch trivial _ invariant ?_
    intro reading final rest
    cases reading <;> exact rest

/-- Saving other flags of a promotion keeps the invariant. -/
theorem flags_atRest (stored : executor.journal = some journal)
    (phase : journal.phase = .promoted newEpoch reconciled rejoinEmitted)
    (reconciledNow rejoinEmittedNow : Bool) :
    Safe monitor check (fun result final => AtRest holds result.1 final)
      { executor with
        journal := some { journal with
          phase := .promoted newEpoch reconciledNow rejoinEmittedNow }
        }.saveJournal ghost := by
  have saved := (steps.flags executor executor.pending ghost journal newEpoch reconciled
    rejoinEmitted reconciledNow rejoinEmittedNow invariant stored
    phase).and_uses (FailoverExecutor.saveJournal_uses _)
  refine saved.mono ?_
  rintro result last ⟨after, same⟩
  rw [AtRest, same.pending]
  exact after

theorem applyRejoin_safe (siteId : Text) :
    Safe monitor check (fun result final => AtRest holds result.1 final)
      (executor.applyRejoin siteId) ghost := by
  unfold FailoverExecutor.applyRejoin
  refine (steps.anchorConfirmsPromotion_safe invariant).bind ?_
  intro confirms final rest
  split
  · exact rest
  · split
    · exact rest
    case h_2 updated found =>
      obtain ⟨journal, stored, recorded⟩ := Option.bind_eq_some_iff.mp found
      unfold FailoverExecutor.recordRejoin at recorded
      split at recorded
      case h_2 => cases recorded
      case h_1 newEpoch reconciled phase =>
        cases recorded
        exact (steps.flags_atRest rest stored phase _ _).bind fun _ _ after => after

theorem discard_atRest : AtRest holds executor.discardStaleState ghost :=
  steps.discard executor executor.pending ghost invariant

theorem holdDispatch_safe {α : Type}
    (result : Bool → FailoverExecutor × α)
    (keeps : ∀ held final, AtRest holds executor final → AtRest holds (result held).1 final) :
    Safe monitor check (fun value final => AtRest holds value.1 final)
      (Port.holdDispatch >>= fun held => pure (result held)) ghost := by
  exact steps.safe_read holdDispatch trivial _ invariant keeps

theorem liveExternalPreflight_safe : Safe monitor check
      (fun result final => AtRest holds result.1 final) executor.liveExternalPreflight ghost := by
  unfold FailoverExecutor.liveExternalPreflight
  split
  · exact steps.holdDispatch_safe invariant _ fun _ _ rest => rest
  · refine steps.safe_read confirmedEpoch trivial _ invariant ?_
    intro reading final rest
    cases reading with
    | unconfirmed =>
      exact steps.holdDispatch_safe rest _ fun _ _ later => steps.discard_atRest later
    | confirmed anchored =>
      refine steps.safe_read (loadState _ _) trivial _ rest ?_
      intro loaded last kept
      cases loaded with
      | none =>
        exact steps.holdDispatch_safe kept _ fun _ _ later => steps.discard_atRest later
      | some snapshot =>
        change Safe monitor check _ (if snapshot.epoch < anchored then _ else _) last
        split
        · exact steps.holdDispatch_safe kept _ fun _ _ later => steps.status later _
        · split
          · exact steps.holdDispatch_safe kept _ fun _ _ later => steps.discard_atRest later
          · exact kept

theorem ensurePreflight_safe : Safe monitor check
      (fun result final => AtRest holds result.1 final) executor.ensurePreflight ghost := by
  unfold FailoverExecutor.ensurePreflight
  split
  · exact steps.liveExternalPreflight_safe invariant
  · exact invariant

theorem ensureRestored_safe : Safe monitor check
      (fun result final => AtRest holds result.1 final) executor.ensureRestored ghost := by
  unfold FailoverExecutor.ensureRestored
  split
  case isTrue absent =>
    exact steps.restore executor ghost invariant (Option.isNone_iff_eq_none.mp absent)
  case isFalse => exact invariant

end

end Steps

namespace Frames

variable {rests : FailoverExecutor → γ → Prop}

section

variable (frames : Frames monitor check holds rests) (executor : FailoverExecutor)

include frames executor

theorem applyDecision_safe
    (invariant : AfterDecision holds rests executor ghost decision) :
    Safe monitor check (fun result final => rests result.1 final)
      (executor.applyDecision decision) ghost := by
  have steps := frames.toSteps
  cases decision with
  | fenceOldWriter | promoteStandby =>
    exact (steps.attemptFresh_safe invariant).mono fun _ _ => frames.leave _ _
  | rejoinFormerWriterAsReplica siteId =>
    have idle : AtRest holds executor ghost := by
      rw [AtRest, ← append_nil executor.pending]
      exact invariant
    exact (steps.applyRejoin_safe idle siteId).mono fun _ _ => frames.leave _ _
  | hold | quorumLost | keepDispatchPaused => exact invariant

theorem concludeRound_safe (retried : Retried) (observed : FailoverController × Decision)
    (ghost : γ) (decide : monitor.Passes check ghost ⟨decided observed.2, ()⟩ fun final =>
      AfterDecision holds rests { executor with controller := some observed.1 } final observed.2) :
    Safe monitor check (fun result final => rests result.1 final)
      (executor.concludeRound retried observed) ghost := by
  intro marker admitted
  obtain ⟨checked, decided⟩ := decide admitted
  refine ⟨checked, ?_⟩
  change Safe monitor check _ (done marker >>= _) _
  rw [done_bind]
  exact (frames.applyDecision_safe _ decided).bind fun _ _ after => after

theorem runTick_safe (rounds : KeepsRounds monitor check holds rests) (nowMs : U64)
    (invariant : AtRest holds executor ghost) :
    Safe monitor check (fun result final => rests result.1 final)
      (executor.runTick nowMs) ghost := by
  have steps := frames.toSteps
  unfold FailoverExecutor.runTick
  refine (steps.retry_safe [] _ .none false ghost (steps.setPending invariant [])).bind ?_
  intro retried final after
  have rest : AtRest holds
      { retried.executor with pending := retried.stillPending } final :=
    steps.setPending after _
  cases superseded : retried.superseded with
  | some application => exact frames.leave _ _ rest
  | none => exact rounds _ retried nowMs final rest

theorem checkExclusivity_safe (invariant : rests executor ghost) :
    Safe monitor check (fun result final => AtRest holds result final)
      executor.checkExclusivity ghost := by
  intro reacquired admitted
  obtain ⟨checked, entered⟩ := frames.enter executor ghost reacquired invariant admitted
  refine ⟨checked, ?_⟩
  cases reacquired <;> exact entered

theorem tick_safe (rounds : KeepsRounds monitor check holds rests) (nowMs : U64)
    (invariant : rests executor ghost) :
    Safe monitor check (fun result final => rests result.1 final)
      (executor.tick nowMs) ghost := by
  have steps := frames.toSteps
  unfold FailoverExecutor.tick
  split
  · split
    · intro held admitted
      exact frames.idle executor ghost held invariant admitted
    · exact invariant
  · refine (frames.checkExclusivity_safe executor invariant).bind ?_
    intro checked final rest
    refine (steps.ensurePreflight_safe rest).bind ?_
    rintro ⟨preflighted, ready⟩ second kept
    simp only
    split
    · exact frames.leave _ _ kept
    · refine (steps.ensureRestored_safe kept).bind ?_
      rintro ⟨restored, running⟩ third last
      split
      · exact frames.leave _ _ last
      · exact frames.runTick_safe restored rounds nowMs last

theorem reconcileComplete_safe (invariant : rests executor ghost) :
    Safe monitor check (fun result final => rests result.1 final)
      executor.reconcileComplete ghost := by
  unfold FailoverExecutor.reconcileComplete
  refine (frames.checkExclusivity_safe executor invariant).bind ?_
  intro checked final rest
  split
  · exact frames.leave _ _ rest
  · cases present : checked.controller with
    | none => exact frames.leave _ _ rest
    | some controller =>
      simp only
      split
      · exact frames.leave _ _ rest
      case h_2 reconciled _ outcome =>
        have after := frames.reconcile checked checked.pending final controller rest present
        rw [outcome] at after
        split
        · exact frames.leave _ _ after
        case h_2 updated found =>
          obtain ⟨journal, stored, recorded⟩ := Option.bind_eq_some_iff.mp found
          unfold FailoverExecutor.recordReconciled at recorded
          split at recorded
          case h_2 => cases recorded
          case h_1 newEpoch before rejoinEmitted phase =>
            cases recorded
            exact (frames.toSteps.flags_atRest after stored phase _ _).bind fun _ _ =>
              frames.leave _ _

end

/-- The rule for runs: an invariant that is maintained and true of every fresh
executor holds in every state of every run, and every event passes the check. -/
theorem run_along (frames : Frames monitor check holds rests)
    (rounds : KeepsRounds monitor check holds rests)
    (fresh : ∀ live ghost, rests (FailoverExecutor.new config live) ghost)
    (run : (executorMachine config).Run trace executor) (ghost : γ)
    (admitted : monitor.Admits ghost trace) : monitor.Along check ghost trace ∧
      rests executor (monitor.after ghost trace) := by
  refine Machine.Run.along ?_ ?_ run ghost admitted
  · rintro state start ⟨live, rfl⟩
    exact fresh live start
  · intro state input start invariant
    cases input with
    | tick nowMs =>
      change Safe monitor check _ (state.tick nowMs >>= _) start
      exact (frames.tick_safe state rounds nowMs invariant).bind fun _ _ after => after
    | reconcileComplete =>
      change Safe monitor check _ (state.reconcileComplete >>= _) start
      exact (frames.reconcileComplete_safe state invariant).bind fun _ _ after => after

end Frames

theorem Maintains.rounds {rests : FailoverExecutor → γ → Prop}
    (maintains : Maintains monitor check holds rests) : KeepsRounds monitor check holds rests := by
  intro executor retried nowMs ghost invariant
  refine maintains.toSteps.safe_read (collect nowMs) trivial _ invariant ?_
  intro round final rest
  cases present : executor.controller with
  | none => exact maintains.leave _ _ rest
  | some controller =>
    exact maintains.toFrames.concludeRound_safe executor retried _ final
      (maintains.decide executor final controller round nowMs rest present)

namespace Upholds

theorem maintains (upholds : Upholds monitor check holds) :
    Maintains monitor check holds (AtRest holds) where
  toSteps := upholds.toSteps
  idle executor ghost held rest admitted :=
    upholds.read executor executor.pending ghost holdDispatch held trivial rest admitted
  enter executor ghost reacquired rest admitted := by
    obtain ⟨checked, kept⟩ := upholds.exclusivity executor executor.pending
      ghost reacquired rest admitted
    refine ⟨checked, ?_⟩
    cases reacquired with
    | true => exact upholds.toSteps.discard_atRest kept
    | false => exact kept
  leave _ _ rest := rest
  decide executor ghost controller round nowMs rest present admitted := by
    obtain ⟨checked, after⟩ := upholds.observe executor executor.pending ghost
      controller round nowMs rest present admitted
    refine ⟨checked, ?_⟩
    generalize (controller.observe round nowMs).2 = decision at after ⊢
    have inert : decision.actions = [] → AtRest holds
        { executor with controller := some (controller.observe round nowMs).1 }
        (monitor.next ghost ⟨decided decision, ()⟩) := by
      intro none
      rw [none, append_nil] at after
      exact after
    cases decision with
    | hold | quorumLost | keepDispatchPaused => exact inert rfl
    | fenceOldWriter | promoteStandby | rejoinFormerWriterAsReplica => exact after

theorem run_along (upholds : Upholds monitor check holds)
    (fresh : ∀ live ghost, holds (FailoverExecutor.new config live) [] ghost)
    (run : (executorMachine config).Run trace executor) (ghost : γ)
    (admitted : monitor.Admits ghost trace) : monitor.Along check ghost trace ∧
      AtRest holds executor (monitor.after ghost trace) :=
  upholds.maintains.toFrames.run_along upholds.maintains.rounds fresh run ghost admitted

end Upholds
end Zrotext.Failover
