import Zrotext.Failover.PromotionEpoch

/-!
# The write-ahead intent

A promotion is called only while the authority's own row holds the intent to
make it.  The executor keeps three copies of its journal: the one in memory, the
one it knows to be durable, and the row of the authority.  A failed save makes
them differ, so the invariant says on which promotion epochs the three still
agree.
-/

namespace Zrotext.Failover

open Foundation List PendingAction ControllerJournal

variable (config : FailoverConfig)

/-- The durable row holds the intent to promote under an epoch. -/
def IntentDurable (row : Option Text) (newEpoch : U64) : Prop :=
  ∃ line journal, row = some line ∧ decode line = .ok journal ∧
    journal.BelongsTo config ∧ journal.phase = .promoting newEpoch

/-- A promotion is called only on a durable intent. -/
def onDurableIntent (row : Option Text) (event : Event port) : Prop :=
  ∀ newEpoch, promotionEpoch event = some newEpoch → IntentDurable config row newEpoch

/-- An action that promotes. -/
def PendingAction.isPromote : PendingAction → Bool
  | .promote _ _ => true
  | .fence _ => false

/-- A journal that was written for a configuration and can be read back. -/
def ControllerJournal.Sound (journal : ControllerJournal) : Prop :=
  journal.BelongsTo config ∧ journal.phase.EpochPositive

namespace FailoverExecutor

/-- The controller has decided the promotion. -/
def HasPromoted (executor : FailoverExecutor) : Prop :=
  ∃ controller, executor.controller = some controller ∧ controller.phase.IsPromoted

/-- A promotion under this epoch may still be attempted: it is queued, or the
controller has decided none yet. -/
def MayPromote (executor : FailoverExecutor) (queue : List PendingAction) (newEpoch : U64) : Prop :=
  (∃ siteId, promote siteId newEpoch ∈ queue) ∨ ¬ executor.HasPromoted

end FailoverExecutor

/-- The invariant of the three copies of the journal. -/
structure IntentKept (config : FailoverConfig) (executor : FailoverExecutor)
    (queue : List PendingAction)
    (row : Option Text) : Prop where
  configured : executor.config = config
  unread : executor.controller = none →
    queue = [] ∧ executor.journal = none ∧ executor.durableJournal = none
  journalSound : ∀ journal, executor.journal = some journal → journal.Sound config
  durableSound : ∀ journal, executor.durableJournal = some journal → journal.Sound config
  decided : ∀ siteId newEpoch, promote siteId newEpoch ∈ queue →
    executor.HasPromoted ∧ newEpoch ≠ 0
  single : queue.countP isPromote ≤ 1
  agree : ∀ durable newEpoch, executor.durableJournal = some durable →
    durable.phase = .promoting newEpoch →
    executor.MayPromote queue newEpoch →
    (∃ journal, executor.journal = some journal ∧ journal.phase = .promoting newEpoch) ∧
    IntentDurable config row newEpoch

/-- With one promotion in the middle of the queue there is no other. -/
theorem no_promote_around (single : (before ++ .promote siteId newEpoch :: later).countP
    isPromote ≤ 1)
    (otherSite : Text) (otherEpoch : U64) :
    promote otherSite otherEpoch ∉ before ++ later := by
  intro member
  cases none_around single rfl _ member

/-- The promotion in the middle of the queue is the only one. -/
theorem promote_unique (single : (before ++ .promote siteId newEpoch :: later).countP
      isPromote ≤ 1)
    (member : promote otherSite otherEpoch ∈
      before ++ .promote siteId newEpoch :: later) :
    otherEpoch = newEpoch := by
  have none := no_promote_around single otherSite otherEpoch
  rw [mem_append, mem_cons] at member
  rcases member with early | here | late
  · exact absurd (mem_append_left later early) none
  · cases here
    rfl
  · exact absurd (mem_append_right before late) none

namespace IntentKept

variable {config : FailoverConfig}

variable {journal : ControllerJournal} {newEpoch : U64} {siteId : Text}

theorem read_of_queue (kept : IntentKept config executor (before ++ action :: later) row) :
    executor.controller ≠ none := by
  intro absent
  exact absurd (kept.unread absent).1 (append_ne_nil_of_right_ne_nil before
      (cons_ne_nil action later))

theorem forget (kept : IntentKept config executor (before ++ action :: later) row) :
    IntentKept config executor (before ++ later) row := by
  have fewer := sublist_middle before later action
  refine { kept with
    unread := fun absent => absurd absent kept.read_of_queue
    decided := fun siteId newEpoch member => kept.decided siteId newEpoch (fewer.subset member)
    single := fewer.countP_le.trans kept.single
    agree := fun durable newEpoch stored phase may => ?_ }
  refine kept.agree durable newEpoch stored phase (may.imp_left ?_)
  rintro ⟨siteId, member⟩
  exact ⟨siteId, fewer.subset member⟩

/-- The invariant does not read the status, the restored epoch or the
executor's own queue. -/
theorem bookkeeping (kept : IntentKept config executor queue row) (status : ExecutorStatus)
    (epoch : U64) (pending : List PendingAction) : IntentKept config { executor with
      status := status, authorityEpochAtRestore := epoch, pending := pending } queue row :=
  { kept with }

theorem blank (configured : executor.config = config) (journal : executor.journal = none)
    (durable : executor.durableJournal = none) : IntentKept config executor [] row where
  configured
  unread _ := ⟨rfl, journal, durable⟩
  journalSound _ stored := by rw [journal] at stored; cases stored
  durableSound _ stored := by rw [durable] at stored; cases stored
  decided _ _ member := nomatch member
  single := Nat.zero_le 1
  agree _ _ stored := by rw [durable] at stored; cases stored

/-- A row that takes a sound intent holds it. -/
theorem intentDurable_of_encode (sound : journal.Sound config) (encoded : journal.encode = .ok line)
    (phase : journal.phase = .promoting newEpoch) : IntentDurable config (some line) newEpoch := by
  have members : journal.members ≠ [] := by
    rw [sound.1.1]
    intro empty
    have count := config.memberCount
    rw [empty] at count
    cases count
  exact ⟨line, journal, rfl,
    decode_encode encoded members sound.2, sound.1, phase⟩

section

variable (kept : IntentKept config executor queue row) (stored : executor.journal = some journal)
  (encoded : journal.encode = .ok line)

include kept stored encoded

theorem written : IntentKept config executor queue (some line) := by
  refine { kept with agree := fun durable newEpoch durableStored phase may => ?_ }
  obtain ⟨inMemory, _⟩ := kept.agree durable newEpoch durableStored phase may
  refine ⟨inMemory, ?_⟩
  obtain ⟨current, same, promoting⟩ := inMemory
  rw [stored] at same
  cases same
  exact intentDurable_of_encode (kept.journalSound journal stored) encoded promoting

/-- The save is acknowledged, so the durable copy follows. -/
theorem acknowledged :
    IntentKept config { executor with durableJournal := executor.journal } queue (some line) := by
  refine { kept with
    unread := fun absent => ?_, durableSound := kept.journalSound
    agree := fun durable newEpoch durableStored phase _ =>
      ⟨⟨durable, durableStored, phase⟩, ?_⟩ }
  · obtain ⟨empty, missing, _⟩ := kept.unread absent
    exact ⟨empty, missing, missing⟩
  · rw [stored] at durableStored
    cases durableStored
    exact intentDurable_of_encode (kept.journalSound journal stored) encoded phase

end

theorem onDurableIntent_of_none (none : promotionEpoch event = none) :
    onDurableIntent config row event := by
  intro newEpoch promoted
  rw [none] at promoted
  cases promoted

section

variable (kept : IntentKept config executor queue row)

include kept

/-- Saving keeps the invariant; a confirmed save makes the journal the durable
copy. -/
theorem save :
    Program.Safe rowMonitor (onDurableIntent config)
      (fun result final => IntentKept config result.1 queue final ∧
        result.1.journal = executor.journal ∧
        (result.2 = true → result.1.durableJournal = executor.journal))
      executor.saveJournal row := by
  unfold FailoverExecutor.saveJournal
  split
  · exact ⟨kept, rfl, nofun⟩
  case h_2 journal stored =>
    split
    · exact ⟨kept, rfl, nofun⟩
    case h_2 line encoded =>
      intro answer _
      refine ⟨onDurableIntent_of_none rfl, ?_⟩
      match answer with
      | .saved => exact ⟨kept.acknowledged stored encoded, rfl, fun _ => rfl⟩
      | .failed true => exact ⟨kept.written stored encoded, rfl, nofun⟩
      | .failed false => exact ⟨kept, rfl, nofun⟩

theorem buildJournal_sound (phase : RestorablePhase)
    (positive : phase.EpochPositive) : (executor.buildJournal phase).Sound config := by
  refine ⟨?_, positive⟩
  rw [← kept.configured]
  exact ⟨rfl, rfl, rfl⟩

/-- A new journal keeps the invariant if no durable intent may still be
promoted. -/
theorem setJournal (journal : ControllerJournal)
    (read : executor.controller ≠ none) (sound : journal.Sound config)
    (superseded : ∀ durable newEpoch, executor.durableJournal = some durable →
      durable.phase = .promoting newEpoch → ¬ executor.MayPromote queue newEpoch) :
    IntentKept config { executor with journal := some journal } queue row := by
  refine { kept with
    unread := fun absent => absurd absent read, journalSound := ?_
    agree := fun durable newEpoch stored phase may =>
      absurd may (superseded durable newEpoch stored phase) }
  rintro other ⟨⟩
  exact sound

end

/-- Journaling the fence never replaces an intent. -/
theorem advanceJournalFence (kept : IntentKept config executor (before ++ action :: later) row) :
    IntentKept config executor.advanceJournalFence (before ++ action :: later) row := by
  rcases executor.advanceJournalFence_cases with same | ⟨replaced, steady⟩
  · rw [same]
    exact kept
  · rw [replaced]
    refine kept.setJournal _ kept.read_of_queue (kept.buildJournal_sound _ trivial) ?_
    intro durable newEpoch durableStored phase may
    obtain ⟨⟨current, stored, promoting⟩, _⟩ := kept.agree durable newEpoch durableStored phase may
    rw [steady current stored] at promoting
    cases promoting

/-- With its promotion out of the queue, no durable intent may be promoted. -/
theorem not_mayPromote_around (kept : IntentKept config executor
      (before ++ .promote siteId newEpoch :: later) row) :
    ¬ executor.MayPromote (before ++ later) otherEpoch := by
  rintro (⟨otherSite, member⟩ | undecided)
  · exact no_promote_around kept.single otherSite otherEpoch member
  · exact undecided (kept.decided siteId newEpoch (by simp)).1

section

variable (kept : IntentKept config executor (before ++ .promote siteId newEpoch :: later) row)

include kept

theorem advanceJournalPromoted :
    IntentKept config (executor.advanceJournalPromoted newEpoch) (before ++ later) row := by
  have positive : newEpoch ≠ 0 := (kept.decided siteId newEpoch (by simp)).2
  rcases executor.advanceJournalPromoted_cases newEpoch with
    same | ⟨journal, replaced, phase, source⟩
  · rw [same]
    exact kept.forget
  · rw [replaced]
    refine kept.forget.setJournal journal kept.read_of_queue ?_
      fun _ _ _ _ => kept.not_mayPromote_around
    rcases source with built | ⟨old, stored, updated⟩
    · rw [built]
      exact kept.buildJournal_sound _ positive
    · rw [updated]
      exact ⟨(kept.journalSound old stored).1, positive⟩

theorem intend
    (missing : executor.intentAlreadyDurable newEpoch = false) : IntentKept config { executor with
        journal := some (executor.buildJournal (.promoting newEpoch)) }
      (before ++ .promote siteId newEpoch :: later) row := by
  obtain ⟨promoted, positive⟩ := kept.decided siteId newEpoch (by simp)
  refine kept.setJournal _ kept.read_of_queue (kept.buildJournal_sound _ positive) ?_
  rintro durable otherEpoch stored phase (⟨otherSite, member⟩ | undecided)
  · obtain rfl := promote_unique kept.single member
    unfold FailoverExecutor.intentAlreadyDurable at missing
    rw [stored] at missing
    exact beq_eq_false_iff_ne.mp missing phase
  · exact undecided promoted

theorem secure : Program.Safe rowMonitor (onDurableIntent config) (fun result final =>
        IntentKept config result.1 (before ++ .promote siteId newEpoch :: later) final ∧
          (result.2.2 = true → IntentDurable config final newEpoch))
      (executor.secureIntent newEpoch) row := by
  have may : ∀ current : FailoverExecutor, current.MayPromote
      (before ++ .promote siteId newEpoch :: later) newEpoch :=
    fun _ => .inl ⟨siteId, by simp⟩
  unfold FailoverExecutor.secureIntent
  cases already : executor.intentAlreadyDurable newEpoch with
  | true =>
    refine ⟨kept, fun _ => ?_⟩
    unfold FailoverExecutor.intentAlreadyDurable at already
    cases stored : executor.durableJournal with
    | none => rw [stored] at already; cases already
    | some durable =>
      rw [stored] at already
      exact (kept.agree durable newEpoch stored (eq_of_beq already) (may executor)).2
  | false =>
    simp only [Bool.false_eq_true, if_false]
    refine (kept.intend already).save.bind ?_
    rintro ⟨current, saved⟩ final ⟨after, _, durable⟩
    refine ⟨after, fun confirmed => ?_⟩
    exact (after.agree _ newEpoch (durable confirmed) rfl (may current)).2

end

end IntentKept

/-- Calls that neither save the controller state nor promote. -/
def PortOp.LeavesRow : PortOp → Prop
  | .saveControllerState _ => False
  | .promoteStandby _ _ _ => False
  | _ => True

theorem leavesRow_step (row : Option Text)
    (answer : op.Answer) (leaves : op.LeavesRow) : onDurableIntent config row ⟨op, answer⟩ ∧
      rowMonitor.next row ⟨op, answer⟩ = row := by
  refine ⟨IntentKept.onDurableIntent_of_none ?_, ?_⟩ <;> cases op <;> first | rfl | cases leaves

theorem Program.Uses.leavesRow {α : Type} {post : α → Prop}
    {program : Program port α} (uses : Program.Uses allowed post program) (config : FailoverConfig)
    (row : Option Text)
    (leaves : ∀ op, allowed op → op.LeavesRow := by intro op isAllowed; cases op <;> trivial) :
    Program.Safe rowMonitor (onDurableIntent config)
      (fun value final => post value ∧ final = row) program row :=
  uses.safe row fun op answer isAllowed _ =>
    leavesRow_step config row answer (leaves op isAllowed)

namespace IntentKept

variable {config : FailoverConfig}

theorem attemptFence (kept : IntentKept config executor (before ++ .fence siteId :: later) row) :
    SafeAttempt rowMonitor (onDurableIntent config) (IntentKept config) before (.fence siteId) later
      (executor.attemptFence siteId) row := by
  have save : ∀ application : Application, SafeAttempt rowMonitor (onDurableIntent config)
      (IntentKept config) before (.fence siteId) later
      (executor.advanceJournalFence.saveJournal >>= fun result =>
        pure ⟨result.1, result.2, .applied application⟩) row := by
    intro application
    exact kept.advanceJournalFence.save.bind fun _ _ after => after.1.forget
  unfold FailoverExecutor.attemptFence
  split
  · exact kept
  · intro answer _
    refine ⟨onDurableIntent_of_none rfl, ?_⟩
    match answer with
    | some .fenced => exact save _
    | some .alreadyFenced => exact save _
    | some .siteRowMissing => exact kept
    | none => exact kept

theorem completePromotion (kept : IntentKept config executor
      (before ++ .promote siteId newEpoch :: later) row)
    (journalSaved : Bool) (outcome : PromoteOutcome) :
    SafeAttempt rowMonitor (onDurableIntent config) (IntentKept config) before
      (.promote siteId newEpoch) later
      (executor.completePromotion siteId newEpoch journalSaved outcome) row := by
  have known := kept.bookkeeping executor.status newEpoch executor.pending
  unfold FailoverExecutor.completePromotion
  refine (Program.Uses.leavesRow (FailoverExecutor.witnessPromotion_uses newEpoch) config
    row).bind ?_
  rintro witnessed final ⟨_, rfl⟩
  split
  · exact known.advanceJournalPromoted.save.bind fun _ _ after => after.1
  · exact known

theorem attemptPromote (kept : IntentKept config executor
      (before ++ .promote siteId newEpoch :: later) row) :
    SafeAttempt rowMonitor (onDurableIntent config) (IntentKept config) before
      (.promote siteId newEpoch) later (executor.attemptPromote siteId newEpoch) row := by
  refine attemptPromote_safe (fun _ final => IntentDurable config final newEpoch)
    (fun _ final => IntentDurable config final newEpoch)
    executor siteId newEpoch before later _ rfl row kept kept.secure ?_ ?_ ?_ ?_
  · intro intended final rest durable
    refine (Program.Uses.leavesRow (intended.confirmHostFence_uses newEpoch) config final).mono ?_
    rintro confirmed last ⟨_, rfl⟩
    exact ⟨rest, fun _ => durable⟩
  · intro intended final rest durable
    refine (Program.Uses.leavesRow (intended.anchorAllows_uses newEpoch) config final).mono ?_
    rintro allowed last ⟨_, rfl⟩
    exact ⟨rest, durable⟩
  · intro intended final fencedSite answer _ durable
    refine ⟨?_, rfl⟩
    intro epoch promoted
    cases promoted
    exact durable
  · intro intended final journalSaved outcome rest _
    exact rest.completePromotion journalSaved outcome

/-! ## Loading, deciding and reconciling -/

theorem resume (kept : IntentKept config executor executor.pending row)
    (absent : executor.controller = none) (epoch : U64) : IntentKept config (executor.resume epoch
        (FailoverExecutor.loadedJournal executor.config row))
      executor.pending row := by
  have empty := (kept.unread absent).1
  have loaded : ∀ journal, FailoverExecutor.loadedJournal executor.config row = some journal →
      journal.Sound config ∧ ∃ line, row = some line ∧
        decode line = .ok journal := by
    intro journal found
    obtain ⟨line, stored, decoded⟩ := Option.bind_eq_some_iff.mp found
    split at decoded
    · cases decoded
    case h_2 read parsed =>
      split at decoded
      case isTrue belongs =>
        cases decoded
        rw [kept.configured] at belongs
        exact ⟨⟨belongs, (decode_eq_ok parsed).2.2.2.2⟩, line, stored, parsed⟩
      case isFalse => cases decoded
  rw [empty]
  exact {
    configured := kept.configured, unread := nofun
    journalSound := fun journal found => (loaded journal found).1
    durableSound := fun journal found => (loaded journal found).1
    decided := nofun, single := Nat.zero_le 1
    agree := by
      intro durable newEpoch found phase _
      obtain ⟨sound, line, stored, parsed⟩ := loaded durable found
      exact ⟨⟨durable, found, phase⟩, line, durable, stored, parsed, sound.1,
        phase⟩ }

section

variable (kept : IntentKept config executor queue row)
  (present : executor.controller = some controller)

include kept present

/-- A new controller keeps the invariant if it never takes a promotion back and
its decision queues at most one, when none was decided before. -/
theorem setController (next : FailoverController)
    (actions : List PendingAction) (keeps : controller.phase.IsPromoted → next.phase.IsPromoted)
    (queued : ∀ siteId newEpoch, promote siteId newEpoch ∈ actions →
      ¬ controller.phase.IsPromoted ∧ next.phase.IsPromoted ∧ newEpoch ≠ 0)
    (one : actions.countP isPromote ≤ 1) :
    IntentKept config { executor with controller := some next } (queue ++ actions) row := by
  have hasPromoted : executor.HasPromoted ↔ controller.phase.IsPromoted := by
    constructor
    · rintro ⟨other, same, promoted⟩
      rw [present] at same
      cases same
      exact promoted
    · intro promoted
      exact ⟨controller, present, promoted⟩
  have becomes : ∀ promoted : next.phase.IsPromoted,
      FailoverExecutor.HasPromoted { executor with controller := some next } :=
    fun promoted => ⟨next, rfl, promoted⟩
  exact {
    configured := kept.configured, unread := nofun, journalSound := kept.journalSound
    durableSound := kept.durableSound
    decided := by
      intro siteId newEpoch member
      rw [mem_append] at member
      rcases member with old | fresh
      · obtain ⟨promoted, positive⟩ := kept.decided siteId newEpoch old
        exact ⟨becomes (keeps (hasPromoted.mp promoted)), positive⟩
      · obtain ⟨_, promoted, positive⟩ := queued siteId newEpoch fresh
        exact ⟨becomes promoted, positive⟩
    single := by
      rw [countP_append]
      by_cases fresh : actions.countP isPromote = 0
      · rw [fresh]
        exact kept.single
      · obtain ⟨action, member, promotes⟩ :=
          countP_pos_iff.mp (Nat.pos_of_ne_zero fresh)
        cases action with
        | fence siteId => cases promotes
        | promote siteId newEpoch =>
          have undecided := (queued siteId newEpoch member).1
          have none : queue.countP isPromote = 0 := by
            rw [countP_eq_zero]
            intro other listed isPromote
            cases other with
            | fence otherSite => cases isPromote
            | promote otherSite otherEpoch =>
              exact undecided (hasPromoted.mp
                (kept.decided otherSite otherEpoch listed).1)
          rw [none, Nat.zero_add]
          exact one
    agree := by
      intro durable newEpoch stored phase may
      refine kept.agree durable newEpoch stored phase ?_
      rcases may with ⟨siteId, member⟩ | undecided
      · rw [mem_append] at member
        rcases member with old | fresh
        · exact .inl ⟨siteId, old⟩
        · refine .inr fun promoted => ?_
          exact (queued siteId newEpoch fresh).1 (hasPromoted.mp promoted)
      · refine .inr fun promoted => undecided ?_
        exact becomes (keeps (hasPromoted.mp promoted)) }

theorem observe (round : Round) (nowMs : U64) :
    IntentKept config { executor with controller := some (controller.observe round nowMs).1 }
      (queue ++ (controller.observe round nowMs).2.actions) row := by
  have move := controller.observe_transition ⟨round, nowMs⟩
  unfold FailoverController.Moves at move
  refine kept.setController present _ _ (fun promoted => (move.keepsPromoted promoted).1) ?_ ?_
  · intro siteId newEpoch member
    cases decision : (controller.observe round nowMs).2 with
    | promoteStandby otherSite otherEpoch =>
      rw [decision] at member move
      cases mem_singleton.mp member
      obtain ⟨fencing, promoted, positive⟩ := move.promotes
      refine ⟨?_, promoted, positive⟩
      rw [fencing]
      exact nofun
    | fenceOldWriter otherSite =>
      rw [decision] at member
      cases mem_singleton.mp member
    | _ =>
      rw [decision] at member
      cases member
  · exact countP_le_length.trans (Decision.actions_length_le _)

theorem reconcile : IntentKept config
      { executor with controller := some controller.reconcileComplete.1 } queue row := by
  have same := kept.setController present controller.reconcileComplete.1 [] ?_ nofun (Nat.zero_le 1)
  · rw [append_nil] at same
    exact same
  · intro promoted
    rcases controller.reconcileComplete_cases with
      unchanged | ⟨_, _, _, _, _, updated⟩
    · rw [unchanged]
      exact promoted
    · rw [updated]
      trivial

end

theorem flags (kept : IntentKept config executor queue row)
    (stored : executor.journal = some journal)
    (phase : journal.phase = .promoted newEpoch reconciled rejoinEmitted)
    (reconciledNow rejoinEmittedNow : Bool) : IntentKept config { executor with
      journal := some { journal with
        phase := .promoted newEpoch reconciledNow rejoinEmittedNow } }
      queue row := by
  have sound := kept.journalSound journal stored
  refine kept.setJournal _ ?_ ⟨sound.1, ?_⟩ ?_
  · intro absent
    rw [(kept.unread absent).2.1] at stored
    cases stored
  · have positive := sound.2
    rw [phase] at positive
    exact positive
  · intro durable otherEpoch durableStored promoting may
    obtain ⟨⟨current, same, inMemory⟩, _⟩ :=
      kept.agree durable otherEpoch durableStored promoting may
    rw [stored] at same
    cases same
    rw [phase] at inMemory
    cases inMemory

end IntentKept

theorem intentKept_upholds : Upholds rowMonitor (onDurableIntent config) (IntentKept config) := by
  have read : KeepsReads rowMonitor (onDurableIntent config) (IntentKept config) := by
    intro executor queue row op answer isRead kept _
    have leaves : op.LeavesRow := by cases op <;> trivial
    obtain ⟨checked, same⟩ := leavesRow_step config row answer leaves
    rw [same]
    exact ⟨checked, kept⟩
  have bookkeeping : KeepsBookkeeping (IntentKept config) := fun _ _ _ status epoch pending kept =>
      kept.bookkeeping status epoch pending
  have load : KeepsLoad rowMonitor (onDurableIntent config) (IntentKept config)
      fun _ _ => True := by
    intro executor row epoch answer kept absent _ admitted
    refine ⟨IntentKept.onDurableIntent_of_none rfl, kept, ?_⟩
    rintro encoded rfl _
    have loaded : encoded = row := admitted
    rw [loaded]
    exact kept.resume absent epoch
  exact {
    read := read, bookkeeping := bookkeeping
    forget := fun _ _ _ _ _ kept => kept.forget
    discard := fun _ _ _ kept => .blank kept.configured rfl rfl
    restore := load.restore read bookkeeping fun _ _ _ _ => trivial
    attempt := by
      intro executor before action later row kept
      cases action with
      | fence siteId => exact kept.attemptFence
      | promote siteId newEpoch => exact kept.attemptPromote
    exclusivity := fun _ _ _ _ kept _ =>
      ⟨IntentKept.onDurableIntent_of_none rfl, kept⟩
    observe := fun _ _ _ _ round nowMs kept present _ =>
      ⟨IntentKept.onDurableIntent_of_none rfl,
        kept.observe present round nowMs⟩
    reconcile := fun _ _ _ _ kept present => kept.reconcile present
    flags := by
      intro executor queue row journal newEpoch reconciled rejoinEmitted
        reconciledNow rejoinEmittedNow kept stored phase
      refine (kept.flags stored phase reconciledNow
        rejoinEmittedNow).save.mono ?_
      rintro result final ⟨after, _⟩
      exact after }

/-- Write-ahead intent: in every run of the executor, across failed and lost
saves, crashes and restarts, each promotion is called while the last controller
state that the authority durably saved is a journal of this configuration in the
phase of promoting under that very epoch. -/
theorem promotions_on_durable_intent (config : FailoverConfig) (initial : Option Text)
    (before later : List (Event port)) (event : Event port) (executor : FailoverExecutor)
    (run : (executorMachine config).Run (before ++ event :: later) executor)
    (loads : rowMonitor.Admits initial (before ++ event :: later)) (newEpoch : U64)
    (promotes : promotionEpoch event = some newEpoch) :
    IntentDurable config (rowMonitor.after initial before) newEpoch := by
  have along := ((intentKept_upholds config).run_along
    (fun _ _ => .blank rfl rfl rfl) run initial loads).1
  exact along.at_split newEpoch promotes

/-- The ports of a failover in which the first save of the intent fails. -/
def lostIntentPorts : MemoryPorts :=
  { outagePorts [readyCheck 103] with
    authority := { drillAuthority with failSaveAfter := some 1 } }

/-- The promotion follows the retry of the save. -/
theorem promotions_on_durable_intent_drill :
    ∃ before later, (drill lostIntentPorts promotionMoves).trace = before ++
          ⟨.promoteStandby "east".toList "west".toList 8, some .promoted⟩ :: later ∧
      IntentDurable drillConfig (rowMonitor.after none before) 8 := by
  have promoted : (⟨.promoteStandby "east".toList "west".toList 8, some .promoted⟩ : Event port) ∈
        (drill lostIntentPorts promotionMoves).trace := by
    decide +kernel
  obtain ⟨before, later, split⟩ := append_of_mem promoted
  have run := drill_run lostIntentPorts promotionMoves (ticks_made _)
  have loads : rowMonitor.Admits none (drill lostIntentPorts promotionMoves).trace :=
    MemoryPorts.simulation_admits_row _ lostIntentPorts _ _
  rw [split] at run loads
  exact ⟨before, later, split, promotions_on_durable_intent drillConfig none
    before later _ _ run loads 8 rfl⟩

end Zrotext.Failover
