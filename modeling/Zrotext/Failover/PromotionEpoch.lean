import Zrotext.Failover.Contract
import Zrotext.Failover.ExecutorRule
import Zrotext.Failover.History

/-!
# One promotion epoch

Promotion epochs are derived again after every restart, so different epochs can
be decided.  Only one of them ever reaches the authority: a promotion is called
after the external authority has confirmed the old writer's host under the
token of its epoch, and a fenced host is never fenced again under another token.
-/

namespace Zrotext.Failover

open Foundation

/-- The epoch of a promotion call. -/
def promotionEpoch : Event port → Option U64
  | ⟨.promoteStandby _ _ newEpoch, _⟩ => some newEpoch
  | _ => none

/-- Observer of the token that a host has been confirmed under. -/
def tokenMonitor (host : Text) : Monitor port (Option FenceToken) where
  admits known event := ∀ token, confirmedToken host event = some token →
      known = none ∨ known = some token
  next known event := (confirmedToken host event).or known

/-- A promotion is called only under the confirmed token of its epoch. -/
def underToken (known : Option FenceToken) (event : Event port) : Prop :=
  ∀ newEpoch, promotionEpoch event = some newEpoch → known = some (.forPromotion newEpoch)

theorem underToken_of_none (none : promotionEpoch event = none)
    (known : Option FenceToken) : underToken known event := by
  intro newEpoch promoted
  rw [none] at promoted
  cases promoted

/-- An event that neither confirms a fence nor promotes. -/
def TokenFree (host : Text) (event : Event port) : Prop :=
  confirmedToken host event = none ∧ promotionEpoch event = none

theorem tokenFree_step (free : TokenFree host event) (known : Option FenceToken) :
    underToken known event ∧ (tokenMonitor host).next known event = known := by
  constructor
  · exact underToken_of_none free.2 known
  · change (confirmedToken host event).or known = known
    rw [free.1]
    rfl

/-- Calls that are no concern of the observer of tokens. -/
theorem Program.Uses.tokenFree {α : Type} {post : α → Prop} {program : Program port α}
    (uses : Program.Uses allowed post program) (host : Text) (known : Option FenceToken)
    (free : ∀ (op : PortOp) (answer : op.Answer), allowed op → TokenFree host ⟨op, answer⟩ := by
      intro op answer isAllowed
      cases op <;> first | exact ⟨rfl, rfl⟩ | (cases isAllowed <;> contradiction)) :
    Program.Safe (tokenMonitor host) underToken
      (fun value final => post value ∧ final = known) program known :=
  uses.safe known fun op answer isAllowed _ => tokenFree_step (free op answer isAllowed) known

/-- The invariant of the executor: it keeps its configuration. -/
def Configured {γ : Type} (config : FailoverConfig) : QueueInvariant γ :=
  fun executor _ _ => executor.config = config

variable (executor : FailoverExecutor)

theorem FailoverExecutor.confirmHostFence_token (newEpoch : U64) (known : Option FenceToken) :
    Program.Safe (tokenMonitor executor.config.writerSiteId) underToken (fun confirmed final =>
        confirmed = true → final = some (.forPromotion newEpoch))
      (executor.confirmHostFence newEpoch) known := by
  have named : ∀ token : FenceToken, (token == FenceToken.forPromotion newEpoch) →
      some token = some (FenceToken.forPromotion newEpoch) :=
    fun token same => congrArg some (eq_of_beq same)
  intro status _
  refine ⟨underToken_of_none rfl _, ?_⟩
  cases status with
  | unconfirmed => exact nofun
  | fenced token =>
    intro same
    change (confirmedToken _ _).or known = _
    simp only [confirmedToken, if_true]
    exact named token same
  | unfenced =>
    intro outcome _
    refine ⟨underToken_of_none rfl _, ?_⟩
    cases outcome with
    | refusedCompetingFence | refusedUnconfirmed => exact nofun
    | fenced token | alreadyFenced token =>
      intro same
      change (confirmedToken _ _).or _ = _
      simp only [confirmedToken, if_true]
      exact named token same

theorem attemptFence_configured
    (siteId : Text) (known : Option FenceToken) (configured : executor.config = config) :
    Program.Safe (tokenMonitor config.writerSiteId) underToken
      (fun attempted _ => attempted.executor.config = config)
      (executor.attemptFence siteId) known := by
  refine (Program.Uses.tokenFree (executor.attemptFence_uses siteId) _ known).mono ?_
  rintro attempted final ⟨same, _⟩
  exact same.config.trans configured

theorem attemptPromote_configured
    (siteId : Text) (newEpoch : U64) (before later : List PendingAction) (known : Option FenceToken)
    (configured : executor.config = config) :
    SafeAttempt (tokenMonitor config.writerSiteId) underToken (Configured config) before
      (.promote siteId newEpoch) later (executor.attemptPromote siteId newEpoch) known := by
  have keepsConfig : ∀ current : FailoverExecutor,
      FailoverExecutor.SameCore executor current → current.config = config :=
    fun current same => same.config.trans configured
  refine attemptPromote_safe (fun _ _ => True)
    (fun _ final => final = some (.forPromotion newEpoch))
    executor siteId newEpoch before later _ rfl known configured ?_ ?_ ?_ ?_ ?_
  · refine (Program.Uses.tokenFree (executor.secureIntent_uses newEpoch) _ known).mono ?_
    rintro result final ⟨same, _⟩
    exact ⟨keepsConfig result.1 same, fun _ => trivial⟩
  · intro intended final rest _
    have confirm := intended.confirmHostFence_token newEpoch final
    rw [rest] at confirm
    exact confirm.mono fun confirmed last known => ⟨rest, known⟩
  · intro intended final rest isReady
    refine (Program.Uses.tokenFree (intended.anchorAllows_uses newEpoch) _ final).mono ?_
    rintro allowed last ⟨_, rfl⟩
    exact ⟨rest, isReady⟩
  · intro intended final fencedSite answer _ isReady
    refine ⟨?_, rfl⟩
    intro epoch promoted
    cases promoted
    exact isReady
  · intro intended final journalSaved outcome rest _
    refine (Program.Uses.tokenFree (intended.completePromotion_uses siteId
      newEpoch journalSaved outcome) _ final).mono ?_
    rintro attempted last ⟨same, _⟩
    exact same.config.trans rest

/-- The executor calls promotions only under their confirmed token. -/
theorem configured_upholds (config : FailoverConfig) :
    Upholds (tokenMonitor config.writerSiteId) underToken (Configured config) := by
  have read : KeepsReads (tokenMonitor config.writerSiteId) underToken (Configured config) := by
    intro executor queue known op answer isRead configured _
    refine ⟨underToken_of_none ?_ known, configured⟩
    cases op <;> first | rfl | cases isRead
  have load : KeepsLoad (tokenMonitor config.writerSiteId) underToken (Configured config)
      fun _ _ => True := by
    intro executor known epoch answer configured _ _ _
    exact ⟨underToken_of_none rfl known, configured, fun encoded _ _ => configured⟩
  exact {
    read := read
    bookkeeping := fun _ _ _ _ _ _ configured => configured
    forget := fun _ _ _ _ _ configured => configured
    discard := fun _ _ _ configured => configured
    restore := load.restore read (fun _ _ _ _ _ _ configured => configured)
      fun _ _ _ _ => trivial
    attempt := by
      intro executor before action later known configured
      cases action with
      | fence siteId =>
        exact attemptFence_configured executor siteId known configured
      | promote siteId newEpoch =>
        exact attemptPromote_configured executor siteId newEpoch
          before later known configured
    exclusivity := fun _ _ known _ configured _ =>
      ⟨underToken_of_none rfl known, configured⟩
    observe := fun _ _ known _ _ _ configured _ _ =>
      ⟨underToken_of_none rfl known, configured⟩
    reconcile := fun _ _ _ _ configured _ => configured
    flags := by
      intro executor queue known journal newEpoch _ _ reconciled rejoinEmitted
        configured _ _
      refine (Program.Uses.tokenFree (FailoverExecutor.saveJournal_uses _) _ known).mono ?_
      rintro result final ⟨same, _⟩
      exact same.config.trans configured }

/-- From any point of a run whose known token is the holder of an earlier
moment, the contract admits the rest of the run. -/
theorem along_of_holder (holder : Nat → Text → Option FenceToken)
    (stable : ∀ early late token other, early ≤ late →
      holder early host = some token → holder late host = some other → other = token) (start : Nat)
    (recorded : ∀ token, known = some token →
      ∃ early, early ≤ start ∧ holder early host = some token)
    (confirms : ∀ index event token, rest[index]? = some event →
      confirmedToken host event = some token → holder (start + index) host = some token) :
    (tokenMonitor host).Admits known rest := by
  induction rest generalizing start known with
  | nil => exact trivial
  | cons event rest ih =>
    have now : ∀ token, confirmedToken host event = some token → holder start host = some token :=
      fun token confirmed => confirms 0 event token rfl confirmed
    refine ⟨?_, ?_⟩
    · intro token confirmed
      cases known with
      | none => exact .inl rfl
      | some earlier =>
        obtain ⟨early, order, held⟩ := recorded earlier rfl
        rw [stable early start earlier token order held (now token confirmed)]
        exact .inr rfl
    · apply ih (start + 1)
      · intro token after
        change (confirmedToken host event).or known = some token at after
        cases confirmed : confirmedToken host event with
        | some other =>
          rw [confirmed, Option.some_or] at after
          cases after
          exact ⟨start, Nat.le_succ start, now token confirmed⟩
        | none =>
          rw [confirmed, Option.none_or] at after
          obtain ⟨early, order, held⟩ := recorded token after
          exact ⟨early, Nat.le_succ_of_le order, held⟩
      · intro index later token position confirmed
        rw [Nat.add_assoc, Nat.add_comm 1 index]
        exact confirms (index + 1) later token position confirmed

theorem FenceContract.admits (contract : FenceContract events)
    (host : Text) : (tokenMonitor host).Admits none events := by
  obtain ⟨holder, stable, confirms⟩ := contract
  refine along_of_holder holder (stable host) 0 ?_ ?_
  · intro token impossible
    cases impossible
  · intro index event token position confirmed
    rw [Nat.zero_add]
    exact confirms host index event token position confirmed

theorem tokenMonitor_after_some
    (admitted : (tokenMonitor host).Admits (some token) events) :
    (tokenMonitor host).after (some token) events = some token := by
  induction events with
  | nil => rfl
  | cons event events ih =>
    obtain ⟨first, rest⟩ := admitted
    have same : (tokenMonitor host).next (some token) event = some token := by
      change (confirmedToken host event).or (some token) = some token
      cases confirmed : confirmedToken host event with
      | none => rfl
      | some other =>
        cases first other confirmed with
        | inl impossible => cases impossible
        | inr equal => rw [Option.some_or, equal]
    rw [same] at rest
    rw [Monitor.after_cons, same]
    exact ih rest

theorem promotion_token
    (admitted : (tokenMonitor host).Admits none events)
    (along : (tokenMonitor host).Along underToken none events)
    (member : event ∈ events) (promoted : promotionEpoch event = some newEpoch) :
    (tokenMonitor host).after none events = some (.forPromotion newEpoch) := by
  obtain ⟨before, later, rfl⟩ := List.append_of_mem member
  have known := along.at_split newEpoch promoted
  have rest := ((Monitor.along_append _ _ none before _).mp admitted).2
  rw [known] at rest
  rw [Monitor.after_append, known]
  exact tokenMonitor_after_some rest

/-- At most one promotion epoch: in every run of the executor, across crashes
and restarts and whatever the ports answer, all promotions that are ever called
carry the same epoch, provided the external fence authority keeps its
contract. -/
theorem promotions_share_one_epoch (config : FailoverConfig) (events : List (Event port))
    (executor : FailoverExecutor) (run : (executorMachine config).Run events executor)
    (contract : FenceContract events) (first second : Event port) (firstMember : first ∈ events)
    (secondMember : second ∈ events) (firstEpoch secondEpoch : U64)
    (firstPromotes : promotionEpoch first = some firstEpoch)
    (secondPromotes : promotionEpoch second = some secondEpoch) : firstEpoch = secondEpoch := by
  have admitted := contract.admits config.writerSiteId
  have along := ((configured_upholds config).run_along (fun _ _ => rfl) run none admitted).1
  have early := promotion_token admitted along firstMember firstPromotes
  have late := promotion_token admitted along secondMember secondPromotes
  rw [early] at late
  cases late
  rfl

/-- The authority of a drill: two serving sites at epoch 7. -/
def drillAuthority : MemoryAuthority where
  epoch := 7
  sites site :=
    if site = "west".toList ∨ site = "east".toList then some ⟨true, false⟩
    else none

/-- The ports of a drill in which the writer fails at the second check. -/
def outagePorts (later : List Check) : MemoryPorts where
  queued := ([reachableCheck 100 7, unreachableCheck 101, unreachableCheck 102] ++ later).map
    Check.round
  authority := drillAuthority

/-- The next promotion is lost on its way to the authority. -/
def failNextPromotion (ports : MemoryPorts) : MemoryPorts :=
  { ports with authority := { ports.authority with failPromote := true } }

/-- A move of a drill. -/
abbrev DrillMove : Type := Machine.Move FailoverExecutor ExecutorInput

/-- A drill after some moves. -/
abbrev Drill : Type := Machine.Simulation port FailoverExecutor MemoryPorts

/-- A drill of the executor against in-memory ports. -/
def drill (ports : MemoryPorts) (moves : List DrillMove) : Drill :=
  MemoryPorts.simulation (executorMachine drillConfig) ports (.new drillConfig false) moves

/-- One tick of a drill. -/
def drillTick (nowMs : U64) : DrillMove := .input (.tick nowMs)

/-- A restart in a drill. -/
def drillRestart : DrillMove := .restart (.new drillConfig false)

/-- The drill goes on after something changed in its environment. -/
def continueDrill (simulation : Drill) (change : MemoryPorts → MemoryPorts)
    (moves : List DrillMove) : Drill :=
  (executorMachine drillConfig).simulate MemoryPorts.handler
    { simulation with environment := change simulation.environment } moves

/-- A drill is made of ticks and restarts. -/
def DrillMoves (moves : List DrillMove) : Prop :=
  ∀ move ∈ moves, move = drillRestart ∨ ∃ nowMs, move = drillTick nowMs

theorem DrillMoves.fresh (made : DrillMoves moves) :
    (executorMachine drillConfig).FreshMoves moves := by
  intro restarted member
  cases made _ member with
  | inl restart =>
    cases restart
    exact ⟨false, rfl⟩
  | inr tick =>
    obtain ⟨nowMs, impossible⟩ := tick
    cases impossible

theorem drill_run (ports : MemoryPorts) (moves : List DrillMove) (made : DrillMoves moves) :
    (executorMachine drillConfig).Run (drill ports moves).trace (drill ports moves).state :=
  MemoryPorts.simulation_run _ ports _ moves (.tick 0) ⟨false, rfl⟩ made.fresh

theorem continueDrill_run (simulation : Drill) (change : MemoryPorts → MemoryPorts)
    (moves : List DrillMove) (made : DrillMoves moves)
    (run : (executorMachine drillConfig).Run simulation.trace simulation.state) :
    (executorMachine drillConfig).Run (continueDrill simulation change moves).trace
      (continueDrill simulation change moves).state :=
  Machine.run_simulate _ MemoryPorts.handler
    { simulation with environment := change simulation.environment } moves
    made.fresh (.tick 0) run

theorem ticks_made (times : List U64) : DrillMoves (times.map drillTick) := by
  intro move member
  obtain ⟨nowMs, _, rfl⟩ := List.mem_map.mp member
  exact .inr ⟨nowMs, rfl⟩

theorem drillMoves_restart (early late : List U64) :
    DrillMoves (early.map drillTick ++ drillRestart :: late.map drillTick) := by
  unfold DrillMoves
  rw [List.forall_mem_append, List.forall_mem_cons]
  exact ⟨ticks_made early, .inl rfl, ticks_made late⟩

/-- The ports of a failover whose first promotion is lost on the way. -/
def lostPromotionPorts : MemoryPorts := failNextPromotion (outagePorts [readyCheck 103])

/-- The ticks of a failover and one retry. -/
def promotionMoves : List DrillMove :=
  [100, 101, 102, 103, 104].map drillTick

/-- The lost promotion and its retry name the same epoch. -/
theorem promotions_share_one_epoch_drill :
    let trace := (drill lostPromotionPorts promotionMoves).trace
    ∃ lost applied, lost ∈ trace ∧ applied ∈ trace ∧ lost ≠ applied ∧ promotionEpoch lost = some 8 ∧
      ∀ newEpoch, promotionEpoch applied = some newEpoch → 8 = newEpoch := by
  have lost : (⟨.promoteStandby "east".toList "west".toList 8, none⟩ :
      Event port) ∈ (drill lostPromotionPorts promotionMoves).trace := by
    decide +kernel
  have applied : (⟨.promoteStandby "east".toList "west".toList 8, some .promoted⟩ : Event port) ∈
        (drill lostPromotionPorts promotionMoves).trace := by
    decide +kernel
  refine ⟨_, _, lost, applied, by decide, rfl, fun newEpoch promotes => ?_⟩
  exact promotions_share_one_epoch drillConfig _ _
    (drill_run lostPromotionPorts promotionMoves (ticks_made _))
    (MemoryPorts.simulation_fenceContract _ _ _ _) _ _ lost applied 8 newEpoch
    rfl promotes

end Zrotext.Failover
