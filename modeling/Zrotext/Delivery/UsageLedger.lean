import Zrotext.Delivery.Run

/-!
# The usage ledger

The counters of a usage period count the rows of the ledger.  A reservation is
refunded at most once, when its message ends before any grant, and such a
message stays as it is.
-/

namespace Zrotext.Delivery

open Domain Foundation List Table

/-! ## The ledger of a message -/

/-- Messages that ended before any grant. -/
def isEnded : MessageState → Bool
  | .cancelled | .expired => true
  | _ => false

theorem isEnded_of_isPending (pending : isPending state) : isEnded state = false := by
  cases state <;> simp_all [isPending, isEnded]

namespace Record

/-- The ledger of a record fits its state. -/
structure Accounted (record : Record) : Prop where
  reserves : record.ledger.countP (·.entryKind == .reserve) ≤ 1
  refunds : record.ledger.countP (·.entryKind == .refund) ≤ 1
  covered : ∀ refund ∈ record.ledger, refund.entryKind = .refund →
    ∃ reserve ∈ record.ledger, reserve.entryKind = .reserve
  ended : ∀ refund ∈ record.ledger, refund.entryKind = .refund →
    isEnded record.message.state = true ∧ record.fence = none

variable {record : Record}

namespace Accounted

/-- Without a refund the record may change in any way that keeps the ledger. -/
theorem carry {next : Record} (accounted : record.Accounted)
    (unrefunded : ∀ entry ∈ record.ledger, entry.entryKind ≠ .refund)
    (sameLedger : next.ledger = record.ledger) : next.Accounted where
  reserves := sameLedger ▸ accounted.reserves
  refunds := sameLedger ▸ accounted.refunds
  covered := sameLedger ▸ accounted.covered
  ended := by
    intro refund present isRefund
    rw [sameLedger] at present
    exact absurd isRefund (unrefunded refund present)

theorem unrefunded_of_state (accounted : record.Accounted)
    (notEnded : isEnded record.message.state = false) :
    ∀ entry ∈ record.ledger, entry.entryKind ≠ .refund := by
  intro entry present isRefund
  have ended := (accounted.ended entry present isRefund).1
  rw [notEnded] at ended
  cases ended

theorem reserve (accounted : record.Accounted) {entry : LedgerEntry}
    (isReserve : entry.entryKind = .reserve) (notEnded : isEnded record.message.state = false)
    (free : ∀ other ∈ record.ledger, other.entryKind ≠ .reserve) :
    Accounted { record with ledger := record.ledger ++ [entry] } := by
  have unrefunded := accounted.unrefunded_of_state notEnded
  have noReserve : record.ledger.countP (·.entryKind == .reserve) = 0 := by
    refine countP_eq_zero.mpr fun other present => ?_
    simpa using free other present
  have noRefund : ∀ other ∈ record.ledger ++ [entry], other.entryKind ≠ .refund := by
    refine forall_mem_concat unrefunded ?_
    rw [isReserve]
    rintro ⟨⟩
  refine ⟨?_, ?_, ?_, ?_⟩
  · rw [countP_append, noReserve]
    simp [isReserve]
  · rw [countP_eq_zero.mpr fun other present => ?_]
    · exact Nat.zero_le 1
    · simpa using noRefund other present
  · exact fun refund present isRefund =>
      absurd isRefund (noRefund refund present)
  · exact fun refund present isRefund =>
      absurd isRefund (noRefund refund present)

end Accounted

theorem mem_pendingRefunds {ledger : List LedgerEntry}
    (present : refund ∈ pendingRefunds selects ledger) :
    refund.entryKind = .refund ∧ ∃ reserve ∈ ledger, reserve.entryKind = .reserve ∧
        refund = { reserve with entryKind := .refund } := by
  obtain ⟨reserve, listed, rfl⟩ := mem_map.mp present
  obtain ⟨stored, chosen⟩ := mem_filter.mp listed
  simp only [Bool.and_eq_true, beq_iff_eq] at chosen
  exact ⟨rfl, reserve, stored, chosen.1.1, rfl⟩

/-- The end of a message refunds its reservation. -/
theorem Accounted.close (accounted : record.Accounted)
    (notEnded : isEnded record.message.state = false) (noFence : record.fence = none)
    {message : Message} (ends : isEnded message.state) (job : DispatchJob) : Accounted
      { record with
        message, job
        ledger := record.ledger ++
          pendingRefunds (fun _ => true) record.ledger } := by
  have unrefunded := accounted.unrefunded_of_state notEnded
  refine ⟨?_, ?_, ?_, ?_⟩
  · have none : (pendingRefunds (fun _ => true) record.ledger).countP
        (·.entryKind == .reserve) = 0 := by
      refine countP_eq_zero.mpr fun refund present => ?_
      simp [(mem_pendingRefunds present).1]
    rw [countP_append, none]
    exact accounted.reserves
  · have none : record.ledger.countP (·.entryKind == .refund) = 0 := by
      refine countP_eq_zero.mpr fun entry present => ?_
      simpa using unrefunded entry present
    have few : (pendingRefunds (fun _ => true) record.ledger).length ≤
        record.ledger.countP (·.entryKind == .reserve) := by
      unfold pendingRefunds
      rw [length_map, ← countP_eq_length_filter]
      refine countP_mono_left fun entry _ chosen => ?_
      simp only [Bool.and_eq_true] at chosen
      exact chosen.1.1
    rw [countP_append, none, Nat.zero_add]
    exact countP_le_length.trans (few.trans accounted.reserves)
  · refine forall_mem_append.mpr ⟨fun refund old isRefund => ?_, fun refund isNew _ => ?_⟩
    · exact absurd isRefund (unrefunded refund old)
    · obtain ⟨_, reserve, stored, isReserve, _⟩ := mem_pendingRefunds isNew
      exact ⟨reserve, mem_append_left _ stored, isReserve⟩
  · exact fun _ _ _ => ⟨ends, noFence⟩

variable {next : Record}

theorem Step.not_ended (coherent : record.Coherent)
    (step : record.Step deployment next) : isEnded record.message.state = false := by
  have fenced : ∀ fence, record.fence = some fence → isEnded record.message.state = false := by
    intro fence isFence
    have outcome := coherent.fenced fence isFence
    generalize record.message.state = state at outcome
    cases state <;> first | rfl | cases outcome
  cases step with
  | reserve _ _ queued => rw [queued]; rfl
  | claim _ pending | close _ _ pending => exact isEnded_of_isPending pending
  | grant _ claimed => rw [claimed]; rfl
  | release reports | follow reports => exact fenced _ reports.fenced
  | silence isFence | timeOut isFence => exact fenced _ isFence

theorem Step.accounted (coherent : record.Coherent) (before : record.Accounted)
    (step : record.Step deployment next) : next.Accounted := by
  have notEnded := step.not_ended coherent
  have unrefunded := before.unrefunded_of_state notEnded
  cases step with
  | reserve isReserve _ _ free => exact before.reserve isReserve notEnded free
  | close isEnd ungranted =>
    refine before.close notEnded (coherent.fence_eq_none ungranted) ?_ _
    rcases isEnd with rfl | rfl <;> rfl
  | claim | grant | release | follow | silence | timeOut =>
    exact before.carry unrefunded rfl

end Record

/-! ## The counters of a period -/

/-- Whether a row of the ledger belongs to a period. -/
def UsagePeriod.counts (period : UsagePeriod) (entry : LedgerEntry) : Bool :=
  entry.accountId == period.accountId && entry.periodStart == period.periodStart

theorem UsagePeriod.counts_iff {period : UsagePeriod} : period.counts entry ↔
    period.accountId = entry.accountId ∧ period.periodStart = entry.periodStart := by
  simp [counts, eq_comm (a := period.accountId), eq_comm (a := period.periodStart)]

/-- The number of rows of one kind that a period has in the ledger. -/
def UsagePeriod.rows (period : UsagePeriod) (kind : EntryKind) (ledger : List LedgerEntry) : Nat :=
  ledger.countP fun entry => period.counts entry && entry.entryKind == kind

/-- The counters of the periods count the rows of the ledger. -/
structure Balanced (periods : List UsagePeriod) (ledger : List LedgerEntry) : Prop where
  reserved : ∀ period ∈ periods, period.reservedUnits = period.rows .reserve ledger
  refunded : ∀ period ∈ periods, period.refundedUnits = period.rows .refund ledger
  covered : ∀ entry ∈ ledger, ∃ period ∈ periods, period.counts entry = true

namespace Balanced

variable {after : List UsagePeriod}

theorem rows_append_of_ne {period : UsagePeriod}
    (unrelated : (period.counts entry && entry.entryKind == kind) = false) :
    period.rows kind (ledger ++ [entry]) = period.rows kind ledger := by
  unfold UsagePeriod.rows
  rw [countP_append, countP_singleton, unrelated]
  rfl

theorem rows_append_of_eq {period : UsagePeriod} (counted : period.counts entry) :
    period.rows entry.entryKind (ledger ++ [entry]) =
      period.rows entry.entryKind ledger + 1 := by
  unfold UsagePeriod.rows
  rw [countP_append, countP_singleton, counted]
  simp

/-- A period with one more unit reserved, or a new one. -/
theorem reservePeriod_cases (reserved : reservePeriod accountId periodStart limit invoiceBound
    periods = some after) :
    ((∀ period ∈ periods, ¬ (period.accountId = accountId ∧ period.periodStart = periodStart)) ∧
      (invoiceBound ∨ 0 < limit) ∧ after = periods ++
        [{ accountId, periodStart, limitUnits := limit
           reservedUnits := 1, refundedUnits := 0 }]) ∨
    ∃ period, periods.find? (fun period => period.accountId == accountId &&
        period.periodStart == periodStart) = some period ∧
      (invoiceBound ∨ period.reservedUnits - period.refundedUnits < period.limitUnits) ∧
      after = Table.update (fun period => period.accountId == accountId &&
          period.periodStart == periodStart)
        (fun period => { period with
          reservedUnits := period.reservedUnits + 1 }) periods := by
  unfold reservePeriod at reserved
  simp only at reserved
  split at reserved
  next absent =>
    split_ifs at reserved with allowed
    cases reserved
    refine .inl ⟨fun period present same => ?_, allowed, rfl⟩
    have other := find?_eq_none.mp absent period present
    simp [same.1, same.2] at other
  next period found =>
    split_ifs at reserved with allowed
    cases reserved
    exact .inr ⟨period, found, allowed, rfl⟩

theorem reserve (balanced : Balanced periods ledger) {entry : LedgerEntry}
    (isReserve : entry.entryKind = .reserve)
    (reserved : reservePeriod entry.accountId entry.periodStart limit
      invoiceBound periods = some after) :
    Balanced after (ledger ++ [entry]) := by
  have others : ∀ period : UsagePeriod,
      period.rows .refund (ledger ++ [entry]) = period.rows .refund ledger :=
    fun period => rows_append_of_ne (by simp [isReserve])
  have own : ∀ period : UsagePeriod, period.counts entry →
      period.rows .reserve (ledger ++ [entry]) = period.rows .reserve ledger + 1 := by
    intro period counted
    rw [← isReserve]
    exact rows_append_of_eq counted
  rcases reservePeriod_cases reserved with
    ⟨absent, _, rfl⟩ | ⟨period, found, _, rfl⟩
  · have uncounted : ∀ period ∈ periods, period.counts entry = false := by
      intro period present
      rw [Bool.eq_false_iff]
      exact fun counted => absent period present (UsagePeriod.counts_iff.mp counted)
    have noRows : ∀ kind, UsagePeriod.rows
        { accountId := entry.accountId, periodStart := entry.periodStart
          limitUnits := limit, reservedUnits := 1, refundedUnits := 0 }
        kind ledger = 0 := by
      intro kind
      refine countP_eq_zero.mpr fun other present counted => ?_
      have counted := UsagePeriod.counts_iff.mp (Bool.and_eq_true_iff.mp counted).1
      obtain ⟨period, listed, covers⟩ := balanced.covered other present
      have covers := UsagePeriod.counts_iff.mp covers
      exact absent period listed ⟨covers.1.trans counted.1.symm, covers.2.trans counted.2.symm⟩
    refine ⟨forall_mem_concat (fun period old => ?_) ?_, ?_, ?_⟩
    · rw [rows_append_of_ne (by simp [uncounted period old])]
      exact balanced.reserved period old
    · rw [own _ (by simp [UsagePeriod.counts]), noRows]
      rfl
    · simp only [others]
      exact forall_mem_concat balanced.refunded (by rw [noRows]; rfl)
    · refine forall_mem_concat (fun other old => ?_) ⟨_, mem_concat_self, ?_⟩
      · obtain ⟨period, listed, covers⟩ := balanced.covered other old
        exact ⟨period, mem_append_left _ listed, covers⟩
      · simp [UsagePeriod.counts]
  · have isCounted : ∀ period : UsagePeriod, (period.accountId == entry.accountId &&
          period.periodStart == entry.periodStart) = period.counts entry := by
      intro period
      rw [Bool.eq_iff_iff, UsagePeriod.counts_iff]
      simp
    refine ⟨?_, ?_, ?_⟩
    · intro row present
      rcases mem_update_iff.mp present with
        ⟨old, unselected⟩ | ⟨old, listed, selected, rfl⟩
      · rw [isCounted] at unselected
        rw [rows_append_of_ne (by simp [unselected])]
        exact balanced.reserved row old
      · rw [isCounted] at selected
        change old.reservedUnits + 1 = (old.rows .reserve (ledger ++ [entry]) : Nat)
        rw [own old selected, balanced.reserved old listed]
        rfl
    · intro row present
      rw [others]
      rcases mem_update_iff.mp present with
        ⟨old, _⟩ | ⟨old, listed, _, rfl⟩
      · exact balanced.refunded row old
      · exact balanced.refunded old listed
    · intro other present
      refine (exists_update_iff (by exact fun _ => rfl)).mpr ?_
      refine forall_mem_concat balanced.covered ?_ other present
      refine ⟨period, mem_of_find?_eq_some found, ?_⟩
      have selected := find?_some found
      rwa [isCounted] at selected

/-- Refunds are added to the counters of their periods. -/
theorem refund (balanced : Balanced periods ledger)
    (areRefunds : ∀ refund ∈ refunds, refund.entryKind = .refund)
    (ofEntries : ∀ refund ∈ refunds, ∃ entry ∈ ledger, entry.accountId = refund.accountId ∧
        entry.periodStart = refund.periodStart) :
    Balanced (refundPeriods refunds periods) (ledger ++ refunds) := by
  refine ⟨forall_mem_map.mpr fun period listed => ?_,
    forall_mem_map.mpr fun period listed => ?_, ?_⟩
  · have none : period.rows .reserve refunds = 0 := by
      refine countP_eq_zero.mpr fun refund isRefund => ?_
      simp [areRefunds refund isRefund]
    change period.reservedUnits = (period.rows .reserve (ledger ++ refunds) : Nat)
    unfold UsagePeriod.rows at none ⊢
    rw [countP_append, none]
    exact balanced.reserved period listed
  · change period.refundedUnits + (refunds.countP fun entry =>
      entry.accountId == period.accountId && entry.periodStart == period.periodStart : Nat) =
      (period.rows .refund (ledger ++ refunds) : Nat)
    rw [balanced.refunded period listed]
    unfold UsagePeriod.rows
    rw [countP_append, Int.natCast_add]
    congr 2
    refine countP_congr fun refund isRefund => ?_
    simp [UsagePeriod.counts, areRefunds refund isRefund]
  · intro other present
    have kept : ∀ entry, (∃ period ∈ periods, period.counts entry) →
        ∃ period ∈ refundPeriods refunds periods, period.counts entry := by
      rintro entry ⟨period, listed, covers⟩
      exact ⟨_, mem_map.mpr ⟨period, listed, rfl⟩, covers⟩
    rcases mem_append.mp present with old | isNew
    · exact kept other (balanced.covered other old)
    · obtain ⟨entry, stored, sameAccount, sameStart⟩ := ofEntries other isNew
      obtain ⟨period, listed, covers⟩ := balanced.covered entry stored
      refine kept other ⟨period, listed, ?_⟩
      rw [UsagePeriod.counts_iff, ← sameAccount, ← sameStart]
      exact UsagePeriod.counts_iff.mp covers

theorem setLimits (balanced : Balanced periods ledger) (limits : UsagePeriod → Int) :
    Balanced (setLimits limits periods) ledger := by
  refine ⟨forall_mem_map.mpr balanced.reserved, forall_mem_map.mpr balanced.refunded, ?_⟩
  · intro entry present
    obtain ⟨period, listed, covers⟩ := balanced.covered entry present
    exact ⟨_, mem_map.mpr ⟨period, listed, rfl⟩, covers⟩

theorem preserved (deployment : Deployment) : Preserved deployment fun tables =>
      Balanced tables.periods tables.ledger where
  arrival := by
    intro clock key tables after _ before arrival
    cases arrival <;> exact before
  effect := by
    intro directory tables after _ before effect
    cases effect with
    | reserved reserving =>
      obtain ⟨billed, limit, invoiceBound, _, reserved⟩ := reserving.period
      exact before.reserve reserving.kind reserved
    | closed =>
      refine before.refund (fun refund present => (Record.mem_pendingRefunds present).1) ?_
      intro refund present
      obtain ⟨_, reserve, stored, _, rfl⟩ := Record.mem_pendingRefunds present
      exact ⟨reserve, stored, rfl, rfl⟩
    | connected | claimed | granted | released | followed | silenced
    | timedOut => exact before
  administered := by
    intro tables sites limits before
    exact before.setLimits limits

end Balanced

/-- No policy is bound to an invoice. -/
def Directory.InvoiceFree (directory : Directory) : Prop :=
  ∀ accountId, (directory.billing accountId).policy.any QuotaPolicy.invoiceBound = false

/-- A step neither lowers a limit nor binds a policy to an invoice. -/
def Step.KeepsLimits (tables : Tables) : Step → Prop
  | .administer directory _ limits =>
    directory.InvoiceFree ∧ ∀ period ∈ tables.periods, period.limitUnits ≤ limits period
  | _ => True

/-- In a run the limits are never lowered and no policy is bound to an
invoice. -/
def World.LimitsKept (deployment : Deployment) (world : World) : List Step → Prop
  | [] => True
  | next :: rest => next.KeepsLimits world.tables ∧
      (world.step deployment next).LimitsKept deployment rest

/-- No period exceeds its limit. -/
structure Within (periods : List UsagePeriod) : Prop where
  distinct : (periods.map fun period =>
    (period.accountId, period.periodStart)).Nodup
  bounded : ∀ period ∈ periods, period.reservedUnits - period.refundedUnits ≤ period.limitUnits

theorem quotaLimit_invoiceBound {account : BillingAccount}
    (free : account.policy.any QuotaPolicy.invoiceBound = false)
    (quota : quotaLimit account billed now = .ok (limit, invoiceBound)) : invoiceBound = false := by
  unfold quotaLimit at quota
  have configured : policyLimit account billed = .ok (limit, invoiceBound) := by
    split_ifs at quota
    · exact (Fallible.bind_eq_ok.mp quota).choose_spec.2
    · exact quota
  unfold policyLimit at configured
  cases isPolicy : account.policy with
  | none =>
    rw [isPolicy] at configured
    cases configured
  | some policy =>
    rw [isPolicy] at configured free
    simp only at configured
    split_ifs at configured
    cases configured
    exact free

namespace Within

variable {after : List UsagePeriod}

theorem reserve (within : Within periods)
    (reserved : reservePeriod accountId periodStart limit false periods = some after) :
    Within after := by
  rcases Balanced.reservePeriod_cases reserved with
    ⟨absent, allowed, rfl⟩ | ⟨period, found, allowed, rfl⟩
  · refine ⟨nodup_map_concat within.distinct fun period listed same => ?_, ?_⟩
    · exact absent period listed (Prod.mk.inj same)
    · refine forall_mem_concat within.bounded ?_
      have positive : 0 < limit := by simpa using allowed
      change 1 - 0 ≤ limit
      omega
  · refine ⟨?_, ?_⟩
    · rw [map_update _ (by intro row; rfl)]
      exact within.distinct
    · intro row present
      rcases mem_update_iff.mp present with
        ⟨old, _⟩ | ⟨old, listed, selected, rfl⟩
      · exact within.bounded row old
      · have isFound : old = period := by
          have chosen := find?_some found
          simp only [Bool.and_eq_true, beq_iff_eq] at chosen selected
          refine inj_on_of_nodup_map within.distinct listed (mem_of_find?_eq_some found) ?_
          rw [selected.1, selected.2, chosen.1, chosen.2]
        subst isFound
        have room : old.reservedUnits - old.refundedUnits < old.limitUnits := by
          simpa using allowed
        change old.reservedUnits + 1 - old.refundedUnits ≤ old.limitUnits
        omega

theorem refund (within : Within periods) (refunds : List LedgerEntry) :
    Within (refundPeriods refunds periods) := by
  refine ⟨?_, ?_⟩
  · unfold refundPeriods
    rw [map_map]
    exact within.distinct
  · refine forall_mem_map.mpr fun period listed => ?_
    have bounded := within.bounded period listed
    simp only
    omega

theorem setLimits (within : Within periods)
    (raised : ∀ period ∈ periods, period.limitUnits ≤ limits period) :
    Within (setLimits limits periods) := by
  refine ⟨?_, ?_⟩
  · unfold Delivery.setLimits
    rw [map_map]
    exact within.distinct
  · refine forall_mem_map.mpr fun period listed => ?_
    exact (within.bounded period listed).trans (raised period listed)

theorem effects {next : Tables} {directory : Directory} (invoiceFree : directory.InvoiceFree)
    (effects : Effects deployment directory tables next) (before : Within tables.periods) :
    Within next.periods := by
  induction effects with
  | refl => exact before
  | tail _ effect ih =>
    cases effect with
    | reserved reserving =>
      obtain ⟨billed, limit, invoiceBound, quota, reserved⟩ := reserving.period
      obtain rfl := quotaLimit_invoiceBound (invoiceFree _) quota
      exact ih.reserve reserved
    | closed => exact ih.refund _
    | connected | claimed | granted | released | followed | silenced
    | timedOut => exact ih

theorem step {world : World} {next : Step} (coherent : world.tables.Coherent)
    (invoiceFree : world.directory.InvoiceFree) (before : Within world.tables.periods)
    (keeps : next.KeepsLimits world.tables) : Within (world.step deployment next).tables.periods ∧
      (world.step deployment next).directory.InvoiceFree := by
  cases isTransaction : next.isTransaction with
  | true =>
    have committed : world.Committed deployment next (world.tablesAfter deployment next) :=
      World.committed coherent isTransaction
    obtain ⟨arrived, arrival, effects⟩ := committed
    refine ⟨Within.effects invoiceFree effects ?_, ?_⟩
    · rcases arrival with rfl | ⟨clock, key, _, new⟩
      · exact before
      · cases new <;> exact before
    · cases next <;> first | exact invoiceFree | cases isTransaction
  | false =>
    cases next with
    | administer directory sites limits =>
      exact ⟨before.setLimits keeps.2, keeps.1⟩
    | _ => cases isTransaction

theorem run {world : World} (coherent : world.tables.Coherent)
    (invoiceFree : world.directory.InvoiceFree) (before : Within world.tables.periods)
    (kept : world.LimitsKept deployment steps) :
    Within (world.run deployment steps).tables.periods := by
  induction steps generalizing world with
  | nil => exact before
  | cons next rest ih =>
    obtain ⟨within, free⟩ := before.step coherent invoiceFree kept.1
    exact ih (World.step_coherent coherent next) free within kept.2

end Within

end Zrotext.Delivery
