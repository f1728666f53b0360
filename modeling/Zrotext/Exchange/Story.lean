import Zrotext.Delivery.RadioTransition

/-!
# The story of an attempt

What one phone reports about one attempt: the intent, then at most one callback
for each segment, and the delivery once every segment was sent.  A writer that
heard such a story up to some point accepts what comes next.
-/

namespace Zrotext.Exchange

open Domain Foundation Delivery List

/-- The reports that a segment was sent. -/
def okCount (log : List RadioEvent) : Nat := log.countP (·.evidence == .sentCallbackOk)

/-- The reports that a segment was not sent. -/
def failedCount (log : List RadioEvent) : Nat := log.countP (·.evidence == .sentCallbackFailed)

/-- The log reports a delivery. -/
def tellsDelivery (log : List RadioEvent) : Bool := log.any (·.evidence == .deliveryCallbackOk)

/-- A report that comes after others. -/
inductive Follows (count : Int) (log : List RadioEvent) (report : RadioEvent) : Prop
  | sent {index : Int} : isSentCallback report.evidence = true → report.segmentIndex = some index →
      report.segmentCount = some count → 0 ≤ index → index < count →
      (∀ other ∈ log, isSentCallback other.evidence = true → other.segmentIndex ≠ some index) →
      tellsDelivery log = false → Follows count log report
  | delivery : report.evidence = .deliveryCallbackOk → report.segmentIndex = none →
      report.segmentCount = none → (okCount log : Int) = count → tellsDelivery log = false →
      Follows count log report

/-- The reports about one attempt, in their order. -/
inductive Story (count : Int) : List RadioEvent → Prop
  | intent {report : RadioEvent} : report.evidence = .durableSubmitIntent → Story count [report]
  | more {log : List RadioEvent} {report : RadioEvent} : Story count log →
      Follows count log report → Story count (log ++ [report])

/-- The state of a message whose writer heard a story. -/
def Expected (count : Int) (log : List RadioEvent) (state : MessageState) : Prop :=
  if tellsDelivery log then state = .delivered
  else if (okCount log : Int) = count then
    state = .submitted ∨ state = .deliveryUnknown
  else if failedCount log = 0 then state = .submitting ∨ state = .unknown
  else if count = 1 then state = .failed
  else state = .unknown

theorem okCount_concat : okCount (log ++ [report]) =
      okCount log + if report.evidence = .sentCallbackOk then 1 else 0 := by
  simp [okCount, countP_append, countP_singleton]

theorem failedCount_concat : failedCount (log ++ [report]) = failedCount log +
        if report.evidence = .sentCallbackFailed then 1 else 0 := by
  simp [failedCount, countP_append, countP_singleton]

theorem tellsDelivery_concat : tellsDelivery (log ++ [report]) =
      (tellsDelivery log || report.evidence == .deliveryCallbackOk) := by
  simp [tellsDelivery]

theorem countP_isSentCallback (log : List RadioEvent) :
    log.countP (fun report => isSentCallback report.evidence) = okCount log + failedCount log := by
  induction log with
  | nil => rfl
  | cons report rest ih =>
    unfold okCount failedCount at ih ⊢
    rw [countP_cons, countP_cons, countP_cons, ih]
    cases report.evidence <;> simp [isSentCallback] <;> omega

namespace Story

variable {count : Int}

theorem of_concat (story : Story count (log ++ [report])) (begun : log ≠ []) :
    Story count log ∧ Follows count log report := by
  generalize isWhole : log ++ [report] = whole at story
  cases story with
  | intent =>
    have length := congrArg length isWhole
    rw [length_append, length_singleton, length_singleton]
      at length
    exact absurd (length_eq_zero_iff.mp (by omega)) begun
  | more story follows =>
    obtain ⟨rfl, isLast⟩ := append_inj' isWhole rfl
    obtain rfl := singleton_inj.mp isLast
    exact ⟨story, follows⟩

/-- A story is told from its beginning. -/
theorem cut (story : Story count (log ++ report :: rest))
    (begun : log ≠ []) : Story count log ∧ Follows count log report := by
  induction rest using reverseRecOn with
  | nil => exact story.of_concat begun
  | append_singleton rest last ih =>
    rw [← cons_append, ← append_assoc] at story
    exact ih (story.of_concat (by simp)).1

/-- The segments that a log tells of. -/
def indices (log : List RadioEvent) : List Int := log.filterMap fun report =>
    if isSentCallback report.evidence then report.segmentIndex else none

theorem mem_indices : index ∈ indices log ↔ ∃ report ∈ log,
      isSentCallback report.evidence ∧ report.segmentIndex = some index := by
  simp only [indices, mem_filterMap, Option.ite_none_right_eq_some]

theorem segments (story : Story count log) :
    (indices log).Nodup ∧ (∀ index ∈ indices log, 0 ≤ index ∧ index < count) ∧
      (indices log).length = okCount log + failedCount log := by
  induction story with
  | @intent report isIntent =>
    simp [indices, okCount, failedCount, isIntent, isSentCallback]
  | @more log report _ follows ih =>
    obtain ⟨distinct, inRange, length⟩ := ih
    cases follows with
    | @sent index isSent isIndex _ lower upper unheard _ =>
      have appended : indices (log ++ [report]) = indices log ++ [index] := by
        simp [indices, isSent, isIndex]
      have fresh : index ∉ indices log := by
        rw [mem_indices]
        rintro ⟨other, listed, wasSent, same⟩
        exact unheard other listed wasSent same
      rw [appended]
      refine ⟨?_, ?_, ?_⟩
      · rw [nodup_append_comm]
        exact nodup_cons.mpr ⟨fresh, distinct⟩
      · exact Table.forall_mem_concat inRange ⟨lower, upper⟩
      · rw [← countP_isSentCallback, countP_append, countP_isSentCallback, length_append, length,
          countP_singleton, if_pos isSent]
        rfl
    | delivery isDelivery =>
      have appended : indices (log ++ [report]) = indices log := by
        simp [indices, isDelivery, isSentCallback]
      rw [appended]
      refine ⟨distinct, inRange, ?_⟩
      rw [length, okCount_concat, failedCount_concat, isDelivery]
      simp

theorem length_le_of_nodup {numbers : List Int} (distinct : numbers.Nodup)
    (inRange : ∀ number ∈ numbers, 0 ≤ number ∧ number < count) : numbers.length ≤ count.toNat := by
  have bounded : numbers.toFinset ⊆ Finset.Ico 0 count := by
    intro number listed
    exact Finset.mem_Ico.mpr (inRange number (mem_toFinset.mp listed))
  have few := Finset.card_le_card bounded
  rw [toFinset_card_of_nodup distinct, Int.card_Ico, Int.sub_zero] at few
  exact few

/-- A story in which one more segment is told of has room for it. -/
theorem room (story : Story count log) (follows : Follows count log report)
    (isSent : isSentCallback report.evidence) :
    ((okCount log + failedCount log : Nat) : Int) < count := by
  obtain ⟨distinct, inRange, length⟩ := (story.more follows).segments
  have few := length_le_of_nodup distinct inRange
  rw [length, ← countP_isSentCallback, countP_append,
    countP_singleton, if_pos isSent, countP_isSentCallback] at few
  omega

end Story

/-- The recorded evidence is the evidence of a log. -/
structure Hears (log : List RadioEvent) (prior : PriorAttemptEvidence) : Prop where
  unconflicted : prior.conflicted = false
  intended : prior.durableIntent = true
  sentCallbacks : prior.sentCallbacks = okCount log + failedCount log
  sentOk : prior.sentOk = okCount log
  sameCount : prior.sentOtherCount = 0

namespace Expected

variable {count : Int}

theorem untold_iff (untold : tellsDelivery log = false) : Expected count log state ↔
      if (okCount log : Int) = count then
        state = .submitted ∨ state = .deliveryUnknown
      else if failedCount log = 0 then state = .submitting ∨ state = .unknown
      else if count = 1 then state = .failed
      else state = .unknown := by
  unfold Expected
  rw [untold, if_neg Bool.false_ne_true]

section

variable (expected : Expected count log state)

include expected

/-- While callbacks are missing, the writer waits for them. -/
theorem awaits (untold : tellsDelivery log = false)
    (room : ((okCount log + failedCount log : Nat) : Int) < count) : awaitsCallbacks state ∧
      (failedCount log ≠ 0 → count ≠ 1 ∧ state = .unknown) := by
  rw [untold_iff untold, if_neg (by omega)] at expected
  split_ifs at expected with unfailed single
  · exact ⟨awaitsCallbacks_iff.mpr expected, fun failed => absurd unfailed failed⟩
  · omega
  · exact ⟨awaitsCallbacks_iff.mpr (.inr expected), fun _ => ⟨single, expected⟩⟩

/-- A report that follows moves the message to what is expected then. -/
theorem moves (story : Story count log)
    (follows : Follows count log report) (hears : Hears log prior) :
    ∃ next, Moves state report prior next ∧ Expected count (log ++ [report]) next ∧
      (awaitsCallbacks next → awaitsCallbacks state) := by
  have room := story.room follows
  cases follows with
  | @sent index isSent _ isCount _ _ _ untold =>
    have fits := room isSent
    obtain ⟨awaited, lost⟩ := expected.awaits untold fits
    have counted : Counted report prior count := by
      refine ⟨isCount, hears.sameCount, ?_⟩
      rw [hears.sentCallbacks]
      exact fits
    have stillUntold : tellsDelivery (log ++ [report]) = false := by
      rw [tellsDelivery_concat, untold, Bool.false_or, beq_eq_false_iff_ne]
      intro isDelivery
      rw [isDelivery] at isSent
      cases isSent
    by_cases isOk : report.evidence = .sentCallbackOk
    · by_cases whole : (okCount log : Int) + 1 = count
      · refine ⟨.submitted, .complete isOk counted ?_ awaited, ?_, ?_⟩
        · rw [hears.sentOk]
          exact whole
        · rw [untold_iff stillUntold, okCount_concat, if_pos isOk, if_pos (by omega)]
          exact .inl rfl
        · exact fun _ => awaited
      · refine ⟨state, .waiting isOk counted ?_ awaited, ?_, id⟩
        · rw [hears.sentOk]
          exact whole
        · have sameFailed : failedCount (log ++ [report]) = failedCount log := by
            rw [failedCount_concat, isOk]
            rfl
          rw [untold_iff stillUntold, okCount_concat, sameFailed, if_pos isOk, if_neg (by omega)]
          split_ifs with unfailed single
          · exact awaitsCallbacks_iff.mp awaited
          · exact absurd single (lost unfailed).1
          · exact (lost unfailed).2
    · have isFailed : report.evidence = .sentCallbackFailed := by
        cases isEvidence : report.evidence <;> simp_all [isSentCallback]
      have after : ∀ next, Expected count (log ++ [report]) next ↔
          if count = 1 then next = .failed else next = .unknown := by
        intro next
        rw [untold_iff stillUntold, okCount_concat, failedCount_concat,
          if_neg isOk, if_pos isFailed, if_neg (by omega),
          if_neg (Nat.succ_ne_zero _)]
      by_cases single : count = 1
      · refine ⟨.failed, .failed isFailed (single ▸ counted) awaited, ?_, ?_⟩
        · rw [after, if_pos single]
        · exact fun _ => awaited
      · refine ⟨.unknown, .lost isFailed counted single awaited, ?_, ?_⟩
        · rw [after, if_neg single]
        · exact fun _ => awaited
  | delivery isDelivery _ _ whole untold =>
    rw [untold_iff untold, if_pos whole] at expected
    refine ⟨.delivered, .applied ?_ ?_, ?_, ?_⟩
    · rw [isDelivery]
      rfl
    · rw [isDelivery]
      rcases expected with rfl | rfl <;> rfl
    · unfold Expected
      rw [tellsDelivery_concat, isDelivery, beq_self_eq_true, Bool.or_true, if_pos rfl]
    · intro awaited
      cases awaited

theorem accepts (story : Story count log)
    (follows : Follows count log report) (hears : Hears log prior) :
    ∃ next, radioState state report prior = .ok next ∧ Expected count (log ++ [report]) next ∧
      (awaitsCallbacks next → awaitsCallbacks state) := by
  obtain ⟨next, moves, expectedNext, active⟩ := expected.moves story follows hears
  refine ⟨next, radioState_eq_ok_iff.mpr ⟨⟨?_, ?_, ?_⟩, moves⟩, expectedNext, active⟩
  · exact fun _ => hears.unconflicted
  · intro isProof
    cases follows with
    | sent isSent =>
      rw [isProof] at isSent
      cases isSent
    | delivery isDelivery => cases isProof.symm.trans isDelivery
  · exact fun _ => hears.intended

/-- The message of a story has an attempt under way or ended. -/
theorem attemptStatus_eq : ∃ status, attemptStatus state = some status ∧
      (status.isActive ↔ awaitsCallbacks state) := by
  unfold Expected at expected
  split_ifs at expected
  · exact ⟨.submitted, by rw [expected]; rfl, by rw [expected]; decide⟩
  · rcases expected with rfl | rfl <;> exact ⟨.submitted, rfl, by decide⟩
  · rcases expected with rfl | rfl
    · exact ⟨.submitting, rfl, by decide⟩
    · exact ⟨.unknown, rfl, by decide⟩
  · exact ⟨.failed, by rw [expected]; rfl, by rw [expected]; decide⟩
  · exact ⟨.unknown, by rw [expected]; rfl, by rw [expected]; decide⟩

end

/-- Silence leaves a message that was being submitted unknown. -/
theorem silence (expected : Expected count log .submitting) : Expected count log .unknown := by
  unfold Expected at expected ⊢
  split_ifs at expected ⊢ <;> simp_all

/-- A missing receipt leaves the delivery unknown. -/
theorem timeOut (expected : Expected count log .submitted) :
    Expected count log .deliveryUnknown := by
  unfold Expected at expected ⊢
  split_ifs at expected ⊢ <;> simp_all

end Expected

end Zrotext.Exchange
