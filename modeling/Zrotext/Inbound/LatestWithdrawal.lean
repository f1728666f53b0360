import Zrotext.Inbound.Consent

/-!
# The latest withdrawal

A suppression remembers one withdrawal, the last that arrived.  A withdrawal
that arrives after a later one takes its place, and a resumption between the two
then clears the suppression.  Apart from such arrivals the latest withdrawal
stays in force.
-/

namespace Zrotext.Inbound

open Foundation Delivery Fallible List Keyed

variable {δ : Type}

/-- A row is active, and it is final or its source was observed no earlier. -/
def Stands (suppressions : Suppressions) (key : Uuid × Text) (observedAt : Time) : Prop :=
  ∃ row, suppressions.lookup key = some row ∧ row.active = true ∧
    (row.isFinal = true ∨ observedAt ≤ row.sourceObservedAt)

/-- A withdrawal does not come after a later one that is in force. -/
def Reply.inOrder (reply : Reply) (suppressions : Suppressions) : Bool :=
  (suppressions.lookup reply.key).all fun row =>
    !row.active || row.isFinal ||
      decide (row.sourceObservedAt ≤ reply.observedAt)

section Transition

variable {reply : Reply} {after : Suppressions} {cleared : Bool}

theorem Reply.observedAt_le (inOrder : reply.inOrder before)
    (found : before.lookup reply.key = some row) (active : row.active)
    (open' : row.isFinal = false) : row.sourceObservedAt ≤ reply.observedAt := by
  unfold Reply.inOrder at inOrder
  rw [found] at inOrder
  simpa [active, open'] using inOrder

/-- A change keeps a suppression in force, or it is a resumption that was
observed later. -/
theorem Transition.stands (transition : Transition reply before classification after cleared)
    (inOrder : classification.isWithdrawal → reply.inOrder before)
    (stands : Stands before key observedAt) : Stands after key observedAt ∨
      (classification = .optIn ∧ reply.key = key ∧ observedAt < reply.observedAt) := by
  obtain ⟨row, found, active, isRow⟩ := stands
  cases transition with
  | @preserved _ kept _ isKept final _ =>
    refine .inl ?_
    unfold Stands
    rw [lookup_put]
    split_ifs
    · exact ⟨kept, rfl, (Bool.and_eq_true_iff.mp final).1, .inl final⟩
    · exact ⟨row, found, active, isRow⟩
  | @withdrawn _ stored withdraws open' sameKey _ withdrew =>
    refine .inl ?_
    unfold Stands
    rw [lookup_put]
    split_ifs with isKey
    · rw [isKey, sameKey] at found
      have notFinal := open' row found
      have later := Reply.observedAt_le (inOrder withdraws) found active notFinal
      rcases isRow with final | before
      · rw [notFinal] at final
        cases final
      · exact ⟨stored, rfl, withdrew.active, .inr (withdrew.observed ▸ le_trans before later)⟩
    · exact ⟨row, found, active, isRow⟩
  | @cleared old stored isOld clears open' sameKey _ _ _ =>
    by_cases isKey : key = stored.key
    · rw [isKey, sameKey, isOld] at found
      cases found
      simp only [Reply.clears, Bool.and_eq_true, decide_eq_true_eq] at clears
      rcases isRow with final | before
      · rw [open'] at final
        cases final
      · exact .inr ⟨rfl, (isKey.trans sameKey).symm, lt_of_le_of_lt before clears.2⟩
    · refine .inl ⟨row, ?_, active, isRow⟩
      rw [lookup_put, if_neg isKey]
      exact found
  | unchanged => exact .inl ⟨row, found, active, isRow⟩

theorem Transition.stands_self (transition : Transition reply before classification after cleared)
    (withdraws : classification.isWithdrawal) : Stands after reply.key reply.observedAt := by
  cases transition with
  | @preserved _ row _ found final _ =>
    refine ⟨row, ?_, (Bool.and_eq_true_iff.mp final).1, .inl final⟩
    rw [lookup_put, if_pos (lookup_eq_some_iff.mp found).2.symm]
  | @withdrawn _ row _ _ sameKey _ withdrew =>
    refine ⟨row, ?_, withdrew.active, .inr withdrew.observed.ge⟩
    rw [lookup_put, if_pos sameKey.symm]
  | cleared => cases withdraws
  | unchanged keeps =>
    rw [keeps] at withdraws
    cases withdraws

theorem stands_put_final {row : Suppression} (final : row.isFinal)
    (stands : Stands before key observedAt) :
    Stands (before.put row) key observedAt := by
  unfold Stands
  rw [lookup_put]
  split_ifs
  · exact ⟨row, rfl, (Bool.and_eq_true_iff.mp final).1, .inl final⟩
  · exact stands

end Transition

/-- A withdrawal that is new does not come after a later one that is in
force. -/
def Upload.inOrder (tables : Tables δ) (upload : Upload δ) : Bool :=
  !upload.event.classification.isWithdrawal || (tables.events.lookup upload.event.eventId).isSome ||
    (tables.recipientOf upload.session upload.event).all fun recipient =>
      (upload.event.reply upload.session recipient).inOrder tables.suppressions

def Action.inOrder (tables : Tables δ) : Action δ → Bool
  | .upload request => request.inOrder tables
  | _ => true

namespace System

/-- A resumption was accepted that was observed after a withdrawal of the same
recipient. -/
def Resumed (system : System δ) (consent : Consent) : Prop :=
  ∃ resumed ∈ system.accepted, resumed.key = consent.key ∧
    resumed.withdrawn = false ∧ consent.observedAt < resumed.observedAt

/-- Every accepted withdrawal is in force or was followed by a resumption. -/
def Covered (system : System δ) : Prop := ∀ consent ∈ system.accepted, consent.withdrawn = true →
    Stands system.tables.suppressions consent.key consent.observedAt ∨ Resumed system consent

/-- If the latest of the accepted changes of a recipient is a withdrawal, the
recipient is suppressed. -/
def LatestWins (system : System δ) : Prop := ∀ latest ∈ system.accepted, latest.withdrawn = true →
    (∀ other ∈ system.accepted, other.key = latest.key → other ≠ latest →
      other.observedAt < latest.observedAt) →
    ∃ row, system.tables.suppressions.lookup latest.key = some row ∧ row.active = true

section Steps

variable [DecidableEq δ] {after : System δ}

/-- A resumption that clears a suppression was observed after every withdrawal
of the recipient that had not been resumed. -/
def ClearsEarlier (system : System δ) : Prop := ∀ (upload : Upload δ) outcome after recipient,
    upload.perform system.tables = .ok (outcome, after) →
    outcome.created = true → outcome.suppressionCleared = true →
    system.tables.recipientOf upload.session upload.event = some recipient →
    ∀ consent ∈ system.accepted, consent.key = (upload.session.accountId, recipient) →
      consent.withdrawn = true → ofMillis upload.event.observedAtMs ≤ consent.observedAt →
      Resumed system consent

/-- Every new withdrawal of a run comes in order. -/
def InOrder : List (Action δ) → System δ → Prop
  | [], _ => True
  | action :: rest, system =>
    action.inOrder system.tables = true ∧ InOrder rest (system.step action)

omit [DecidableEq δ] in
theorem Resumed.append (resumed : Resumed before consent)
    (isAccepted : after.accepted = before.accepted ++ added) : Resumed after consent := by
  obtain ⟨later, listed, facts⟩ := resumed
  refine ⟨later, ?_, facts⟩
  rw [isAccepted]
  exact mem_append_left _ listed

omit [DecidableEq δ] in
theorem Covered.step (faithful : Faithful before) (covered : Covered before)
    (moves : Moves before after action) (inOrder : action.inOrder before.tables) :
    Covered after := by
  cases moves with
  | quiet _ sameSuppressions sameAccepted _ =>
    intro consent listed withdrawn
    rw [sameAccepted] at listed
    rw [sameSuppressions]
    refine (covered consent listed withdrawn).imp_right fun resumed => ?_
    exact resumed.append (sameAccepted.trans (append_nil _).symm)
  | ingests upload recipient cleared ingests isAccepted _ =>
    have transition := ingests.suppressions faithful.checked
    have replyInOrder : upload.event.classification.isWithdrawal →
        (upload.event.reply upload.session recipient).inOrder
          before.tables.suppressions := by
      intro withdraws
      simpa [Action.inOrder, Upload.inOrder, withdraws, ingests.new,
        ingests.isRecipient] using inOrder
    intro consent listed withdrawn
    rw [isAccepted, mem_append] at listed
    rcases listed with listed | listed
    · rcases covered consent listed withdrawn with stands | resumed
      · rcases transition.stands replyInOrder stands with
          stands | ⟨isOptIn, sameKey, later⟩
        · exact .inl stands
        · refine .inr ⟨upload.consent recipient, ?_, sameKey, ?_, later⟩
          · rw [isAccepted, isOptIn]
            exact mem_append_right _ mem_cons_self
          · unfold Upload.consent
            rw [isOptIn]
            rfl
      · exact .inr (resumed.append isAccepted)
    · split_ifs at listed
      · rw [mem_singleton] at listed
        rw [listed] at withdrawn ⊢
        exact .inl (transition.stands_self withdrawn)
      · cases listed
  | suppresses _ session event suppresses sameAccepted _ =>
    obtain ⟨row, isSuppressions, _, _, final, _⟩ := suppresses.suppressions
    intro consent listed withdrawn
    rw [sameAccepted] at listed
    rw [isSuppressions]
    rcases covered consent listed withdrawn with stands | resumed
    · exact .inl (stands_put_final final stands)
    · exact .inr (resumed.append (sameAccepted.trans (append_nil _).symm))

theorem covered_run (actions : List (Action δ)) (faithful : Faithful system)
    (covered : Covered system) (inOrder : InOrder actions system) :
    Covered (run actions system) := by
  induction actions generalizing system with
  | nil => exact covered
  | cons action rest ih =>
    have moves := moves_step system action
    exact ih (faithful.step moves) (covered.step faithful moves inOrder.1) inOrder.2

omit [DecidableEq δ] in
theorem Covered.latestWins (covered : Covered system) : LatestWins system := by
  intro latest listed withdrawn isLatest
  rcases covered latest listed withdrawn with
    ⟨row, found, active, _⟩ | ⟨resumed, resumedListed, sameKey, isResumed, later⟩
  · exact ⟨row, found, active⟩
  · have different : resumed ≠ latest := by
      rintro rfl
      rw [withdrawn] at isResumed
      cases isResumed
    exact absurd later (not_lt_of_gt (isLatest resumed resumedListed sameKey different))

theorem Covered.clearsEarlier {system : System δ} (faithful : Faithful system)
    (covered : Covered system) : ClearsEarlier system := by
  intro upload outcome after recipient result isNew isCleared isRecipient
    consent listed isKey withdrawn later
  refine (covered consent listed withdrawn).resolve_left ?_
  rintro ⟨row, found, _, isRow⟩
  rcases ingestWithClock_eq_ok result with
    ⟨isOld, _⟩ | ⟨_, receiver, ingests⟩
  · rw [isNew] at isOld
    cases isOld
  · have same := ingests.isRecipient
    rw [isRecipient] at same
    cases same
    have transition := ingests.suppressions faithful.checked
    rw [isCleared] at transition
    obtain ⟨old, isOld, clears, open'⟩ := transition.of_cleared
    rw [isKey] at found
    change system.tables.suppressions.lookup
      (upload.session.accountId, recipient) = some old at isOld
    rw [found] at isOld
    cases isOld
    rcases isRow with final | before
    · rw [open'] at final
      cases final
    · simp only [Reply.clears, Bool.and_eq_true, decide_eq_true_eq] at clears
      exact absurd clears.2 (not_lt_of_ge (le_trans later before))

/-- In every run whose new withdrawals come in order, the latest withdrawal wins
and a resumption clears earlier withdrawals only. -/
theorem latest_withdrawal_wins (tables : Tables δ) (fresh : IsFresh tables)
    (actions : List (Action δ)) (inOrder : InOrder actions (start tables)) :
    LatestWins (run actions (start tables)) ∧ ClearsEarlier (run actions (start tables)) := by
  have covered : Covered (run actions (start tables)) :=
    covered_run actions (faithful_run fresh []) nofun inOrder
  exact ⟨covered.latestWins, covered.clearsEarlier (faithful_run fresh actions)⟩

end Steps
end System

/-- The replies of the fifth and the tenth second come one after the other. -/
def Drill.oneAfterTheOther : List (Action Text) :=
  [.upload (reply 21 .optOut 5 20), .upload (reply 22 .optOut 10 21),
    .upload (reply 23 .optIn 7 22)]

/-- The resumption of the seventh second does not clear the withdrawal of the
tenth. -/
theorem latest_withdrawal_wins_in_order :
    (System.run Drill.oneAfterTheOther (System.start Drill.tables)).LatestWins ∧
      (System.run Drill.oneAfterTheOther (System.start Drill.tables)).accepted.map
        Consent.observedAt = [seconds 5, seconds 10, seconds 7] :=
  ⟨(System.latest_withdrawal_wins Drill.tables ⟨rfl, rfl⟩ Drill.oneAfterTheOther
    ⟨by decide +kernel, by decide +kernel, by decide +kernel, trivial⟩).1,
    by decide +kernel⟩

/-- The reply of the tenth second is followed by one of the fifth. -/
def Drill.outOfOrder : List (Action Text) :=
  [.upload (reply 21 .optOut 10 20), .upload (reply 22 .optOut 5 21),
    .upload (reply 23 .optIn 7 22)]

/-- The reply of the tenth second. -/
def Drill.withdrawal : Consent := ⟨1, "+15550001111".toList, 21, true, seconds 10⟩

/-- The withdrawal of the fifth second replaced that of the tenth, and the
resumption clears it. -/
theorem latest_withdrawal_lost :
    ¬ (System.run Drill.outOfOrder (System.start Drill.tables)).LatestWins := by
  intro wins
  obtain ⟨row, found, active⟩ := wins Drill.withdrawal (by decide +kernel) rfl (by decide +kernel)
  have inactive : ((System.run Drill.outOfOrder
      (System.start Drill.tables)).tables.suppressions.lookup Drill.withdrawal.key).map
        Suppression.active = some false := by
    decide +kernel
  rw [found, Option.map_some, active] at inactive
  cases inactive

end Zrotext.Inbound
