import Zrotext.Provider.Dispatch

/-!
# What transactions do to attempts

A transaction adds one attempt, or it advances the attempts that are there: an
attempt keeps its action, a live one keeps what it commits to, and one that was
leased is never intended again.
-/

namespace Zrotext.Provider

open Foundation Delivery Fallible Option SendAttempts

namespace SendAttempt

/-- A row and a later version of it. -/
structure Follows (old new : SendAttempt) : Prop where
  key : new.key = old.key
  actionKey : new.actionKey = old.actionKey
  live : new.erasedAt = none → old.erasedAt = none ∧ new.requestDigest = old.requestDigest
  spent : old.state ≠ some .intended → new.state ≠ some .intended

theorem Follows.refl (row : SendAttempt) : row.Follows row where
  key := rfl
  actionKey := rfl
  live := fun isLive => ⟨isLive, rfl⟩
  spent := id

theorem Follows.trans {first : SendAttempt} (begins : first.Follows second)
    (goesOn : second.Follows third) : first.Follows third where
  key := goesOn.key.trans begins.key
  actionKey := goesOn.actionKey.trans begins.actionKey
  live := by
    intro isLive
    obtain ⟨secondLive, sameDigest⟩ := goesOn.live isLive
    obtain ⟨firstLive, otherDigest⟩ := begins.live secondLive
    exact ⟨firstLive, sameDigest.trans otherDigest⟩
  spent := goesOn.spent ∘ begins.spent

theorem eq_intended_of_movesTo {state : SendState} (moves : movesTo state .intended) :
    state = .intended := by
  cases state <;> first | rfl | cases moves

/-- The trigger lets a live row be followed only by a later version. -/
theorem Follows.of_allows {old : SendAttempt}
    (allowed : old.allows nowMs new) (isLive : new.erasedAt = none) : old.Follows new := by
  unfold allows at allowed
  rw [isLive] at allowed
  simp only [Bool.and_eq_true, isNone_iff_eq_none, decide_eq_true_eq,
    isSome_none, Bool.false_eq_true, if_false] at allowed
  obtain ⟨⟨oldLive, sameKey⟩, changes⟩ := allowed
  unfold allowsChange at changes
  simp only [Bool.and_eq_true, decide_eq_true_eq] at changes
  obtain ⟨⟨⟨⟨⟨⟨sameCommitment, _⟩, _⟩, _⟩, _⟩, moves⟩, _⟩ := changes
  have sameAction : new.actionId = old.actionId := congrArg Commitment.actionId sameCommitment
  have sameRevision : new.actionRevision = old.actionRevision :=
    congrArg Commitment.actionRevision sameCommitment
  have sameAccount : new.accountId = old.accountId := congrArg Prod.fst sameKey
  refine ⟨sameKey, ?_, fun _ => ⟨oldLive, ?_⟩, ?_⟩
  · unfold SendAttempt.actionKey
    rw [sameAccount, sameAction, sameRevision]
  · exact congrArg Commitment.requestDigest sameCommitment
  · intro isSpent isIntended
    rw [isIntended] at moves
    cases isState : old.state with
    | none =>
      rw [isState] at moves
      cases moves
    | some state =>
      rw [isState] at moves
      exact isSpent (isState.trans (congrArg some (eq_intended_of_movesTo moves)))

end SendAttempt

namespace SendAttempts

theorem mem_of_lookup {attempts : SendAttempts}
    (found : attempts.lookup account attempt = some row) :
    row ∈ attempts.rows ∧ row.key = (account, attempt) :=
  Keyed.lookup_eq_some_iff.mp found

/-- The rows under the keys of their actions. -/
def byAction (attempts : SendAttempts) : Keyed SendAttempt.actionKey :=
  ⟨attempts.rows, attempts.distinctActions⟩

theorem lookupAction_eq_some_iff {attempts : SendAttempts} : attempts.lookupAction key = some row ↔
      row ∈ attempts.rows ∧ row.actionKey = key := by
  change attempts.byAction.lookup key = some row ↔ _
  exact Keyed.lookup_eq_some_iff

/-- The rows of a table have become those of another. -/
structure Advances (before after : SendAttempts) : Prop where
  kept : ∀ row ∈ before.rows, ∃ new ∈ after.rows, row.Follows new
  origin : ∀ new ∈ after.rows, ∃ row ∈ before.rows, row.Follows new

theorem Advances.refl (attempts : SendAttempts) : attempts.Advances attempts where
  kept := fun row present => ⟨row, present, .refl row⟩
  origin := fun row present => ⟨row, present, .refl row⟩

theorem Advances.trans {first : SendAttempts} (begins : first.Advances second)
    (goesOn : second.Advances third) : first.Advances third where
  kept := by
    intro row present
    obtain ⟨new, isNew, follows⟩ := begins.kept row present
    obtain ⟨last, isLast, followsOn⟩ := goesOn.kept new isNew
    exact ⟨last, isLast, follows.trans followsOn⟩
  origin := by
    intro last isLast
    obtain ⟨new, isNew, followsOn⟩ := goesOn.origin last isLast
    obtain ⟨row, present, follows⟩ := begins.origin new isNew
    exact ⟨row, present, follows.trans followsOn⟩

/-- A leased or erased attempt stays so. -/
theorem Advances.spent {before : SendAttempts} (advances : before.Advances after)
    (isSpent : ∃ row ∈ before.rows, row.key = key ∧
      row.state ≠ some .intended) :
    ∃ row ∈ after.rows, row.key = key ∧ row.state ≠ some .intended := by
  obtain ⟨row, present, isKey, notIntended⟩ := isSpent
  obtain ⟨new, isNew, follows⟩ := advances.kept row present
  exact ⟨new, isNew, follows.key.trans isKey, follows.spent notIntended⟩

variable {attempts : SendAttempts}

theorem put_eq_ok (result : attempts.put row = .ok after) :
    after.table = attempts.table.put row := by
  unfold put at result
  simp only at result
  split at result
  · cases result
    rfl
  · cases result

theorem mem_rows_of_put (result : attempts.put row = .ok after) :
    other ∈ after.rows ↔ other = row ∨ other ∈ attempts.rows ∧ other.key ≠ row.key := by
  unfold rows
  rw [put_eq_ok result]
  exact Keyed.mem_put_iff

theorem Advances.of_put (present : old ∈ attempts.rows) (follows : old.Follows new)
    (result : attempts.put new = .ok after) : attempts.Advances after where
  kept := by
    intro row isRow
    by_cases sameKey : row.key = old.key
    · have same : row = old := attempts.table.eq_of_key isRow present sameKey
      exact ⟨new, (mem_rows_of_put result).mpr (.inl rfl), same ▸ follows⟩
    · refine ⟨row, (mem_rows_of_put result).mpr (.inr ⟨isRow, ?_⟩), .refl row⟩
      rwa [follows.key]
  origin := by
    intro row isRow
    rcases (mem_rows_of_put result).mp isRow with rfl | ⟨isOld, _⟩
    · exact ⟨old, present, follows⟩
    · exact ⟨row, isOld, .refl row⟩

theorem update_eq_ok (result : attempts.update nowMs old new = .ok after) :
    old.allows nowMs new ∧ attempts.put new = .ok after := by
  simp only [update, bind_eq_ok] at result
  obtain ⟨_, allowed, _, _, result⟩ := result
  exact ⟨require_eq_ok.mp allowed, result⟩

/-- A change of a live row advances the table. -/
theorem Advances.of_update (present : old ∈ attempts.rows)
    (result : attempts.update nowMs old new = .ok after) (isLive : new.erasedAt = none) :
    attempts.Advances after := by
  obtain ⟨allowed, isPut⟩ := update_eq_ok result
  exact .of_put present (.of_allows allowed isLive) isPut

end SendAttempts

/-- The attempt of a lease was intended, and is so no longer. -/
def Spends (account : Uuid) (attempts after : SendAttempts) (lease : Lease) : Prop :=
  (∃ row ∈ attempts.rows, row.key = (account, lease.attemptId) ∧ row.state = some .intended) ∧
    ∃ row ∈ after.rows, row.key = (account, lease.attemptId) ∧ row.state ≠ some .intended

/-- A lease goes to an attempt that is still intended, and only once. -/
theorem leaseOne_eq_ok (result : leaseOne surroundings account lease attempts = .ok after) :
    attempts.Advances after ∧ Spends account attempts after lease := by
  obtain ⟨row, isRow, result⟩ := bind_eq_ok.mp result
  obtain ⟨found, claimable⟩ := filter_eq_some_iff.mp (demand_eq_ok.mp isRow)
  obtain ⟨present, isKey⟩ := mem_of_lookup found
  unfold SendAttempt.isClaimable at claimable
  simp only [Bool.and_eq_true, decide_eq_true_eq, isNone_iff_eq_none] at claimable
  obtain ⟨⟨_, isIntended⟩, isLive⟩ := claimable
  obtain ⟨_, isPut⟩ := update_eq_ok result
  refine ⟨.of_update present result isLive, ⟨row, present, isKey, isIntended⟩,
    _, (mem_rows_of_put isPut).mpr (.inl rfl), isKey, ?_⟩
  exact nofun

/-- Leases are drawn for attempts that were intended and are so no longer. -/
theorem leaseAll_eq_ok {leases : List Lease} (result : leases.foldlM
      (fun table lease => leaseOne surroundings account lease table) attempts = .ok after) :
    attempts.Advances after ∧ ∀ lease ∈ leases, Spends account attempts after lease := by
  induction leases generalizing attempts with
  | nil =>
    cases result
    exact ⟨.refl _, nofun⟩
  | cons first rest ih =>
    rw [List.foldlM_cons] at result
    obtain ⟨middle, isMiddle, result⟩ := bind_eq_ok.mp result
    obtain ⟨begins, firstIntended, firstSpent⟩ := leaseOne_eq_ok isMiddle
    obtain ⟨goesOn, others⟩ := ih result
    refine ⟨begins.trans goesOn, List.forall_mem_cons.mpr
      ⟨⟨firstIntended, goesOn.spent firstSpent⟩, fun lease isOther => ?_⟩⟩
    obtain ⟨⟨row, present, isKey, isIntended⟩, isSpent⟩ := others lease isOther
    obtain ⟨old, isOld, follows⟩ := begins.origin row present
    refine ⟨⟨old, isOld, follows.key.symm.trans isKey, ?_⟩, isSpent⟩
    by_contra notIntended
    exact follows.spent notIntended isIntended

theorem claimIntended_eq_ok (result : claimIntended surroundings permit account limit locked drawn
      attempts = .ok (leases, after)) :
    attempts.Advances after ∧ ∀ lease ∈ leases, Spends account attempts after lease := by
  simp only [claimIntended, bind_eq_ok] at result
  obtain ⟨_, _, _, _, _, _, final, isFinal, ⟨⟩⟩ := result
  exact leaseAll_eq_ok isFinal

theorem setState_eq_ok (present : row ∈ attempts.rows) (isLive : row.erasedAt = none)
    (result : setState surroundings row state message setResolved attempts =
      .ok (recorded, after)) :
    attempts.Advances after := by
  simp only [setState, bind_eq_ok] at result
  obtain ⟨_, _, final, isFinal, ⟨⟩⟩ := result
  exact .of_update present isFinal isLive

theorem respond_eq_ok (present : row ∈ attempts.rows)
    (isLive : row.erasedAt = none) (result : respond surroundings row outcome attempts =
      .ok (recorded, after)) :
    attempts.Advances after := by
  unfold respond at result
  split at result
  case h_3 =>
    split at result
    · cases result
      exact .refl attempts
    · cases result
  all_goals first
    | exact setState_eq_ok present isLive result
    | (cases result; exact .refl attempts)
    | cases result

theorem recordResponse_eq_ok (result : recordResponse surroundings permit account attempt outcome
      attempts = .ok (recorded, after)) :
    attempts.Advances after := by
  simp only [recordResponse, bind_eq_ok] at result
  obtain ⟨_, _, _, _, _, _, _, _, row, isRow, result⟩ := result
  obtain ⟨found, isLive⟩ := filter_eq_some_iff.mp (demand_eq_ok.mp isRow)
  exact respond_eq_ok (mem_of_lookup found).1
    (isNone_iff_eq_none.mp isLive) result

theorem eraseAttempt_eq_ok (result : eraseAttempt nowMs now account attempt attempts = .ok after) :
    attempts.Advances after := by
  obtain ⟨row, isRow, result⟩ := bind_eq_ok.mp result
  have present := (mem_of_lookup (demand_eq_ok.mp isRow)).1
  obtain ⟨_, isPut⟩ := update_eq_ok result
  refine .of_put present ?_ isPut
  exact ⟨rfl, rfl, nofun, nofun⟩

theorem SendAttempts.insert_eq_ok {attempts : SendAttempts}
    (result : attempts.insert row = .ok inserted) :
    (∃ known, attempts.lookupAction row.actionKey = some known ∧ inserted = none) ∨
    ∃ after, inserted = some after ∧ attempts.lookupAction row.actionKey = none ∧
      (∀ known ∈ attempts.rows, known.key ≠ row.key) ∧
      ∀ other, other ∈ after.rows ↔ other ∈ attempts.rows ∨ other = row := by
  obtain ⟨_, _, result⟩ := bind_eq_ok.mp result
  split at result
  case h_1 known found =>
    cases result
    exact .inl ⟨known, found, rfl⟩
  case h_2 absent =>
    simp only [bind_eq_ok] at result
    obtain ⟨_, isNew, after, isPut, ⟨⟩⟩ := result
    have noKey : ∀ known ∈ attempts.rows, known.key ≠ row.key := Keyed.lookup_eq_none_iff.mp
        (isNone_iff_eq_none.mp (require_eq_ok.mp isNew))
    refine .inr ⟨after, rfl, absent, noKey, fun other => ?_⟩
    rw [mem_rows_of_put isPut]
    constructor
    · rintro (isRow | ⟨isOld, _⟩)
      · exact .inr isRow
      · exact .inl isOld
    · rintro (isOld | isRow)
      · exact .inr ⟨isOld, noKey other isOld⟩
      · exact .inl isRow

namespace Rehearsal

def sha256 (_ : Bytes) : Bytes := List.replicate 32 0

def request : Request :=
  { route :=
      { account := 1, organization := 2, profile := 3, sender := "+15550100001".toList
        revision := 1 }
    recipient := List.replicate 32 0, digest := List.replicate 32 0 }

def reservation : Reservation :=
  { actionId := 5, revision := 1, bindingDigest := List.replicate 32 0, executing := true
    leaseUntilMs := some 90000, isProvider := true, policyEnabled := true, deploymentEnabled := true
    periodStartMs := 0, periodEndMs := 100000 }

def surroundings : Surroundings :=
  { epoch := 1
    site := fun _ => some (true, false)
    inRecovery := false
    accountExists := fun _ => true
    suppressed := fun _ _ _ => false
    reservation := fun _ _ => some reservation
    nowMs := 1000, now := 1000000 }

def permit : ElectedWriterPermit := ⟨1, "a".toList, 1⟩

/-- The intent to send one revision of one action, under an identifier. -/
def intent (attemptId : Uuid) : Intent :=
  { permit, action := ⟨1, 5, 1, List.replicate 32 0⟩
    reservation := 7, attemptId, request, recipientE164 := "+15550100002".toList }

/-- The table after the first commit. -/
def stored : SendAttempts where
  table := ⟨[(intent 11).row sha256 surroundings], by decide⟩
  distinctActions := by decide
  distinctMessages := by decide

end Rehearsal

/-- A committed intent is a new row, or it repeats the row of its action. -/
theorem commitSubmitIntent_eq_ok (result : commitSubmitIntent sha256 surroundings intent attempts =
      .ok (outcome, after)) :
    (outcome = ⟨intent.attemptId, true⟩ ∧
      attempts.lookupAction (intent.row sha256 surroundings).actionKey = none ∧
      (∀ known ∈ attempts.rows, known.key ≠ (intent.row sha256 surroundings).key) ∧
      ∀ other, other ∈ after.rows ↔
        other ∈ attempts.rows ∨ other = intent.row sha256 surroundings) ∨
    (outcome = ⟨intent.attemptId, false⟩ ∧ after = attempts ∧ ∃ row, attempts.lookupAction
        (intent.row sha256 surroundings).actionKey = some row ∧
        intent.replays sha256 row = .ok ()) := by
  simp only [commitSubmitIntent, bind_eq_ok] at result
  obtain ⟨_, _, inserted, isInserted, result⟩ := result
  rcases insert_eq_ok isInserted with
    ⟨known, found, rfl⟩ | ⟨added, rfl, absent, noKey, isRow⟩
  · simp only [bind_eq_ok] at result
    obtain ⟨row, isRow, _, replays, ⟨⟩⟩ := result
    exact .inr ⟨rfl, rfl, row, demand_eq_ok.mp isRow, replays⟩
  · cases result
    exact .inl ⟨rfl, absent, noKey, isRow⟩

/-- A commit names the stored attempt exactly if the action had no attempt
before, or one with the identifier of the caller. -/
theorem commit_names_stored_attempt_iff
    (result : commitSubmitIntent sha256 surroundings intent attempts = .ok (outcome, after)) :
    (after.lookupAction (intent.row sha256 surroundings).actionKey).map
        SendAttempt.attemptId = some outcome.attemptId ↔
      ∀ row, attempts.lookupAction (intent.row sha256 surroundings).actionKey = some row →
          row.attemptId = intent.attemptId := by
  rcases commitSubmitIntent_eq_ok result with
    ⟨rfl, absent, _, isRow⟩ | ⟨rfl, rfl, row, found, _⟩
  · have stored : after.lookupAction (intent.row sha256 surroundings).actionKey =
          some (intent.row sha256 surroundings) :=
      lookupAction_eq_some_iff.mpr ⟨(isRow _).mpr (.inr rfl), rfl⟩
    rw [stored, absent]
    exact ⟨fun _ _ impossible => (nomatch impossible), fun _ => rfl⟩
  · rw [found]
    constructor
    · intro same other isOther
      cases isOther
      exact some.inj same
    · intro same
      exact congrArg some (same row rfl)

/-- The commit is repeated with the same identifier. -/
theorem commit_names_stored_attempt_iff_same :
    (Rehearsal.stored.lookupAction (1, 5, 1)).map SendAttempt.attemptId = some 11 :=
  (commit_names_stored_attempt_iff (rfl : commitSubmitIntent Rehearsal.sha256 Rehearsal.surroundings
      (Rehearsal.intent 11) Rehearsal.stored = .ok (⟨11, false⟩, Rehearsal.stored))).mpr (by
    intro row found
    cases found
    rfl)

/-- A repeated commit with a new identifier returns that identifier, while the
stored attempt has the first one. -/
theorem commit_replay_names_other_attempt :
    commitSubmitIntent Rehearsal.sha256 Rehearsal.surroundings
        (Rehearsal.intent 11) .empty = .ok (⟨11, true⟩, Rehearsal.stored) ∧
      commitSubmitIntent Rehearsal.sha256 Rehearsal.surroundings
        (Rehearsal.intent 12) Rehearsal.stored = .ok (⟨12, false⟩, Rehearsal.stored) ∧
      (Rehearsal.stored.lookupAction (1, 5, 1)).map SendAttempt.attemptId ≠ some 12 :=
  ⟨rfl, rfl, by decide⟩

end Zrotext.Provider
