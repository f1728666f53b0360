import Zrotext.Abuse.Counters

/-!
# What an operation reads and writes

Every operation on a budget reads the counters of a few keys, each with a
window.  Its answer depends on nothing else, and it changes nothing else.
-/

namespace Zrotext.Abuse

open Foundation Delivery List Keyed

variable {δ : Type} [DecidableEq δ]

/-- The operations on budgets. -/
inductive Operation
  | consume (limit : Limit) (subject : Option Text)
  | consumeVerified (limit : Limit) (subject : Text)
  | consumeVerifiedRoute (limit : Limit)
  | consumeStorageBudget (accountId deviceId : Uuid)
  | consumeConsentBudget (deviceId : Uuid)
  | recordFailure (limit : Limit) (subject : Text)
  | failureBudgetOpen (limit : Limit) (subject : Text)
  | subjectBudgetOpen (limit : Limit) (subject : Text) (lane : Lane)
deriving DecidableEq

/-- What an operation answers. -/
inductive Answer
  | decided (allowed : Bool)
  | recorded
  | rejected (violation : Violation)
deriving DecidableEq

/-- The answer that a charge gives. -/
def Answer.ofCharge : Except Violation Bool → Answer
  | .ok allowed => .decided allowed
  | .error violation => .rejected violation

/-- The answer that a record gives. -/
def Answer.ofRecord : Except Violation Unit → Answer
  | .ok _ => .recorded
  | .error violation => .rejected violation

/-- Perform an operation at a time. -/
def Operation.perform (hasher : Hasher δ) (operation : Operation) (now : Time)
    (counters : Counters δ) : Answer × Counters δ :=
  match operation with
  | .consume limit subject =>
    (Abuse.consume hasher limit subject now counters).map .ofCharge id
  | .consumeVerified limit subject =>
    (Abuse.consumeVerified hasher limit subject now counters).map .ofCharge id
  | .consumeVerifiedRoute limit =>
    (Abuse.consumeVerifiedRoute hasher limit now counters).map .ofCharge id
  | .consumeStorageBudget accountId deviceId =>
    (Abuse.consumeStorageBudget hasher accountId deviceId now counters).map .ofCharge id
  | .consumeConsentBudget deviceId =>
    (Abuse.consumeConsentBudget hasher deviceId now counters).map .ofCharge id
  | .recordFailure limit subject =>
    (Abuse.recordFailure hasher limit subject now counters).map .ofRecord id
  | .failureBudgetOpen limit subject =>
    (.decided (Abuse.failureBudgetOpen hasher limit subject now counters), counters)
  | .subjectBudgetOpen limit subject lane =>
    (.decided (Abuse.subjectBudgetOpen hasher limit subject lane now counters), counters)

/-- What an operation does with the counters. -/
inductive Access (δ : Type)
  | consume (call : Call δ)
  | record (key : Key δ) (window : Int)
  | read (key : Key δ) (budget : Budget)

namespace Access

/-- Perform an access at a time. -/
def perform (access : Access δ) (now : Time) (counters : Counters δ) : Answer × Counters δ :=
  match access with
  | .consume call => (authAbuseConsume call now counters).map .ofCharge id
  | .record key window =>
    match upsert (fun _ => true) key window now counters with
    | .error violation => (.rejected violation, counters)
    | .ok none => (.recorded, counters)
    | .ok (some after) => (.recorded, after)
  | .read key budget =>
    (.decided (decide (attemptsInWindow key budget.2 now counters < budget.1)), counters)

/-- The keys that an access uses, with their windows. -/
def uses : Access δ → List (Key δ × Int)
  | .consume call =>
    (call.globalKey, call.globalSeconds) :: call.subjectHash.toList.map fun hash =>
        ((call.scope, hash), call.subjectSeconds)
  | .record key window => [(key, window)]
  | .read key budget => [(key, budget.2)]

end Access

/-- The access of an operation. -/
def Operation.access (hasher : Hasher δ) : Operation → Access δ
  | .consume limit subject =>
    .consume (chargeCall hasher limit subject .anonymous)
  | .consumeVerified limit subject =>
    .consume (chargeCall hasher limit (some subject) .verified)
  | .consumeVerifiedRoute limit =>
    .consume (chargeCall hasher limit none .verified)
  | .consumeStorageBudget accountId deviceId =>
    .consume (storageCall hasher accountId deviceId)
  | .consumeConsentBudget deviceId => .consume (consentCall hasher deviceId)
  | .recordFailure limit subject =>
    let failures := failureSubject hasher limit subject
    .record failures.1 failures.2.2
  | .failureBudgetOpen limit subject =>
    let failures := failureSubject hasher limit subject
    .read failures.1 failures.2
  | .subjectBudgetOpen limit subject lane =>
    .read (limit.scope, (subjectHash hasher limit subject lane).getD hasher.zeros)
      ((limit.subjectPolicy lane).getD (0, 0))

theorem Operation.perform_eq (hasher : Hasher δ) (operation : Operation) (now : Time)
    (counters : Counters δ) : operation.perform hasher now counters =
      (operation.access hasher).perform now counters := by
  cases operation with
  | recordFailure limit subject =>
    unfold perform access Access.perform Abuse.recordFailure
    simp only
    cases upsert (fun _ => true) (failureSubject hasher limit subject).1
        (failureSubject hasher limit subject).2.2 now counters with
    | error violation => rfl
    | ok after => cases after <;> rfl
  | _ => rfl

section Charge

variable {key : Key δ} {counters after : Counters δ}

omit [DecidableEq δ] in
theorem key_charged (isKey : ∀ counter ∈ current, counter.key = key) :
    (charged key window now current).key = key := by
  cases current with
  | none => rfl
  | some counter => exact isKey counter rfl

theorem key_charged_lookup : (charged key window now (counters.lookup key)).key = key :=
  key_charged fun _ found => (lookup_eq_some_iff.mp found).2

/-- What it means that a charge was made. -/
theorem upsert_eq_some_iff : upsert room key window now counters = .ok (some after) ↔
      validScope key.1 ∧ (counters.lookup key).all room ∧
        (charged key window now (counters.lookup key)).attempts ≤ maxInteger ∧
        after = counters.put (charged key window now (counters.lookup key)) := by
  unfold upsert
  simp only
  split_ifs with invalid full large
  · simp at invalid
    simp [invalid]
  · simp only [Bool.not_eq_true'] at full
    simp [full]
  · simp [not_le.mpr large]
  · simp only [Bool.not_eq_true', Bool.not_eq_false] at invalid full
    simp [invalid, full, not_lt.mp large, eq_comm]

theorem lookup_upsert (isAfter : upsert room key window now counters = .ok (some after))
    (sought : Key δ) : after.lookup sought =
      if sought = key then some (charged key window now (counters.lookup key))
      else counters.lookup sought := by
  rw [(upsert_eq_some_iff.mp isAfter).2.2.2, lookup_put, key_charged_lookup]

end Charge

section Congruence

variable {full : Counters δ}

/-- A charge sees no difference: the counter is the same, or it is missing in
one table and its window is over in the other. -/
def Alike (window : Int) (now : Time) (pruned full : Option (Counter δ)) : Prop := pruned = full ∨
    (pruned = none ∧ ∃ counter, full = some counter ∧ counter.isOver window now = true)

/-- Each counter is as it was in both tables, or the same in both. -/
def Together (pruned full prunedAfter fullAfter : Counters δ) : Prop :=
  ∀ key, (prunedAfter.lookup key = pruned.lookup key ∧ fullAfter.lookup key = full.lookup key) ∨
    prunedAfter.lookup key = fullAfter.lookup key

theorem Together.refl : Together pruned full pruned full := fun _ => .inl ⟨rfl, rfl⟩

theorem Together.trans (first : Together pruned full prunedAfter fullAfter)
    (second : Together prunedAfter fullAfter prunedLater fullLater) :
    Together pruned full prunedLater fullLater := by
  intro key
  rcases second key with ⟨samePruned, sameFull⟩ | same
  · rw [samePruned, sameFull]
    exact first key
  · exact .inr same

theorem Together.alike (together : Together pruned full prunedAfter fullAfter)
    (alike : Alike window now (pruned.lookup key) (full.lookup key)) :
    Alike window now (prunedAfter.lookup key) (fullAfter.lookup key) := by
  rcases together key with ⟨samePruned, sameFull⟩ | same
  · rw [samePruned, sameFull]
    exact alike
  · exact .inl same

omit [DecidableEq δ] in
theorem Alike.all_hasRoom (alike : Alike budget.2 now first second) :
    first.all (Counter.hasRoom budget now) =
      second.all (Counter.hasRoom budget now) := by
  rcases alike with rfl | ⟨rfl, counter, rfl, ended⟩
  · rfl
  · simp [Counter.hasRoom, ended]

omit [DecidableEq δ] in
/-- A charge does the same to counters that it cannot tell apart. -/
theorem Alike.charged (alike : Alike window now first second)
    (isKey : ∀ counter ∈ second, counter.key = key) :
    charged key window now first = Abuse.charged key window now second := by
  rcases alike with rfl | ⟨rfl, counter, rfl, ended⟩
  · rfl
  · change Counter.fresh key now = counter.renewed window now
    rw [Counter.renewed_of_isOver ended, isKey counter rfl]

/-- The same result, with tables that stay together. -/
inductive SameCharge (pruned full : Counters δ) : Except Violation (Option (Counters δ)) →
      Except Violation (Option (Counters δ)) → Prop
  | rejected (violation : Violation) : SameCharge pruned full (.error violation) (.error violation)
  | refused : SameCharge pruned full (.ok none) (.ok none)
  | charged {prunedAfter fullAfter : Counters δ} : Together pruned full prunedAfter fullAfter →
      SameCharge pruned full (.ok (some prunedAfter)) (.ok (some fullAfter))

theorem upsert_congr (alike : Alike window now (pruned.lookup key) (full.lookup key))
    (sameRoom : (pruned.lookup key).all room = (full.lookup key).all room) :
    SameCharge pruned full (upsert room key window now pruned)
      (upsert room key window now full) := by
  have sameNext := alike.charged fun _ found => (lookup_eq_some_iff.mp found).2
  unfold upsert
  simp only [sameNext, sameRoom]
  split_ifs
  · exact .rejected _
  · exact .refused
  · exact .rejected _
  · refine .charged fun other => ?_
    simp only [lookup_put, key_charged_lookup]
    split_ifs
    · exact .inr rfl
    · exact .inl ⟨rfl, rfl⟩

theorem Call.chargeSubject_congr {call : Call δ}
    (alike : ∀ hash ∈ call.subjectHash, Alike call.subjectSeconds now
      (pruned.lookup (call.scope, hash)) (full.lookup (call.scope, hash))) :
    SameCharge pruned full (call.chargeSubject now pruned) (call.chargeSubject now full) := by
  unfold Call.chargeSubject
  cases isSubject : call.subjectHash with
  | none => exact .charged .refl
  | some hash =>
    exact upsert_congr (alike hash isSubject) (Alike.all_hasRoom (alike hash isSubject))

theorem authAbuseConsume_congr {call : Call δ}
    (alike : Alike call.globalSeconds now (pruned.lookup call.globalKey)
      (full.lookup call.globalKey))
    (subjectAlike : ∀ hash ∈ call.subjectHash, Alike call.subjectSeconds now
      (pruned.lookup (call.scope, hash)) (full.lookup (call.scope, hash))) :
    (authAbuseConsume call now pruned).1 = (authAbuseConsume call now full).1 ∧
      Together pruned full (authAbuseConsume call now pruned).2
        (authAbuseConsume call now full).2 := by
  have sameRoom : (pruned.lookup call.globalKey).all
      (Counter.hasRoom call.globalBudget now) = _ := Alike.all_hasRoom alike
  unfold authAbuseConsume
  rw [sameRoom]
  split_ifs
  · exact ⟨rfl, .refl⟩
  · have sameSubject := Call.chargeSubject_congr subjectAlike
    generalize call.chargeSubject now pruned = prunedSubject,
      call.chargeSubject now full = fullSubject at sameSubject ⊢
    cases sameSubject with
    | rejected | refused => exact ⟨rfl, .refl⟩
    | @charged prunedCharged fullCharged together =>
      have chargedAlike := together.alike alike
      have sameGlobal : SameCharge prunedCharged fullCharged (call.chargeGlobal now prunedCharged)
          (call.chargeGlobal now fullCharged) :=
        upsert_congr chargedAlike (Alike.all_hasRoom chargedAlike)
      simp only
      generalize call.chargeGlobal now prunedCharged = prunedGlobal,
        call.chargeGlobal now fullCharged = fullGlobal at sameGlobal ⊢
      cases sameGlobal with
      | rejected | refused => exact ⟨rfl, .refl⟩
      | charged later => exact ⟨rfl, together.trans later⟩

/-- An access answers the same for tables that it cannot tell apart. -/
theorem Access.perform_congr {access : Access δ} (alike : ∀ use ∈ access.uses,
      Alike use.2 now (pruned.lookup use.1) (full.lookup use.1)) :
    (access.perform now pruned).1 = (access.perform now full).1 ∧
      Together pruned full (access.perform now pruned).2 (access.perform now full).2 := by
  cases access with
  | consume call =>
    have same := authAbuseConsume_congr (alike _ mem_cons_self)
      fun hash isSubject => alike ((call.scope, hash), call.subjectSeconds)
        (mem_cons_of_mem _ (mem_map.mpr ⟨hash, Option.mem_toList.mpr isSubject, rfl⟩))
    exact ⟨congrArg Answer.ofCharge same.1, same.2⟩
  | record key window =>
    have same : SameCharge pruned full (upsert (fun _ => true) key window now pruned)
        (upsert (fun _ => true) key window now full) :=
      upsert_congr (alike (key, window) mem_cons_self) (by simp)
    unfold perform
    simp only
    generalize upsert (fun _ => true) key window now pruned = first,
      upsert (fun _ => true) key window now full = second at same ⊢
    cases same with
    | rejected | refused => exact ⟨rfl, .refl⟩
    | charged together => exact ⟨rfl, together⟩
  | read key budget =>
    refine ⟨?_, .refl⟩
    have same : attemptsInWindow key budget.2 now pruned =
        attemptsInWindow key budget.2 now full := by
      unfold attemptsInWindow
      rcases alike (key, budget.2) mem_cons_self with
        same | ⟨missing, counter, present, ended⟩
      · rw [same]
      · rw [missing, present]
        simp [ended]
    simp only [perform, same]

end Congruence

section Frames

variable {counters : Counters δ}

/-- An admitted call charges both counters, any other call none. -/
theorem authAbuseConsume_spec (call : Call δ) (now : Time) (counters : Counters δ) :
    if (authAbuseConsume call now counters).1 = .ok true then
      ∃ charged, call.chargeSubject now counters = .ok (some charged) ∧
        call.chargeGlobal now charged = .ok (some (authAbuseConsume call now counters).2)
    else (authAbuseConsume call now counters).2 = counters := by
  unfold authAbuseConsume
  split
  · simp
  · cases isCharged : call.chargeSubject now counters with
    | error violation => simp
    | ok result =>
      cases result with
      | none => simp
      | some charged =>
        cases isAfter : call.chargeGlobal now charged with
        | error violation => simp [isAfter]
        | ok after => cases after <;> simp [isAfter]

theorem authAbuseConsume_of_true (admitted : (authAbuseConsume call now counters).1 = .ok true) :
    ∃ charged, call.chargeSubject now counters = .ok (some charged) ∧
      call.chargeGlobal now charged = .ok (some (authAbuseConsume call now counters).2) := by
  simpa only [if_pos admitted] using authAbuseConsume_spec call now counters

theorem authAbuseConsume_of_not_true (refused : (authAbuseConsume call now counters).1 ≠ .ok true) :
    (authAbuseConsume call now counters).2 = counters := by
  simpa only [if_neg refused] using authAbuseConsume_spec call now counters

theorem lookup_authAbuseConsume {call : Call δ} (notGlobal : sought ≠ call.globalKey)
    (notSubject : ∀ hash ∈ call.subjectHash, sought ≠ (call.scope, hash)) :
    (authAbuseConsume call now counters).2.lookup sought = counters.lookup sought := by
  by_cases admitted : (authAbuseConsume call now counters).1 = .ok true
  · obtain ⟨charged, isCharged, isAfter⟩ := authAbuseConsume_of_true admitted
    rw [lookup_upsert isAfter, if_neg notGlobal]
    unfold Call.chargeSubject at isCharged
    cases isSubject : call.subjectHash with
    | none =>
      rw [isSubject] at isCharged
      cases isCharged
      rfl
    | some hash =>
      rw [isSubject] at isCharged
      rw [lookup_upsert isCharged, if_neg (notSubject hash isSubject)]
  · rw [authAbuseConsume_of_not_true admitted]

theorem Access.lookup_perform {access : Access δ} (unused : ∀ use ∈ access.uses, sought ≠ use.1) :
    (access.perform now counters).2.lookup sought = counters.lookup sought := by
  cases access with
  | consume call =>
    refine lookup_authAbuseConsume (unused _ mem_cons_self) ?_
    exact fun hash isSubject => unused ((call.scope, hash), call.subjectSeconds)
      (mem_cons_of_mem _ (mem_map.mpr ⟨hash, Option.mem_toList.mpr isSubject, rfl⟩))
  | record key window =>
    unfold perform
    simp only
    cases isAfter : upsert (fun _ => true) key window now counters with
    | error violation => rfl
    | ok result =>
      cases result with
      | none => rfl
      | some after =>
        rw [lookup_upsert isAfter, if_neg (unused (key, window) mem_cons_self)]
  | read key budget => rfl

/-- What holds of every counter and of every charge of one holds of every
counter after an access. -/
theorem Access.forall_perform {access : Access δ} {holds : Counter δ → Prop}
    (fresh : ∀ key, holds (.fresh key now)) (renewed : ∀ window counter, holds counter →
      holds (counter.renewed window now))
    (before : ∀ counter ∈ counters.rows, holds counter) :
    ∀ counter ∈ (access.perform now counters).2.rows, holds counter := by
  have upserted : ∀ {room key window} {counters after : Counters δ},
      upsert room key window now counters = .ok (some after) →
      (∀ counter ∈ counters.rows, holds counter) →
      ∀ counter ∈ after.rows, holds counter := by
    intro room key window counters after isAfter before counter present
    rw [(upsert_eq_some_iff.mp isAfter).2.2.2, mem_put_iff] at present
    rcases present with rfl | ⟨old, _⟩
    · cases found : counters.lookup key with
      | none => exact fresh key
      | some current =>
        exact renewed window current (before current (lookup_eq_some_iff.mp found).1)
    · exact before counter old
  cases access with
  | consume call =>
    change ∀ counter ∈ (authAbuseConsume call now counters).2.rows, _
    by_cases admitted : (authAbuseConsume call now counters).1 = .ok true
    · obtain ⟨charged, isCharged, isAfter⟩ := authAbuseConsume_of_true admitted
      refine upserted isAfter ?_
      unfold Call.chargeSubject at isCharged
      cases isSubject : call.subjectHash with
      | none =>
        rw [isSubject] at isCharged
        cases isCharged
        exact before
      | some hash =>
        rw [isSubject] at isCharged
        exact upserted isCharged before
    · rw [authAbuseConsume_of_not_true admitted]
      exact before
  | record key window =>
    unfold perform
    simp only
    cases isAfter : upsert (fun _ => true) key window now counters with
    | error violation => exact before
    | ok result =>
      cases result with
      | none => exact before
      | some after => exact upserted isAfter before
  | read key budget => exact before

end Frames

end Zrotext.Abuse
