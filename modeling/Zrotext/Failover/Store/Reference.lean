import Zrotext.Failover.Store.Lifetime

/-!
# A store that never compacts

The reference store keeps every report.  Between opens whose freshness window
does not grow, the consensus store serves the same rounds as the reference
store at every time that no recorded report lies ahead of: compaction only ever
drops reports that have aged out of the window by then.
-/

namespace Zrotext.Failover

open Foundation Foundation.Program Foundation.Retention Function

/-- What a caller does with a store: record a report, or close it and open it
again. -/
inductive StoreStep
  | record (report : MemberReport)
  | reopen (members : List Text) (freshnessMs : U64)
deriving DecidableEq

/-- A store that keeps every report. -/
structure ReferenceStore where
  members : List Text
  observationFreshnessMs : U64
  logs : Logs
  failed : Bool

namespace ReferenceStore

/-- A new reference store. -/
def start (members : List Text) (freshnessMs : U64) : ReferenceStore :=
  { members, observationFreshnessMs := freshnessMs, logs := fun _ => []
    failed := false }

variable (store : ReferenceStore)

/-- Record a report.  The reference store takes what the consensus store takes:
a report of a known member, as long as the sequences last. -/
def record (report : MemberReport) : ReferenceStore :=
  if store.failed = true ∨ report.memberId ∉ store.members then
    store
  else if (store.logs report.memberId).length + 2 < 2 ^ 64 then
    { store with logs := pushLog store.logs report }
  else
    { store with failed := true }

/-- Take one step. -/
def step : StoreStep → ReferenceStore
  | .record report => store.record report
  | .reopen members freshnessMs =>
    { store with
      members, observationFreshnessMs := freshnessMs
      failed := false }

/-- Every fresh report, members in order and reports in append order. -/
def round (nowMs : U64) : Round :=
  if store.failed then
    { reports := [] }
  else
    { reports := store.members.flatMap fun member =>
        (store.logs member).filter fun report =>
          isFresh report.observedAtMs nowMs store.observationFreshnessMs }

end ReferenceStore

namespace ConsensusStore
namespace Session

/-- Open the directory of a session again. -/
def reopen (session : Session) (members : List Text) (freshnessMs : U64) : Option Session :=
  let outcome := interpret Disk.handler (openStore members freshnessMs).run session.disk
  match outcome.value with
  | .ok store => some { store, disk := outcome.environment }
  | .error _ => none

/-- Take one step; a record that fails leaves the session running. -/
def step (session : Session) : StoreStep → Option Session
  | .record report =>
    let outcome := interpret Disk.handler (session.store.record report) session.disk
    some { store := outcome.value.2, disk := outcome.environment }
  | .reopen members freshnessMs => session.reopen members freshnessMs

/-- Take steps one after the other. -/
def run : Session → List StoreStep → Option Session
  | session, [] => some session
  | session, step :: steps =>
    (session.step step).bind fun next => next.run steps

end Session
end ConsensusStore

/-- Every open uses the membership of the directory, in any order, and a window
that is not larger than that of the open before it. -/
def StepsAgree (membership : List Text) : U64 → List StoreStep → Prop
  | _, [] => True
  | freshnessMs, .record _ :: steps => StepsAgree membership freshnessMs steps
  | freshnessMs, .reopen members next :: steps =>
    members.Perm membership ∧ next ≤ freshnessMs ∧ StepsAgree membership next steps

/-- A store in step with the reference store: its directory holds the logs of
the reference store up to reports that have aged out of the window. -/
structure Mirrors (membership : List Text) (session : ConsensusStore.Session)
    (reference : ReferenceStore) : Prop where
  members : session.store.members = reference.members
  freshness : session.store.observationFreshnessMs = reference.observationFreshnessMs
  failed : session.store.failure.isSome = reference.failed
  holds : ∃ dropped, StoreHolds session.store session.disk membership reference.logs dropped ∧
      ∀ member, dropped member ≤ compactablePrefixLen (reference.logs member)
          reference.observationFreshnessMs

theorem compactedPrefix_eq (aged : dropped member ≤
    compactablePrefixLen (logs member) freshnessMs) :
    compactedPrefix logs freshnessMs dropped member =
      compactablePrefixLen (logs member) freshnessMs := by
  unfold compactedPrefix
  rw [compactablePrefixLen_eq] at aged
  rw [compactablePrefixLen_eq, compactablePrefixLen_eq, agedPrefix_drop aged]
  omega

theorem le_compactablePrefixLen_pushLog (aged : count ≤
    compactablePrefixLen (logs member) freshnessMs) (report : MemberReport) :
    count ≤ compactablePrefixLen (pushLog logs report member) freshnessMs := by
  unfold pushLog
  by_cases same : member = report.memberId
  · subst same
    rw [update_self]
    rw [compactablePrefixLen_eq] at aged ⊢
    exact aged.trans (agedPrefix_le_append _ _)
  · rw [update_of_ne same]
    exact aged

theorem Mirrors.recorded (mirrors : Mirrors membership session reference)
    (holds : StoreHolds session.store session.disk membership reference.logs dropped)
    (aged : ∀ member, dropped member ≤ compactablePrefixLen (reference.logs member)
        reference.observationFreshnessMs)
    (ends : RecordsTo session.store session.disk membership reference.logs
      dropped report outcome after) :
    Mirrors membership { store := outcome.2, disk := after } (reference.record report) := by
  obtain ⟨sameMembers, sameFreshness, sameFailed, _⟩ := mirrors
  have known : report.memberId ∈ reference.members ↔ report.memberId ∈ membership := by
    rw [← sameMembers]
    exact holds.members.mem_iff
  unfold ReferenceStore.record
  cases ends with
  | appended working listed fits appends =>
    obtain ⟨_, members, freshness, failure, next⟩ := appends
    have running : reference.failed = false := by
      rw [← sameFailed, working]
      rfl
    simp only [running, Bool.false_eq_true, false_or, known, listed,
      not_true_eq_false, if_false, fits, if_true]
    refine ⟨members.trans sameMembers, freshness.trans sameFreshness, ?_, _,
      next, ?_⟩
    · simp only [failure, working, Option.isSome_none]
    · intro member
      have pushed := le_compactablePrefixLen_pushLog (aged member) report
      by_cases same : member = report.memberId
      · subst same
        rw [update_self, sameFreshness, compactedPrefix_eq pushed]
      · rw [update_of_ne same]
        exact pushed
  | refused error reason =>
    have ignored : reference.failed ∨ report.memberId ∉ reference.members := by
      rw [← sameFailed, known]
      exact reason.imp_left Option.isSome_iff_ne_none.mpr
    rw [if_pos ignored]
    exact ⟨sameMembers, sameFreshness, sameFailed, dropped, holds, aged⟩
  | exhausted working listed fits =>
    have running : reference.failed = false := by
      rw [← sameFailed, working]
      rfl
    simp only [running, Bool.false_eq_true, false_or, known, listed,
      not_true_eq_false, if_false, fits]
    exact ⟨sameMembers, sameFreshness, rfl, dropped, holds.fail _, aged⟩

section

variable (valid : validateMembers membership = .ok ())

include valid

theorem Mirrors.opened (holds : DiskHolds disk membership logs dropped) {members : List Text}
    (permuted : members.Perm membership) (freshnessMs : U64) (aged : ∀ member, dropped member ≤
      compactablePrefixLen (logs member) freshnessMs) :
    ∃ store, (interpret Disk.handler
        (ConsensusStore.openStore members freshnessMs).run disk).value = .ok store ∧
      Mirrors membership
        { store
          disk := (interpret Disk.handler
            (ConsensusStore.openStore members freshnessMs).run
            disk).environment }
        { members, observationFreshnessMs := freshnessMs, logs
          failed := false } := by
  obtain ⟨store, opened, sameMembers, sameFreshness, working, storeHolds⟩ :=
    (openStore_endures valid permuted freshnessMs holds).interpret
  refine ⟨store, opened, sameMembers, sameFreshness, ?_, _, storeHolds, ?_⟩
  · rw [working]
    rfl
  · intro member
    exact (compactedPrefix_eq (aged member)).le

theorem Mirrors.step (mirrors : Mirrors membership session reference)
    (agree : StepsAgree membership reference.observationFreshnessMs (next :: steps)) :
    ∃ after, session.step next = some after ∧ Mirrors membership after (reference.step next) ∧
      StepsAgree membership (reference.step next).observationFreshnessMs steps := by
  obtain ⟨dropped, holds, aged⟩ := mirrors.holds
  cases next with
  | record report =>
    refine ⟨_, rfl, mirrors.recorded holds aged (record_endures valid holds report).interpret, ?_⟩
    change StepsAgree membership (reference.record report).observationFreshnessMs steps
    unfold ReferenceStore.record
    split_ifs <;> exact agree
  | reopen members freshnessMs =>
    obtain ⟨permuted, shrinks, rest⟩ := agree
    have agedNow : ∀ member, dropped member ≤
        compactablePrefixLen (reference.logs member) freshnessMs := by
      intro member
      have before := aged member
      rw [compactablePrefixLen_eq] at before ⊢
      exact before.trans (agedPrefix_le_of_window_le shrinks _)
    obtain ⟨store, opened, mirrorsNext⟩ :=
      Mirrors.opened valid holds.holds permuted freshnessMs agedNow
    refine ⟨_, ?_, mirrorsNext, rest⟩
    unfold ConsensusStore.Session.step ConsensusStore.Session.reopen
    simp only [opened]

theorem Mirrors.run (mirrors : Mirrors membership session reference)
    (agree : StepsAgree membership reference.observationFreshnessMs steps) :
    ∃ final, session.run steps = some final ∧
      Mirrors membership final (steps.foldl ReferenceStore.step reference) := by
  induction steps generalizing session reference with
  | nil => exact ⟨session, rfl, mirrors⟩
  | cons next steps ih =>
    obtain ⟨after, stepped, mirrorsNext, rest⟩ := mirrors.step valid agree
    obtain ⟨final, ran, mirrorsFinal⟩ := ih mirrorsNext rest
    refine ⟨final, ?_, mirrorsFinal⟩
    unfold ConsensusStore.Session.run
    rw [stepped]
    exact ran

end

theorem Mirrors.round (mirrors : Mirrors membership session reference)
    (past : ∀ member ∈ membership, ∀ report ∈ reference.logs member, report.observedAtMs ≤ nowMs) :
    session.store.round nowMs = reference.round nowMs := by
  obtain ⟨sameMembers, sameFreshness, sameFailed, dropped, holds, aged⟩ := mirrors
  unfold ConsensusStore.round ReferenceStore.round
  rw [sameFailed, sameMembers]
  split_ifs with failed
  · rfl
  congr 1
  refine List.flatMap_congr fun member listed => ?_
  have isKnown := holds.members.mem_iff.mp (sameMembers ▸ listed)
  obtain ⟨journal, found, isMatch⟩ := holds.journals member isKnown
  unfold ConsensusStore.freshRecords
  rw [found, sameFreshness]
  simp only
  rw [isMatch.records]
  have count := aged member
  rw [compactablePrefixLen_eq] at count
  refine filter_drop count (past member isKnown) ?_
  intro report fresh
  exact ((isFresh_iff _ _ _).mp fresh).2

theorem Mirrors.nextSequence (mirrors : Mirrors membership session reference)
    (listed : member ∈ membership) : session.store.nextSequence member =
      some (1 + (reference.logs member).length) := by
  obtain ⟨dropped, holds, _⟩ := mirrors.holds
  obtain ⟨journal, found, isMatch⟩ := holds.journals member listed
  unfold ConsensusStore.nextSequence
  rw [found, Option.map_some, isMatch.next, Nat.add_comm]

theorem Mirrors.start (valid : validateMembers membership = .ok ()) (freshnessMs : U64) :
    ∃ session, ConsensusStore.Session.start membership freshnessMs = some session ∧
      Mirrors membership session (ReferenceStore.start membership freshnessMs) := by
  obtain ⟨store, opened, mirrors⟩ :=
    Mirrors.opened valid (diskHolds_empty membership) (List.Perm.refl _)
      freshnessMs fun _ => Nat.zero_le _
  refine ⟨_, ?_, mirrors⟩
  unfold ConsensusStore.Session.start
  simp only [opened]

/-- Along every sequence of records and opens the consensus store serves the
rounds of the reference store, at every time that no recorded report lies ahead
of, and numbers its records as if it had kept them all. -/
theorem compaction_is_invisible {membership : List Text}
    (valid : validateMembers membership = .ok ()) {freshnessMs : U64} {steps : List StoreStep}
    (agree : StepsAgree membership freshnessMs steps) : ∃ session final,
      ConsensusStore.Session.start membership freshnessMs = some session ∧
      session.run steps = some final ∧
      let reference := steps.foldl ReferenceStore.step (ReferenceStore.start membership freshnessMs)
      (∀ nowMs, (∀ member ∈ membership, ∀ report ∈ reference.logs member,
          report.observedAtMs ≤ nowMs) →
        final.store.round nowMs = reference.round nowMs) ∧
      ∀ member ∈ membership, final.store.nextSequence member =
        some (1 + (reference.logs member).length) := by
  obtain ⟨session, started, mirrors⟩ := Mirrors.start valid freshnessMs
  obtain ⟨final, ran, mirrorsFinal⟩ := mirrors.run valid agree
  exact ⟨session, final, started, ran, fun nowMs => mirrorsFinal.round,
    fun member => mirrorsFinal.nextSequence⟩

/-- Eight reports of member "a", one that makes them compactable, and a restart
with the members in another order. -/
def compactionDrill : List StoreStep := List.replicate 8
      (.record (ConsensusStore.outageReport "a".toList 1000)) ++
    [.record (ConsensusStore.outageReport "a".toList 2000),
      .reopen ConsensusStore.drillMembers.reverse 10]

/-- The ninth report of member "a" compacts its journal and is served as
before. -/
theorem compaction_is_invisible_drill : ∃ session final,
      ConsensusStore.Session.start ConsensusStore.drillMembers 10 = some session ∧
      session.run compactionDrill = some final ∧
      let reference := compactionDrill.foldl ReferenceStore.step
        (ReferenceStore.start ConsensusStore.drillMembers 10)
      final.store.round 2005 = reference.round 2005 ∧
      final.store.nextSequence "a".toList = some 10 := by
  have agree : StepsAgree ConsensusStore.drillMembers 10 compactionDrill :=
    ⟨List.reverse_perm _, le_rfl, trivial⟩
  obtain ⟨session, final, started, ran, rounds, sequences⟩ :=
    compaction_is_invisible (by decide) agree
  refine ⟨session, final, started, ran, rounds 2005 ?_, ?_⟩
  · decide +kernel
  · rw [sequences "a".toList (by decide)]
    decide +kernel

end Zrotext.Failover
