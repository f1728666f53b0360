import Zrotext.Failover.Store.Consensus

/-!
# Sessions

A store together with the directory it works on.  What a session does is one of
the runs of the store's programs, so a session is where a concrete run comes
from.
-/

namespace Zrotext.Failover

open Foundation Foundation.Program

namespace ConsensusStore

/-- Recording reports one after the other, each one successfully, whatever the
directory answers. -/
inductive RecordsAll : ConsensusStore → List MemberReport → ConsensusStore → Prop
  | done (store : ConsensusStore) : RecordsAll store [] store
  | record {store next final : ConsensusStore} {report : MemberReport} {reports : List MemberReport}
      {events : List (Event diskCalls)} : (store.record report).Runs events (some (.ok (), next)) →
      RecordsAll next reports final → RecordsAll store (report :: reports) final

/-- A store and the directory it works on. -/
structure Session where
  store : ConsensusStore
  disk : Disk

namespace Session

/-- Record a report; nothing is left of a session whose record fails. -/
def record (session : Session) (report : MemberReport) : Option Session :=
  let outcome := interpret Disk.handler (session.store.record report) session.disk
  match outcome.value with
  | (.ok _, store) => some { store, disk := outcome.environment }
  | (.error _, _) => none

/-- Record reports one after the other. -/
def recordAll : Session → List MemberReport → Option Session
  | session, [] => some session
  | session, report :: reports =>
    (session.record report).bind fun next => next.recordAll reports

/-- Open a store in an unused directory. -/
def start (members : List Text) (freshnessMs : U64) : Option Session :=
  let outcome := interpret Disk.handler (openStore members freshnessMs).run Disk.empty
  match outcome.value with
  | .ok store => some { store, disk := outcome.environment }
  | .error _ => none

theorem start_runs {members : List Text} (started : start members freshnessMs = some session) :
    ∃ events, (openStore members freshnessMs).run.Runs events (some (.ok session.store)) := by
  have runs := interpret_runs Disk.handler (openStore members freshnessMs).run Disk.empty
  unfold start at started
  simp only at started
  split at started
  case h_1 store succeeded =>
    cases started
    rw [succeeded] at runs
    exact ⟨_, runs⟩
  · cases started

theorem record_runs {session : Session} (recorded : session.record report = some next) :
    ∃ events, (session.store.record report).Runs events (some (.ok (), next.store)) := by
  have runs := interpret_runs Disk.handler (session.store.record report) session.disk
  unfold record at recorded
  simp only at recorded
  split at recorded
  case h_1 value store succeeded =>
    cases recorded
    rw [succeeded] at runs
    exact ⟨_, runs⟩
  · cases recorded

theorem recordsAll_of_recordAll {session : Session}
    (recorded : session.recordAll reports = some final) :
    session.store.RecordsAll reports final.store := by
  induction reports generalizing session with
  | nil =>
    cases recorded
    exact .done _
  | cons report reports ih =>
    obtain ⟨next, stepped, rest⟩ := Option.bind_eq_some_iff.mp recorded
    obtain ⟨events, runs⟩ := record_runs stepped
    exact .record runs (ih rest)

end Session

/-- A report of an unreachable writer. -/
def outageReport (member : Text) (observedAtMs : U64) : MemberReport :=
  { memberId := member, observedAtMs, writer := .unreachable, writerSiteFence := none
    writerStopConfirmed := none, standbyReady := none, formerWriterHealthy := none }

/-- A report of a reachable writer. -/
def reachableReport (member : Text) (observedAtMs epoch : U64) : MemberReport :=
  { outageReport member observedAtMs with writer := .reachable epoch }

/-- Three members. -/
def drillMembers : List Text := ["a".toList, "b".toList, "c".toList]

end ConsensusStore
end Zrotext.Failover
