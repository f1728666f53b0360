import Zrotext.Failover.Store.Recovery
import Zrotext.Failover.Store.Session

/-!
# The life of a store directory

A directory is opened and recorded into by one process after another, each of
which may crash at any point.  If no crash falls between the two renames of a
member's first compaction, every later open succeeds and finds, for each member,
the end of the log of everything that was acknowledged.  The first compaction
is the exception: a crash between its renames makes the directory unusable.
-/

namespace Zrotext.Failover

open Foundation Foundation.Program StoreProgram Option Text
open Disk (handler)

/-- How a call of `record` ended. -/
inductive RecordResult
  | ok | failed | crashed
deriving DecidableEq

/-- The result of a call of `record` that finished or crashed. -/
def resultOf : Option (Except StoreError Unit × ConsensusStore) → RecordResult
  | none => .crashed
  | some (.ok _, _) => .ok
  | some (.error _, _) => .failed

/-- The store of a process after an open, if the open succeeded. -/
def openedStore : Option (Except StoreError ConsensusStore) → Option ConsensusStore
  | some (.ok store) => some store
  | _ => none

/-- The directory and the store of the running process, if there is one. -/
structure World where
  disk : Disk
  store : Option ConsensusStore

/-- The reports that were recorded, with what became of the calls. -/
abbrev Calls := List (MemberReport × RecordResult)

/-- Any sequence of opens and records on a directory that was never used before,
where a call may crash in any state of the directory that is allowed.  Every
open may use its own freshness window and order of the members; once the
directory has a membership, opens with another one may be attempted. -/
inductive Life (allowed : Disk → Prop) (membership : List Text) : Calls → World → Prop
  | start : Life allowed membership [] { disk := .empty, store := none }
  | openStore {calls : Calls} {world : World} {members : List Text} {freshnessMs : U64}
      {outcome : Option (Except StoreError ConsensusStore)} {after : Disk} :
      Life allowed membership calls world →
      members.Perm membership ∨ world.disk.membership.isSome = true →
      Stops handler (ConsensusStore.openStore members freshnessMs).run
        world.disk outcome after →
      (outcome = none → allowed after) →
      Life allowed membership calls { disk := after, store := openedStore outcome }
  | record {calls : Calls} {world : World} {store : ConsensusStore} {report : MemberReport}
      {outcome : Option (Except StoreError Unit × ConsensusStore)} {after : Disk} :
      Life allowed membership calls world → world.store = some store →
      Stops handler (store.record report) world.disk outcome after →
      (outcome = none → allowed after) →
      Life allowed membership (calls ++ [(report, resultOf outcome)])
        { disk := after, store := outcome.map Prod.snd }

/-- The logs that some calls may have written: every acknowledged report is in
the log of its member, a refused one is not, and one that was being appended
when the process crashed may be. -/
inductive Logged : Calls → Logs → Prop
  | start : Logged [] fun _ => []
  | kept {calls : Calls} {logs : Logs} {report : MemberReport} {result : RecordResult} :
      Logged calls logs → result ≠ .failed →
      Logged (calls ++ [(report, result)]) (pushLog logs report)
  | lost {calls : Calls} {logs : Logs} {report : MemberReport} {result : RecordResult} :
      Logged calls logs → result ≠ .ok →
      Logged (calls ++ [(report, result)]) logs

theorem diskHolds_empty (membership : List Text) :
    DiskHolds Disk.empty membership (fun _ => []) (fun _ => 0) where
  identity := .unused rfl fun _ => rfl
  known := nofun
  members := by
    intro member _
    refine ⟨by decide, nofun, .inr ⟨rfl, rfl⟩, none, rfl, rfl⟩

/-- An open with another membership fails and changes nothing. -/
theorem openStore_mismatch_endures (holds : DiskHolds disk membership logs dropped)
    (initialized : disk.membership.isSome) {members : List Text}
    (different : ¬ members.Perm membership) (freshnessMs : U64) :
    Endures handler (Survives membership logs)
      (fun outcome after => (∃ error, outcome = .error error) ∧ after = disk)
      (ConsensusStore.openStore members freshnessMs).run disk := by
  unfold ConsensusStore.openStore loadMembership
  rw [endures_except_bind, endures_compute]
  cases validateMembers members with
  | error error => exact ⟨⟨error, rfl⟩, rfl⟩
  | ok _ =>
    rw [endures_except_bind, endures_except_bind]
    refine ⟨holds.survives, ?_⟩
    change Endures handler _ _ (demand (some disk.membership)) disk
    cases holds.identity with
    | initialized content onDisk found decoded permuted _ =>
      have mismatch : sameMembership onDisk members = false := by
        rw [Bool.eq_false_iff, ne_eq, sameMembership_iff]
        exact fun same => different (same.symm.trans permuted)
      rw [found]
      simp only [demand, endures_done]
      rw [endures_except_bind, endures_compute, decoded]
      simp only
      rw [endures_pure]
      simp only [mismatch, Bool.not_false, if_true]
      exact ⟨⟨_, rfl⟩, rfl⟩
    | unused absent _ =>
      rw [absent] at initialized
      cases initialized

/-- The directory holds logs that the calls may have written, and a running
store is in step with it. -/
def LifeHolds (membership : List Text) (calls : Calls)
    (world : World) : Prop :=
  ∃ logs dropped, Logged calls logs ∧ DiskHolds world.disk membership logs dropped ∧
    ∀ store, world.store = some store → StoreHolds store world.disk membership logs dropped

theorem StoreHolds.fail (holds : StoreHolds store disk membership logs dropped)
    (failure : StoreError) :
    StoreHolds (store.fail failure) disk membership logs dropped :=
  ⟨holds.members, holds.holds, holds.initialized, holds.journals, holds.known⟩

theorem LifeHolds.crashed (logged : Logged calls logs) (survives : Survives membership logs disk)
    (safe : disk.SafeStop) : LifeHolds membership calls ⟨disk, none⟩ := by
  obtain ⟨dropped, holds⟩ := survives safe
  exact ⟨logs, dropped, logged, holds, nofun⟩

theorem LifeHolds.running (logged : Logged calls logs)
    (holds : StoreHolds store disk membership logs dropped) :
    LifeHolds membership calls ⟨disk, some store⟩ := by
  refine ⟨logs, dropped, logged, holds.holds, ?_⟩
  rintro _ ⟨⟩
  exact holds

theorem Life.holds (valid : validateMembers membership = .ok ())
    (life : Life Disk.SafeStop membership calls world) : LifeHolds membership calls world := by
  induction life with
  | start => exact ⟨_, _, .start, diskHolds_empty membership, nofun⟩
  | @openStore calls world members freshnessMs outcome after _ membersOk stops allowed ih =>
    obtain ⟨logs, dropped, logged, holds, _⟩ := ih
    by_cases permuted : members.Perm membership
    · obtain ⟨crashed, finished⟩ := (openStore_endures valid permuted freshnessMs holds).sound stops
          holds.survives
      cases outcome with
      | none => exact .crashed logged (crashed rfl) (allowed rfl)
      | some result =>
        obtain ⟨store, rfl, _, _, _, storeHolds⟩ := finished result rfl
        exact .running logged storeHolds
    · have initialized := membersOk.resolve_left permuted
      obtain ⟨crashed, finished⟩ := (openStore_mismatch_endures holds initialized permuted
          freshnessMs).sound stops holds.survives
      cases outcome with
      | none => exact .crashed logged (crashed rfl) (allowed rfl)
      | some result =>
        obtain ⟨⟨error, rfl⟩, rfl⟩ := finished result rfl
        exact ⟨logs, dropped, logged, holds, nofun⟩
  | @record calls world store report outcome after _ running stops allowed ih =>
    obtain ⟨logs, dropped, logged, holds, stores⟩ := ih
    have storeHolds := stores store running
    have endures : Endures handler (fun after => Survives membership logs after ∨
          Survives membership (pushLog logs report) after)
        (RecordsTo store world.disk membership logs dropped report)
        (store.record report) world.disk :=
      (record_endures valid storeHolds report).mono (fun _ => .inr) (fun _ _ ends => ends)
    obtain ⟨crashed, finished⟩ := endures.sound stops (.inl holds.survives)
    cases outcome with
    | none =>
      rcases crashed rfl with before | afterwards
      · exact .crashed (.lost logged (by decide)) before (allowed rfl)
      · exact .crashed (.kept logged (by decide)) afterwards (allowed rfl)
    | some result =>
      cases finished result rfl with
      | appended _ _ _ appends =>
        obtain ⟨value, final⟩ := result
        obtain ⟨succeeded, _, _, _, next⟩ := appends
        subst succeeded
        exact .running (.kept logged (by simp [resultOf])) next
      | refused error _ => exact .running (.lost logged (by simp [resultOf])) storeHolds
      | exhausted _ _ _ =>
        exact .running (.lost logged (by simp [resultOf])) (storeHolds.fail _)

namespace ConsensusStore
namespace Session

/-- The world of a running session. -/
def world (session : Session) : World :=
  { disk := session.disk, store := some session.store }

/-- The world after a crash that follows some of the calls that recording a
report makes. -/
def crash (session : Session) (calls : Nat) (report : MemberReport) : World :=
  { disk := crashAfter handler calls (session.store.record report)
      session.disk
    store := none }

end Session
end ConsensusStore

section Sessions

variable {session : ConsensusStore.Session}

theorem Life.ofStart
    (started : ConsensusStore.Session.start membership freshnessMs = some session) :
    Life allowed membership [] session.world := by
  have stops := stops_interpret handler
    (ConsensusStore.openStore membership freshnessMs).run Disk.empty
  unfold ConsensusStore.Session.start at started
  simp only at started
  split at started
  case h_1 store succeeded =>
    cases started
    rw [succeeded] at stops
    exact .openStore .start (.inl (List.Perm.refl _)) stops nofun
  · cases started

section

variable (life : Life allowed membership calls session.world)

include life

theorem Life.ofRecord (recorded : session.record report = some next) :
    Life allowed membership (calls ++ [(report, .ok)]) next.world := by
  have stops := stops_interpret handler (session.store.record report) session.disk
  unfold ConsensusStore.Session.record at recorded
  simp only at recorded
  split at recorded
  case h_1 value store succeeded =>
    cases recorded
    rw [succeeded] at stops
    exact life.record rfl stops nofun
  · cases recorded

theorem Life.ofRecordAll (recorded : session.recordAll reports = some final) :
    Life allowed membership
      (calls ++ reports.map fun report => (report, .ok)) final.world := by
  induction reports generalizing session calls with
  | nil =>
    cases recorded
    simpa using life
  | cons report reports ih =>
    obtain ⟨next, stepped, rest⟩ := bind_eq_some_iff.mp recorded
    have continued := ih (life.ofRecord stepped) rest
    rw [List.append_assoc] at continued
    exact continued

end

end Sessions

/-- The journal in memory is the end of a log, with the sequences that the log
gives its records. -/
structure MemberJournal.EndOf (journal : MemberJournal) (log : List MemberReport) : Prop where
  suffix : journal.records <:+ log
  sequences : journal.firstSequence + journal.records.length = journal.nextSequence
  next : journal.nextSequence = log.length + 1

/-- After any life without a crash inside a first compaction, the next open with
the membership of the directory succeeds, and the journal of each member is the
end of a log of everything acknowledged, with at most the reports in it that
were being appended when a process crashed. -/
theorem crashed_store_recovers {membership : List Text}
    (valid : validateMembers membership = .ok ()) {calls : Calls}
    {world : World} (life : Life Disk.SafeStop membership calls world) {members : List Text}
    (permuted : members.Perm membership) (freshnessMs : U64) : ∃ store logs, (interpret handler
        (ConsensusStore.openStore members freshnessMs).run world.disk).value = .ok store ∧
      Logged calls logs ∧ ∀ member ∈ members, ∃ journal,
        store.journals.lookup member = some journal ∧ journal.EndOf (logs member) := by
  obtain ⟨logs, dropped, logged, holds, _⟩ := life.holds valid
  obtain ⟨store, opened, _, _, _, storeHolds⟩ :=
    (openStore_endures valid permuted freshnessMs holds).interpret
  refine ⟨store, logs, opened, logged, ?_⟩
  intro member listed
  have known := permuted.mem_iff.mp listed
  obtain ⟨journal, found, isMatch⟩ := storeHolds.journals member known
  have within := (storeHolds.holds.members member known).dropped_le
  refine ⟨journal, found, ?_, ?_, isMatch.next⟩
  · rw [isMatch.records]
    exact List.drop_suffix _ _
  · rw [isMatch.first, isMatch.records, isMatch.next, List.length_drop]
    omega

/-- Some reports of member "a" at 1000, recorded with a freshness window of 10
milliseconds, and one more at 2000 during which the process crashes. -/
def crashDrill (recorded crashAfter : Nat) : Option World :=
  (ConsensusStore.Session.start ConsensusStore.drillMembers 10).bind fun session =>
      (session.recordAll (List.replicate recorded
        (ConsensusStore.outageReport "a".toList 1000))).map
        fun session => session.crash crashAfter (ConsensusStore.outageReport "a".toList 2000)

/-- What the calls of a crash drill returned. -/
def crashDrillCalls (recorded : Nat) : Calls :=
  (List.replicate recorded (ConsensusStore.outageReport "a".toList 1000)).map (fun report =>
      (report, .ok)) ++
    [(ConsensusStore.outageReport "a".toList 2000, .crashed)]

theorem life_crashDrill {crashAfter : Nat} (drill : crashDrill recorded crashAfter = some world)
    (isAllowed : allowed world.disk) :
    Life allowed ConsensusStore.drillMembers (crashDrillCalls recorded) world := by
  obtain ⟨session, started, rest⟩ := bind_eq_some_iff.mp drill
  obtain ⟨final, recordedAll, rfl⟩ := map_eq_some_iff.mp rest
  exact ((Life.ofStart started).ofRecordAll recordedAll).record rfl
    (stops_crashAfter handler crashAfter _ _) fun _ => isAllowed

/-- A crash after the rewritten journal was written aside: the next open finds
the eight acknowledged records and the one that was being appended. -/
theorem crashed_store_recovers_drill : ∃ world, crashDrill 8 2 = some world ∧ ∃ store logs,
        (interpret handler (ConsensusStore.openStore ConsensusStore.drillMembers 10).run
          world.disk).value = .ok store ∧
        Logged (crashDrillCalls 8) logs ∧ ∀ member ∈ ConsensusStore.drillMembers, ∃ journal,
          store.journals.lookup member = some journal ∧ journal.EndOf (logs member) := by
  have ends : (crashDrill 8 2).isSome = true := by decide +kernel
  obtain ⟨world, drill⟩ := isSome_iff_exists.mp ends
  have unrenamed : (crashDrill 8 2).all (fun world =>
      world.disk.lastRenamed.isNone) = true := by decide +kernel
  rw [drill, all_some, isNone_iff_eq_none] at unrenamed
  have safe : world.disk.SafeStop := by
    intro member renamed
    rw [unrenamed] at renamed
    cases renamed
  exact ⟨world, drill, crashed_store_recovers (by decide)
    (life_crashDrill drill safe) (List.Perm.refl _) 10⟩

/-- Why an open failed. -/
def openingFailure : Except StoreError ConsensusStore → Option StoreError
  | .ok _ => none
  | .error failure => some failure

theorem eq_error_of_openingFailure {failure : StoreError}
    (isFailure : openingFailure result = some failure) :
    result = .error failure := by
  cases result with
  | ok store => cases isFailure
  | error error =>
    cases isFailure
    rfl

/-- A crash between the renames of a first compaction: the ninth report of
member "a" makes the first one compactable, the rewritten journal starts at
sequence two, and without a checkpoint no later open accepts it. -/
theorem first_compaction_crash_closes_store : ∃ world, crashDrill 8 3 = some world ∧
      Life (fun _ => True) ConsensusStore.drillMembers (crashDrillCalls 8) world ∧
      (interpret handler (ConsensusStore.openStore ConsensusStore.drillMembers 10).run
        world.disk).value = .error (.checkpointMissing "a".toList 2) := by
  have closed : (crashDrill 8 3).map (fun world => openingFailure (interpret handler
        (ConsensusStore.openStore ConsensusStore.drillMembers 10).run
        world.disk).value) = some (some (.checkpointMissing "a".toList 2)) := by
    decide +kernel
  obtain ⟨world, drill, failure⟩ := map_eq_some_iff.mp closed
  exact ⟨world, drill, life_crashDrill drill trivial, eq_error_of_openingFailure failure⟩

theorem MemberHolds.ofLines (fileSafe : memberIsFileSafe member)
    (owned : ∀ report ∈ reports, report.memberId = member) (short : reports.length + 1 < 2 ^ 64)
    (encoded : encodeRecords (numberedFrom 1 reports) = .ok lines)
    (journal : disk.content? (journalFile member) = some (unlines lines))
    (noCheckpoint : disk.content? (checkpointFile member) = none) :
    MemberHolds disk member reports 0 := by
  rw [encodeRecords_numberedFrom fileSafe 1 owned, Except.ok.injEq] at encoded
  subst encoded
  exact ⟨short, owned, .inl journal, none, noCheckpoint, rfl⟩

theorem openJournal_lines (fileSafe : memberIsFileSafe member)
    (holds : MemberHolds disk member reports 0)
    (present : disk.content? (journalFile member) = some content) (freshnessMs : U64) :
    ∃ journal, (interpret handler (openJournal member freshnessMs).run disk).value =
        .ok journal ∧
      journal.nextSequence = reports.length + 1 ∧
      journal.records = reports.drop (compactablePrefixLen reports freshnessMs) := by
  obtain ⟨file, found, _⟩ := Option.map_eq_some_iff.mp present
  have created := Disk.isCreated_of_file? found
  obtain ⟨journal, opened, _, _, isMatch⟩ :=
    (openJournal_endures fileSafe created holds freshnessMs).interpret
  have records := isMatch.records
  rw [List.drop_zero, Nat.zero_add] at records
  exact ⟨journal, opened, isMatch.next, records⟩

/-- Records and checkpoints decode to what was encoded.  A journal of encoded
records loads as exactly these, and opens without the aged ones. -/
theorem store_codecs_round_trip :
    (∀ record : JournalRecord, memberIsFileSafe record.report.memberId = true →
      record.sequence < 2 ^ 64 →
      ∃ line, record.encode = .ok line ∧ JournalRecord.decode line = .ok record) ∧
    (∀ (checkpoint : Checkpoint) member content, checkpoint.lastCompactedSequence < 2 ^ 64 →
      checkpoint.encode = .ok content → decodeCheckpoint member content = .ok checkpoint) ∧
    ∀ disk member reports lines freshnessMs, memberIsFileSafe member = true →
      (∀ report ∈ reports, report.memberId = member) → reports.length + 1 < 2 ^ 64 →
      encodeRecords (numberedFrom 1 reports) = .ok lines →
      disk.content? (journalFile member) = some (unlines lines) →
      disk.content? (checkpointFile member) = none →
      loadJournal member (unlines lines) none = .ok
        { firstSequence := 1, nextSequence := reports.length + 1, records := reports } ∧
      ∃ journal, (interpret handler (openJournal member freshnessMs).run disk).value =
          .ok journal ∧
        journal.nextSequence = reports.length + 1 ∧
        journal.records = reports.drop (compactablePrefixLen reports freshnessMs) := by
  refine ⟨?_, ?_, ?_⟩
  · intro record fileSafe fits
    exact ⟨_, (record.encode_eq_ok_iff _).mpr ⟨fileSafe, rfl⟩,
      (record.decode_unwords fileSafe fits).2⟩
  · intro checkpoint member content fits encoded
    unfold Checkpoint.encode at encoded
    split at encoded
    · cases encoded
    next fileSafe =>
      split at encoded
      · cases encoded
      next positive =>
        cases encoded
        rw [Bool.not_eq_true, Bool.not_eq_false'] at fileSafe
        exact checkpoint.decodeCheckpoint_unlines member fileSafe positive fits
  · intro disk member reports lines freshnessMs fileSafe owned short encoded journal noCheckpoint
    have holds := MemberHolds.ofLines fileSafe owned short encoded journal noCheckpoint
    refine ⟨?_, openJournal_lines fileSafe holds journal freshnessMs⟩
    rw [encodeRecords_numberedFrom fileSafe 1 owned, Except.ok.injEq] at encoded
    subst encoded
    have anchors : CheckpointAnchors member 0 (linesFrom 1 reports).head? none := rfl
    exact loadJournal_eq fileSafe owned short anchors

/-- Nine reports, the first of them aged. -/
def agedReports : List MemberReport :=
  ConsensusStore.outageReport "a".toList 0 ::
    List.replicate 8 (ConsensusStore.outageReport "a".toList 1000)

/-- A directory with a journal of the nine reports. -/
def agedDisk : Disk :=
  { Disk.empty with
    observations := some (AList.singleton (journalFile "a".toList)
      ⟨0, unlines (linesFrom 1 agedReports)⟩) }

/-- A journal of nine reports whose first is aged opens with eight. -/
theorem opening_drops_aged_report : ∃ lines,
    encodeRecords (numberedFrom 1 agedReports) = .ok lines ∧
    agedDisk.content? (journalFile "a".toList) = some (unlines lines) ∧
    agedDisk.content? (checkpointFile "a".toList) = none ∧
    ∃ journal, (interpret handler (openJournal "a".toList 10).run agedDisk).value =
        .ok journal ∧ journal.records ≠ agedReports := by
  have owned : ∀ report ∈ agedReports, report.memberId = "a".toList := by decide
  have encoded := encodeRecords_numberedFrom (by decide) 1 owned
  have journal : agedDisk.content? (journalFile "a".toList) =
      some (unlines (linesFrom 1 agedReports)) := rfl
  have noCheckpoint : agedDisk.content? (checkpointFile "a".toList) = none := by
    decide +kernel
  have holds := MemberHolds.ofLines (by decide) owned (by decide) encoded journal noCheckpoint
  obtain ⟨opened, opens, _, records⟩ := openJournal_lines (by decide) holds journal 10
  refine ⟨_, encoded, journal, noCheckpoint, opened, opens, ?_⟩
  rw [records]
  decide

end Zrotext.Failover
