import Zrotext.Failover.Store.Memory
import Zrotext.Failover.Store.Session

/-!
# Future-dated reports

A report that is dated after the present is no evidence at present, but it moves
the anchor from which compaction measures age.  Recording such reports leaves
the present round as it is exactly if no report that is fresh at present falls
into the prefix that the new anchor makes droppable.
-/

namespace Zrotext.Failover

open Foundation Foundation.Program Foundation.Retention List Option

/-- The reports of one member. -/
def reportsOf (member : Text) (reports : List MemberReport) : List MemberReport :=
  reports.filter fun report => report.memberId = member

namespace ConsensusStore

variable (store : ConsensusStore)

/-- The records that the store retains for a member. -/
def retained (member : Text) : List MemberReport :=
  match store.journals.lookup member with
  | none => []
  | some journal => journal.records

/-- Every retained report that is fresh survives the recording of reports for
its member: it is among the records of the floor, or it or a record before it
is within the window of the newest record. -/
def SparesFresh (reports : List MemberReport) (nowMs : U64) : Prop :=
  ∀ member ∈ store.members, reportsOf member reports ≠ [] →
    ∀ index report, (store.retained member)[index]? = some report →
      isFresh report.observedAtMs nowMs store.observationFreshnessMs = true →
      (store.retained member ++ reportsOf member reports).length ≤ index + journalRetainedFloor ∨
        ∃ earlier ∈ (store.retained member).take (index + 1),
          ∀ newer ∈ store.retained member ++ reportsOf member reports, newer.observedAtMs.val ≤
              earlier.observedAtMs.val + store.observationFreshnessMs.val

theorem freshRecords_eq (nowMs : U64) (member : Text) :
    store.freshRecords nowMs member = (store.retained member).filter fun report =>
        isFresh report.observedAtMs nowMs store.observationFreshnessMs := by
  unfold freshRecords retained
  cases store.journals.lookup member <;> rfl

theorem Appends.retained_eq {next : ConsensusStore} {store : ConsensusStore}
    (appends : store.Appends report next)
    (member : Text) : next.retained member =
      appendAll store.observationFreshnessMs (store.retained member)
        (reportsOf member [report]) := by
  obtain ⟨_, journal, file, checkpoint, found, _, rfl⟩ := appends
  unfold retained setJournal reportsOf
  by_cases same : report.memberId = member
  · subst same
    rw [AList.lookup_insert, found]
    simp [appendAll, MemberJournal.push]
  · rw [AList.lookup_insert_ne (Ne.symm same)]
    simp [appendAll, same]

theorem appendAll_append (freshnessMs : U64) (records first second : List MemberReport) :
    appendAll freshnessMs records (first ++ second) =
      appendAll freshnessMs (appendAll freshnessMs records first) second := by
  induction first generalizing records with
  | nil => rfl
  | cons report first ih => exact ih _

variable {reports : List MemberReport}

theorem RecordsAll.working {store : ConsensusStore} (records : store.RecordsAll reports final)
    (nonempty : reports ≠ []) : store.failure = none := by
  cases records with
  | done => exact absurd rfl nonempty
  | record runs _ =>
    exact ((store.record_yields _).sound runs _ rfl rfl).1

/-- What the store retains after recording reports. -/
theorem RecordsAll.effect {store : ConsensusStore}
    (records : store.RecordsAll reports final) : (final.members = store.members ∧
      final.observationFreshnessMs = store.observationFreshnessMs ∧ final.failure = store.failure) ∧
    ∀ member, final.retained member = appendAll store.observationFreshnessMs (store.retained member)
          (reportsOf member reports) := by
  induction records with
  | done store => exact ⟨⟨rfl, rfl, rfl⟩, fun _ => rfl⟩
  | @record store next final report reports events runs _ ih =>
    have appends : store.Appends report next := (store.record_yields report).sound runs _ rfl rfl
    obtain ⟨members, freshness, failure⟩ : next.members = store.members ∧
        next.observationFreshnessMs = store.observationFreshnessMs ∧
        next.failure = store.failure := by
      obtain ⟨_, _, _, _, _, _, rfl⟩ := appends
      exact ⟨rfl, rfl, rfl⟩
    obtain ⟨⟨sameMembers, sameFreshness, sameFailure⟩, retained⟩ := ih
    refine ⟨⟨sameMembers.trans members, sameFreshness.trans freshness,
      sameFailure.trans failure⟩, ?_⟩
    intro member
    rw [retained, freshness, appends.retained_eq, ← appendAll_append]
    unfold reportsOf
    rw [← filter_append, singleton_append]

/-- Flattened sublists are equal exactly if all of them are. -/
theorem flatMap_eq_iff_of_sublist {α β : Type} {members : List α} {smaller larger : α → List β}
    (sublists : ∀ member ∈ members, (smaller member).Sublist (larger member)) :
    members.flatMap smaller = members.flatMap larger ↔
      ∀ member ∈ members, smaller member = larger member := by
  induction members with
  | nil => simp
  | cons member members ih =>
    obtain ⟨here, there⟩ := forall_mem_cons.mp sublists
    have rest := ih there
    have total := (List.Sublist.flatMap_right members there).length_le
    rw [flatMap_cons, flatMap_cons, forall_mem_cons, ← rest]
    constructor
    · intro equal
      have lengths := congrArg length equal
      rw [length_append, length_append] at lengths
      have bound := here.length_le
      have same := here.eq_of_length (by omega)
      rw [same] at equal
      exact ⟨same, append_cancel_left equal⟩
    · rintro ⟨same, others⟩
      rw [same, others]

theorem filter_future (future : ∀ report ∈ reports, nowMs < report.observedAtMs) :
    (reports.filter fun report =>
      isFresh report.observedAtMs nowMs freshnessMs) = [] := by
  rw [filter_eq_nil_iff]
  intro report listed fresh
  have past := ((isFresh_iff _ _ _).mp fresh).1
  have later : nowMs.val < report.observedAtMs.val := future report listed
  omega

/-- The fresh records that survive compaction are those behind the compacted
prefix. -/
theorem filter_appendAll (future : ∀ report ∈ reports, nowMs < report.observedAtMs)
    (nonempty : reports ≠ []) :
    ((appendAll freshnessMs records reports).filter fun report =>
        isFresh report.observedAtMs nowMs freshnessMs) =
      (records.drop (compactablePrefixLen (records ++ reports) freshnessMs)).filter fun report =>
          isFresh report.observedAtMs nowMs freshnessMs := by
  have laterFuture : ∀ report ∈ reports.drop
      (compactablePrefixLen (records ++ reports) freshnessMs - records.length),
      nowMs < report.observedAtMs :=
    fun report listed => future report (mem_of_mem_drop listed)
  rw [appendAll_eq freshnessMs records reports nonempty, drop_append,
    filter_append, filter_future laterFuture, append_nil]

/-- Dropping a prefix keeps the fresh records exactly if none is in it. -/
theorem filter_drop_eq_iff {α : Type} (inside : α → Bool) (entries : List α) (count : Nat) :
    (entries.drop count).filter inside = entries.filter inside ↔
      ∀ entry ∈ entries.take count, inside entry = false := by
  have split := congrArg (filter inside) (take_append_drop count entries)
  rw [filter_append] at split
  rw [← split]
  constructor
  · intro equal
    have lengths := congrArg length equal
    rw [length_append] at lengths
    have empty : (entries.take count).filter inside = [] := length_eq_zero_iff.mp (by omega)
    intro entry dropped
    exact Bool.eq_false_iff.mpr (filter_eq_nil_iff.mp empty entry dropped)
  · intro outside
    have empty : (entries.take count).filter inside = [] := by
      rw [filter_eq_nil_iff]
      intro entry dropped
      rw [outside entry dropped]
      exact Bool.false_ne_true
    rw [empty, nil_append]

/-- A record is behind the compacted prefix exactly if the floor or the window
of the newest record protects it. -/
theorem not_lt_compactablePrefixLen_iff (reports : List MemberReport) (freshnessMs : U64)
    (within : index < records.length) :
    ¬ index < compactablePrefixLen (records ++ reports) freshnessMs ↔
      (records ++ reports).length ≤ index + journalRetainedFloor ∨
        ∃ earlier ∈ records.take (index + 1), ∀ newer ∈ records ++ reports, newer.observedAtMs.val ≤
              earlier.observedAtMs.val + freshnessMs.val := by
  have inAll : index < (records ++ reports).length := by
    rw [length_append]
    omega
  rw [compactablePrefixLen_eq, lt_agedPrefix_iff, take_append_of_le_length within]
  simp only [inAll, true_and, not_and, not_forall, Outdated, observedAt, not_exists, not_lt]
  constructor
  · intro shielded
    by_cases floor : index + journalRetainedFloor < (records ++ reports).length
    · obtain ⟨earlier, listed, recent⟩ := shielded floor
      exact .inr ⟨earlier, listed, recent⟩
    · exact .inl (Nat.le_of_not_lt floor)
  · rintro (floor | ⟨earlier, listed, recent⟩) above
    · omega
    · exact ⟨earlier, listed, recent⟩

theorem sparesFresh_iff (reports : List MemberReport) (nowMs : U64) :
    store.SparesFresh reports nowMs ↔ ∀ member ∈ store.members, reportsOf member reports ≠ [] →
        ∀ report ∈ (store.retained member).take (compactablePrefixLen
            (store.retained member ++ reportsOf member reports) store.observationFreshnessMs),
          isFresh report.observedAtMs nowMs store.observationFreshnessMs = false := by
  refine forall_congr' fun member => forall_congr' fun _ =>
    forall_congr' fun _ => ?_
  constructor
  · intro spares report dropped
    obtain ⟨index, found⟩ := mem_iff_getElem?.mp dropped
    rw [getElem?_take] at found
    split at found
    case isTrue below =>
      rw [Bool.eq_false_iff]
      intro fresh
      obtain ⟨within, _⟩ := List.getElem?_eq_some_iff.mp found
      exact (not_lt_compactablePrefixLen_iff _ _ within).mpr
        (spares index report found fresh) below
    · cases found
  · intro outside index report found fresh
    obtain ⟨within, _⟩ := List.getElem?_eq_some_iff.mp found
    rw [← not_lt_compactablePrefixLen_iff _ _ within]
    intro below
    have dropped : report ∈ (store.retained member).take (compactablePrefixLen
          (store.retained member ++ reportsOf member reports)
          store.observationFreshnessMs) := by
      refine mem_iff_getElem?.mpr ⟨index, ?_⟩
      rw [getElem?_take, if_pos below]
      exact found
    rw [outside report dropped] at fresh
    cases fresh

/-- Open a store, record reports, and record one more. -/
def skewDrill (history : List MemberReport) (skewed : MemberReport) : Option (Session × Session) :=
  (Session.start drillMembers 10000).bind fun opened =>
    (opened.recordAll history).bind fun session =>
      (session.record skewed).map fun final => (session, final)

/-- The present round is the same before and after the last report. -/
def skewDrillKeepsRound (history : List MemberReport) (skewed : MemberReport)
    (nowMs : U64) : Option Bool :=
  (skewDrill history skewed).map fun sessions =>
    decide (sessions.2.store.round nowMs = sessions.1.store.round nowMs)

theorem skewDrill_recordsAll (ran : skewDrillKeepsRound history skewed nowMs = some same) :
    ∃ opened session final : Session, Session.start drillMembers 10000 = some opened ∧
        opened.store.RecordsAll history session.store ∧
        session.store.RecordsAll [skewed] final.store ∧ (same ↔
          final.store.round nowMs = session.store.round nowMs) := by
  obtain ⟨⟨session, final⟩, drilled, rounds⟩ := map_eq_some_iff.mp ran
  obtain ⟨opened, started, drilled⟩ := bind_eq_some_iff.mp drilled
  obtain ⟨middle, recorded, drilled⟩ := bind_eq_some_iff.mp drilled
  obtain ⟨last, skewedRecorded, pair⟩ := map_eq_some_iff.mp drilled
  cases pair
  refine ⟨opened, session, final, started, Session.recordsAll_of_recordAll recorded,
    Session.recordsAll_of_recordAll ?_, ?_⟩
  · rw [Session.recordAll, skewedRecorded]
    rfl
  · rw [← rounds, decide_eq_true_eq]

/-- Recording future-dated reports leaves the present round unchanged exactly if
every report that is fresh at present survives the compactions they cause. -/
theorem round_unchanged_iff_sparesFresh {store final : ConsensusStore} {reports : List MemberReport}
    {nowMs : U64} (records : store.RecordsAll reports final)
    (future : ∀ report ∈ reports, nowMs < report.observedAtMs) :
    final.round nowMs = store.round nowMs ↔ store.SparesFresh reports nowMs := by
  obtain ⟨⟨sameMembers, sameFreshness, sameFailure⟩, retained⟩ := records.effect
  have fresh : ∀ member, final.freshRecords nowMs member =
      (appendAll store.observationFreshnessMs (store.retained member)
        (reportsOf member reports)).filter fun report =>
          isFresh report.observedAtMs nowMs store.observationFreshnessMs := by
    intro member
    rw [freshRecords_eq, retained, sameFreshness]
  have memberFuture : ∀ member, ∀ report ∈ reportsOf member reports, nowMs < report.observedAtMs :=
    fun member report listed => future report (mem_of_mem_filter listed)
  have changed : ∀ member, (final.freshRecords nowMs member).Sublist
          (store.freshRecords nowMs member) ∧
        (final.freshRecords nowMs member = store.freshRecords nowMs member ↔
          (reportsOf member reports ≠ [] → ∀ report ∈ (store.retained member).take
              (compactablePrefixLen (store.retained member ++ reportsOf member reports)
                store.observationFreshnessMs),
              isFresh report.observedAtMs nowMs store.observationFreshnessMs = false)) := by
    intro member
    by_cases silent : reportsOf member reports = []
    · rw [fresh, silent, freshRecords_eq]
      exact ⟨List.Sublist.refl _, by simp [appendAll]⟩
    · rw [fresh, freshRecords_eq, filter_appendAll (memberFuture member) silent, filter_drop_eq_iff]
      refine ⟨(drop_sublist _ _).filter _, ?_⟩
      simp only [ne_eq, silent, not_false_eq_true, true_implies]
  rw [sparesFresh_iff]
  unfold round
  rw [sameFailure, sameMembers]
  cases working : store.failure with
  | some failure =>
    have silent : reports = [] := by
      by_contra nonempty
      rw [records.working nonempty] at working
      cases working
    simp [silent, reportsOf]
  | none =>
    simp only [isSome_none, Bool.false_eq_true, if_false, Round.mk.injEq]
    rw [flatMap_eq_iff_of_sublist fun member _ => (changed member).1]
    exact forall_congr' fun member => forall_congr' fun _ =>
      (changed member).2

/-- Seven reports and a future-dated one fit the floor. -/
theorem round_unchanged_iff_sparesFresh_drill : ∃ store final : ConsensusStore,
      store.RecordsAll [outageReport "a".toList 100000] final ∧
        final.round 1000 = store.round 1000 ∧
        store.SparesFresh [outageReport "a".toList 100000] 1000 := by
  have ran : skewDrillKeepsRound (replicate 7 (outageReport "a".toList 1000))
      (outageReport "a".toList 100000) 1000 = some true := by
    decide +kernel
  obtain ⟨_, session, final, _, _, records, same⟩ := skewDrill_recordsAll ran
  have future : ∀ report ∈ [outageReport "a".toList 100000],
      (1000 : U64) < report.observedAtMs := by
    decide
  refine ⟨session.store, final.store, records, same.mp rfl, ?_⟩
  exact (round_unchanged_iff_sparesFresh records future).mp (same.mp rfl)

/-- A member whose clock runs ahead erases its own fresh report of a reachable
writer: with eight more reports behind it, one report from the future makes
compaction drop it. -/
theorem skewed_report_erases_fresh_evidence : ∃ opened session final : Session,
      Session.start drillMembers 10000 = some opened ∧ opened.store.RecordsAll
          (reachableReport "a".toList 1000 7 ::
            List.replicate 8 (outageReport "a".toList 1000)) session.store ∧
        session.store.RecordsAll [outageReport "a".toList 100000] final.store ∧
        (∀ report ∈ [outageReport "a".toList 100000], (1000 : U64) < report.observedAtMs) ∧
        final.store.round 1000 ≠ session.store.round 1000 := by
  have ran : skewDrillKeepsRound (reachableReport "a".toList 1000 7 ::
        replicate 8 (outageReport "a".toList 1000))
      (outageReport "a".toList 100000) 1000 = some false := by
    decide +kernel
  obtain ⟨opened, session, final, started, history, records, same⟩ := skewDrill_recordsAll ran
  refine ⟨opened, session, final, started, history, records, by decide, ?_⟩
  intro unchanged
  cases same.mpr unchanged

end ConsensusStore
end Zrotext.Failover
