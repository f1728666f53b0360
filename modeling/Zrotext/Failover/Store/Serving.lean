import Zrotext.Failover.Store.Memory
import Zrotext.Failover.Store.Session
import Zrotext.Foundation.Table

/-!
# Serving each record once

The observation source keeps the last sequence it served for each member, while
compaction renumbers the positions of the records behind it.  Over any
interleaving of appends and checks, with any times, every record is served in at
most one round, in order, and only while it is fresh.
-/

namespace Zrotext.Failover

open Foundation Foundation.Program List Table

/-- An appended record: its member, its sequence and its report. -/
structure Entry where
  member : Text
  sequence : Nat
  report : MemberReport
deriving DecidableEq

namespace Entry

/-- What identifies a record. -/
def key (entry : Entry) : Text × Nat := (entry.member, entry.sequence)

/-- The record of a member. -/
def ofRecord (member : Text) (record : JournalRecord) : Entry :=
  { member, sequence := record.sequence, report := record.report }

end Entry

/-- The last sequence served for a member. -/
def cursorOf (served : Served) (member : Text) : Nat := (served.lookup member).getD 0

namespace MemberJournal

/-- The retained records with their sequences. -/
def numbered (journal : MemberJournal) : List JournalRecord :=
  numberedFrom journal.firstSequence journal.records

/-- The fresh records after a cursor. -/
def unserved (journal : MemberJournal) (nowMs freshnessMs : U64)
    (cursor : Nat) : List JournalRecord :=
  journal.numbered.filter fun record =>
    decide (cursor < record.sequence) && isFresh record.report.observedAtMs nowMs freshnessMs

end MemberJournal

namespace ConsensusStore

variable (store : ConsensusStore)

/-- The retained records of a member. -/
def entriesOf (member : Text) : List Entry :=
  match store.journals.lookup member with
  | none => []
  | some journal => journal.numbered.map (Entry.ofRecord member)

/-- The retained records of all members. -/
def entries : List Entry := store.members.flatMap store.entriesOf

/-- The fresh records of a member that its cursor has not passed. -/
def unservedOf (nowMs : U64) (served : Served) (member : Text) : List Entry :=
  match store.journals.lookup member with
  | none => []
  | some journal =>
    (journal.unserved nowMs store.observationFreshnessMs
      (cursorOf served member)).map (Entry.ofRecord member)

/-- Compaction dropped a record. -/
def Dropped (entry : Entry) : Prop :=
  ∃ journal, store.journals.lookup entry.member = some journal ∧
    entry.sequence < journal.firstSequence

end ConsensusStore

/-- The records that the next check round serves. -/
def StoreObservationSource.unserved (source : StoreObservationSource) (nowMs : U64) : List Entry :=
  source.store.members.flatMap (source.store.unservedOf nowMs source.served)

/-- The sequence of the last record, or the cursor if there is none. -/
def lastSequence (cursor : Nat) (records : List JournalRecord) : Nat :=
  records.foldl (fun _ record => record.sequence) cursor

namespace MemberJournal

theorem map_zipIdx (first offset : Nat) (records : List MemberReport) :
    ((records.zipIdx offset).map fun entry =>
        ({ sequence := first + entry.2, report := entry.1 } : JournalRecord)) =
      numberedFrom (first + offset) records := by
  induction records generalizing offset with
  | nil => rfl
  | cons report records ih =>
    rw [zipIdx_cons, map_cons, ih]
    rfl

theorem foldl_serveRecord (journal : MemberJournal) (nowMs freshnessMs : U64)
    (positions : List (MemberReport × Nat))
    (fits : ∀ entry ∈ positions, journal.firstSequence + entry.2 < 2 ^ 64)
    (reports : List MemberReport) (last : Nat) :
    let fresh := (positions.map fun entry =>
        ({ sequence := journal.firstSequence + entry.2
           report := entry.1 } : JournalRecord)).filter fun record =>
          isFresh record.report.observedAtMs nowMs freshnessMs
    positions.foldl (journal.serveRecord nowMs freshnessMs) (reports, last) =
      (reports ++ fresh.map JournalRecord.report, lastSequence last fresh) := by
  induction positions generalizing reports last with
  | nil => simp [lastSequence]
  | cons entry positions ih =>
    obtain ⟨here, there⟩ := forall_mem_cons.mp fits
    have small : min (journal.firstSequence + entry.2) (2 ^ 64 - 1) =
        journal.firstSequence + entry.2 := by omega
    rw [foldl_cons, map_cons]
    cases fresh : isFresh entry.1.observedAtMs nowMs freshnessMs with
    | true =>
      rw [serveRecord, if_pos fresh, ih there, small]
      simp only [filter_cons, fresh, if_true, append_assoc]
      rfl
    | false =>
      rw [serveRecord, if_neg (by rw [fresh]; exact Bool.false_ne_true), ih there]
      simp only [filter_cons, fresh, Bool.false_eq_true, if_false]

/-- The loop serves the fresh records after the cursor and returns the last
sequence it served. -/
theorem serve_eq {journal : MemberJournal} (numbered : journal.Numbered) (nowMs freshnessMs : U64)
    (below : cursor < journal.nextSequence) :
    journal.serve nowMs freshnessMs cursor =
      ((journal.unserved nowMs freshnessMs cursor).map JournalRecord.report, lastSequence cursor
          (journal.unserved nowMs freshnessMs cursor)) := by
  obtain ⟨_, contiguous, fits⟩ := numbered
  have positions : journal.skip cursor = cursor + 1 - journal.firstSequence := by
    unfold skip
    split
    · rfl
    · omega
  have bounded : ∀ entry ∈ journal.records.zipIdx.drop (journal.skip cursor),
      journal.firstSequence + entry.2 < 2 ^ 64 := by
    intro entry listed
    have index := snd_lt_add_of_mem_zipIdx (mem_of_mem_drop listed)
    omega
  have tagged : (journal.records.zipIdx.drop (journal.skip cursor)).map
      (fun entry => ({ sequence := journal.firstSequence + entry.2
                       report := entry.1 } : JournalRecord)) =
      journal.numbered.filter fun record =>
        decide (cursor < record.sequence) := by
    rw [map_drop, map_zipIdx, positions]
    exact (filter_numberedFrom _ _ _).symm
  have loop := foldl_serveRecord journal nowMs freshnessMs _ bounded [] cursor
  unfold serve unserved
  rw [loop, tagged, filter_filter, nil_append]
  simp only [Bool.and_comm]

end MemberJournal

/-! ## High-water marks -/

theorem lastSequence_eq_or_mem (cursor : Nat) (records : List JournalRecord) :
    lastSequence cursor records = cursor ∨
      ∃ record ∈ records, record.sequence = lastSequence cursor records := by
  induction records generalizing cursor with
  | nil => exact .inl rfl
  | cons record records ih =>
    rcases ih record.sequence with same | ⟨other, listed, is⟩
    · exact .inr ⟨record, mem_cons_self, same.symm⟩
    · exact .inr ⟨other, mem_cons_of_mem record listed, is⟩

theorem le_lastSequence {records : List JournalRecord}
    (increasing : records.Pairwise fun earlier later =>
      earlier.sequence < later.sequence)
    (above : ∀ record ∈ records, cursor < record.sequence) : cursor ≤ lastSequence cursor records ∧
      ∀ record ∈ records, record.sequence ≤ lastSequence cursor records := by
  induction records generalizing cursor with
  | nil => exact ⟨Nat.le_refl cursor, nofun⟩
  | cons record records ih =>
    obtain ⟨later, rest⟩ := pairwise_cons.mp increasing
    obtain ⟨here, _⟩ := forall_mem_cons.mp above
    obtain ⟨first, others⟩ := ih rest later
    refine ⟨here.le.trans first, ?_⟩
    exact forall_mem_cons.mpr ⟨first, others⟩

namespace MemberJournal

variable (journal : MemberJournal) (nowMs freshnessMs : U64) (cursor : Nat)

theorem unserved_increasing :
    (journal.unserved nowMs freshnessMs cursor).Pairwise fun earlier later =>
      earlier.sequence < later.sequence :=
  (pairwise_numberedFrom _ _).filter _

variable {journal nowMs freshnessMs cursor} in
theorem mem_unserved_iff : record ∈ journal.unserved nowMs freshnessMs cursor ↔
      record ∈ journal.numbered ∧ cursor < record.sequence ∧
        isFresh record.report.observedAtMs nowMs freshnessMs := by
  unfold unserved
  rw [mem_filter, Bool.and_eq_true, decide_eq_true_eq]

/-- The mark after serving a journal. -/
def mark : Nat := lastSequence cursor (journal.unserved nowMs freshnessMs cursor)

theorem mark_facts : cursor ≤ journal.mark nowMs freshnessMs cursor ∧
      (∀ record ∈ journal.unserved nowMs freshnessMs cursor,
        record.sequence ≤ journal.mark nowMs freshnessMs cursor) ∧
      (journal.mark nowMs freshnessMs cursor = cursor ∨
        ∃ record ∈ journal.unserved nowMs freshnessMs cursor,
          record.sequence = journal.mark nowMs freshnessMs cursor) := by
  have above : ∀ record ∈ journal.unserved nowMs freshnessMs cursor,
      cursor < record.sequence := fun record listed =>
    (mem_unserved_iff.mp listed).2.1
  obtain ⟨first, others⟩ := le_lastSequence
    (journal.unserved_increasing nowMs freshnessMs cursor) above
  exact ⟨first, others, lastSequence_eq_or_mem _ _⟩

end MemberJournal

theorem cursorOf_insert (served : Served) (member other : Text) (sequence : Nat) :
    cursorOf (served.insert member sequence) other =
      if other = member then sequence else cursorOf served other := by
  unfold cursorOf
  split
  case isTrue same =>
    subst same
    rw [AList.lookup_insert]
    rfl
  case isFalse different =>
    rw [AList.lookup_insert_ne different]

namespace ConsensusStore

/-- The cursors are below the next sequences. -/
def CursorsBelow (store : ConsensusStore) (served : Served) : Prop :=
  ∀ member journal, store.journals.lookup member = some journal →
    cursorOf served member < journal.nextSequence

/-- The mark of a member after a check. -/
def markOf (store : ConsensusStore) (nowMs : U64) (served : Served) (member : Text) : Nat :=
  match store.journals.lookup member with
  | none => cursorOf served member
  | some journal =>
    journal.mark nowMs store.observationFreshnessMs (cursorOf served member)

variable {store : ConsensusStore}

theorem serveMember_eq (wellFormed : store.WellFormed) (nowMs : U64) (reports : List MemberReport)
    (below : store.CursorsBelow served) (member : Text) :
    (store.serveMember nowMs (reports, served) member).1 =
        reports ++ (store.unservedOf nowMs served member).map Entry.report ∧
      ∀ other, cursorOf (store.serveMember nowMs (reports, served) member).2 other =
          if other = member then store.markOf nowMs served member
          else cursorOf served other := by
  unfold serveMember unservedOf markOf
  cases found : store.journals.lookup member with
  | none =>
    refine ⟨by simp, ?_⟩
    intro other
    by_cases same : other = member
    · rw [if_pos same, same]
    · rw [if_neg same]
  | some journal =>
    have served_eq := MemberJournal.serve_eq (wellFormed.numbered member journal found) nowMs
      store.observationFreshnessMs (below member journal found)
    change _ = (_, journal.mark nowMs store.observationFreshnessMs
      (cursorOf served member)) at served_eq
    have marks := (journal.mark_facts nowMs store.observationFreshnessMs (cursorOf served member)).1
    simp only [← cursorOf.eq_1]
    rw [served_eq]
    refine ⟨?_, ?_⟩
    · rw [map_map]
      rfl
    · intro other
      split
      case isTrue moved => exact cursorOf_insert served member other _
      case isFalse still =>
        split
        case isTrue same =>
          rw [same]
          omega
        case isFalse => rfl

theorem markOf_below (wellFormed : store.WellFormed) (nowMs : U64)
    (below : store.CursorsBelow served) (found : store.journals.lookup member = some journal) :
    store.markOf nowMs served member < journal.nextSequence := by
  unfold markOf
  rw [found]
  rcases (journal.mark_facts nowMs store.observationFreshnessMs
    (cursorOf served member)).2.2 with same | ⟨record, listed, is⟩
  · simp only
    rw [same]
    exact below member journal found
  · simp only
    rw [← is]
    have retained := (MemberJournal.mem_unserved_iff.mp listed).1
    have bound := (sequence_of_mem_numberedFrom retained).2
    rw [(wellFormed.numbered member journal found).contiguous] at bound
    exact bound

theorem foldl_serveMember (wellFormed : store.WellFormed) (nowMs : U64) (members : List Text)
    (distinct : members.Nodup) (reports : List MemberReport) (below : store.CursorsBelow served) :
    (members.foldl (store.serveMember nowMs) (reports, served)).1 = reports ++ (members.flatMap
          (store.unservedOf nowMs served)).map Entry.report ∧
      ∀ other, cursorOf (members.foldl (store.serveMember nowMs) (reports, served)).2 other =
            if other ∈ members then store.markOf nowMs served other
            else cursorOf served other := by
  induction members generalizing reports served with
  | nil => simp
  | cons member members ih =>
    obtain ⟨absent, distinct⟩ := nodup_cons.mp distinct
    obtain ⟨first, cursors⟩ := serveMember_eq wellFormed nowMs reports below member
    have belowNext : store.CursorsBelow (store.serveMember nowMs (reports, served) member).2 := by
      intro other journal found
      rw [cursors other]
      split
      case isTrue same =>
        subst same
        exact markOf_below wellFormed nowMs below found
      case isFalse => exact below other journal found
    have unmoved : ∀ other ∈ members,
        cursorOf (store.serveMember nowMs (reports, served) member).2 other =
          cursorOf served other := by
      intro other listed
      rw [cursors other, if_neg]
      rintro rfl
      exact absent listed
    obtain ⟨rest, marks⟩ := ih distinct
      (store.serveMember nowMs (reports, served) member).1 belowNext
    rw [Prod.mk.eta] at rest marks
    refine ⟨?_, ?_⟩
    · have same : members.flatMap (store.unservedOf nowMs
          (store.serveMember nowMs (reports, served) member).2) =
          members.flatMap (store.unservedOf nowMs served) :=
        flatMap_congr fun other listed => by rw [unservedOf, unservedOf, unmoved other listed]
      rw [foldl_cons, rest, first, same, flatMap_cons, map_append, append_assoc]
    · intro other
      rw [foldl_cons, marks other]
      by_cases later : other ∈ members
      · rw [if_pos later, if_pos (mem_cons_of_mem member later), markOf, markOf,
          unmoved other later]
      · rw [if_neg later, cursors other]
        simp only [mem_cons, later, or_false]
        split
        case isTrue same => rw [same]
        case isFalse => rfl

end ConsensusStore

variable {source : StoreObservationSource}

/-- A check round of a well-formed store serves the unserved records and moves
every cursor to its mark. -/
theorem StoreObservationSource.collect_eq (wellFormed : source.store.WellFormed)
    (below : source.store.CursorsBelow source.served) (nowMs : U64) :
    (source.collect nowMs).1.reports = (source.unserved nowMs).map Entry.report ∧
      (source.collect nowMs).2.store = source.store ∧
      ∀ member, cursorOf (source.collect nowMs).2.served member =
        if member ∈ source.store.members then
          source.store.markOf nowMs source.served member
        else cursorOf source.served member := by
  have loop := source.store.foldl_serveMember wellFormed nowMs
    source.store.members wellFormed.distinct [] below
  unfold collect ConsensusStore.unservedRound
  rw [wellFormed.working]
  exact ⟨loop.1.trans (nil_append _), rfl, loop.2⟩

/-! ## Interleavings of appends and checks -/

/-- One check: its time, the store it read, the records appended until then, the
round it returned and the records this round served. -/
structure Collected where
  nowMs : U64
  store : ConsensusStore
  appended : List Entry
  round : Round
  served : List Entry

/-- The check that a source makes. -/
def StoreObservationSource.collected (source : StoreObservationSource) (appended : List Entry)
    (nowMs : U64) : Collected :=
  { nowMs, store := source.store
    appended, round := (source.collect nowMs).1
    served := source.unserved nowMs }

/-- The record that an append of a report adds. -/
def ConsensusStore.nextEntry (store : ConsensusStore) (report : MemberReport) : Entry :=
  { member := report.memberId, sequence := (store.nextSequence report.memberId).getD 0
    report }

/-- Any interleaving of successful appends and checks at any times, from a store
as it was opened: all records ever appended, the checks, and the source. -/
inductive Serves (initial : ConsensusStore) :
    List Entry → List Collected → StoreObservationSource → Prop
  | start : Serves initial initial.entries [] (.new initial)
  | record {appended : List Entry} {checks : List Collected} {source : StoreObservationSource}
      {report : MemberReport} {events : List (Event diskCalls)} {next : ConsensusStore} :
      Serves initial appended checks source →
      (source.store.record report).Runs events (some (.ok (), next)) →
      Serves initial (appended ++ [source.store.nextEntry report]) checks
        { source with store := next }
  | collect {appended : List Entry} {checks : List Collected} {source : StoreObservationSource}
      (nowMs : U64) : Serves initial appended checks source →
      Serves initial appended (checks ++ [source.collected appended nowMs]) (source.collect nowMs).2

/-- Everything served by some checks, in order. -/
def servedBy (checks : List Collected) : List Entry := checks.flatMap Collected.served

/-- The serve-once property of a sequence of checks. -/
structure ServedOnce (checks : List Collected) : Prop where
  /-- A record is identified by its member and sequence. -/
  identified : ∀ check ∈ checks, (check.appended.map Entry.key).Nodup
  /-- A round consists of the reports of appended records. -/
  faithful : ∀ check ∈ checks, check.round.reports = check.served.map Entry.report ∧
      ∀ entry ∈ check.served, entry ∈ check.appended
  /-- No record is served twice. -/
  once : ((servedBy checks).map Entry.key).Nodup
  /-- A served record is fresh at the time of its check. -/
  fresh : ∀ check ∈ checks, ∀ entry ∈ check.served, isFresh entry.report.observedAtMs check.nowMs
      check.store.observationFreshnessMs = true
  /-- The records of a member are served in the order of their sequences. -/
  ordered : (servedBy checks).Pairwise fun earlier later =>
    earlier.member = later.member → earlier.sequence < later.sequence
  /-- A fresh record is only passed over if an equal or later one of its member
  was served by an earlier check, or compaction dropped it. -/
  complete : ∀ before check later, checks = before ++ check :: later → ∀ entry ∈ check.appended,
      isFresh entry.report.observedAtMs check.nowMs check.store.observationFreshnessMs = true →
      entry ∈ check.served ∨ (∃ earlier ∈ servedBy before, earlier.member = entry.member ∧
            entry.sequence ≤ earlier.sequence) ∨
        check.store.Dropped entry

/-- What an interleaving keeps true. -/
structure ServeInvariant (appended : List Entry) (checks : List Collected)
    (source : StoreObservationSource) : Prop where
  wellFormed : source.store.WellFormed
  below : source.store.CursorsBelow source.served
  located : ∀ entry ∈ appended, ∃ journal,
    source.store.journals.lookup entry.member = some journal ∧
      entry.sequence < journal.nextSequence ∧
      (journal.firstSequence ≤ entry.sequence → entry ∈ source.store.entriesOf entry.member)
  retained : ∀ member, ∀ entry ∈ source.store.entriesOf member, entry ∈ appended
  identified : (appended.map Entry.key).Nodup
  passed : ∀ entry ∈ servedBy checks, entry.sequence ≤ cursorOf source.served entry.member
  reached : ∀ member, cursorOf source.served member = 0 ∨
    ∃ entry ∈ servedBy checks, entry.member = member ∧
      entry.sequence = cursorOf source.served member
  servedOnce : ServedOnce checks

namespace ConsensusStore

variable {store : ConsensusStore}

theorem entriesOf_eq (found : store.journals.lookup member = some journal) :
    store.entriesOf member =
      journal.numbered.map (Entry.ofRecord member) := by
  unfold entriesOf
  rw [found]

theorem mem_entriesOf (listed : entry ∈ store.entriesOf member) :
    entry.member = member ∧ ∃ journal, store.journals.lookup member = some journal ∧
        entry.sequence < journal.firstSequence + journal.records.length := by
  unfold entriesOf at listed
  cases found : store.journals.lookup member with
  | none =>
    rw [found] at listed
    cases listed
  | some journal =>
    rw [found] at listed
    obtain ⟨record, numbered, rfl⟩ := mem_map.mp listed
    exact ⟨rfl, journal, rfl, (sequence_of_mem_numberedFrom numbered).2⟩

theorem mem_unservedOf_iff : entry ∈ store.unservedOf nowMs served member ↔
      entry ∈ store.entriesOf member ∧ cursorOf served member < entry.sequence ∧
        isFresh entry.report.observedAtMs nowMs store.observationFreshnessMs := by
  unfold unservedOf entriesOf
  cases store.journals.lookup member with
  | none => simp
  | some journal =>
    simp only [mem_map, MemberJournal.mem_unserved_iff]
    constructor
    · rintro ⟨record, ⟨numbered, after, fresh⟩, rfl⟩
      exact ⟨⟨record, numbered, rfl⟩, after, fresh⟩
    · rintro ⟨⟨record, numbered, rfl⟩, after, fresh⟩
      exact ⟨record, ⟨numbered, after, fresh⟩, rfl⟩

theorem member_of_unserved (listed : entry ∈ store.unservedOf nowMs served member) :
    entry.member = member :=
  (mem_entriesOf (mem_unservedOf_iff.mp listed).1).1

theorem unservedOf_increasing (store : ConsensusStore) (nowMs : U64) (served : Served)
    (member : Text) : (store.unservedOf nowMs served member).Pairwise fun earlier later =>
      earlier.sequence < later.sequence := by
  unfold unservedOf
  cases store.journals.lookup member with
  | none => exact .nil
  | some journal =>
    rw [pairwise_map]
    exact journal.unserved_increasing _ _ _

theorem markOf_facts (store : ConsensusStore) (nowMs : U64) (served : Served) (member : Text) :
    cursorOf served member ≤ store.markOf nowMs served member ∧
      (∀ entry ∈ store.unservedOf nowMs served member,
        entry.sequence ≤ store.markOf nowMs served member) ∧
      (store.markOf nowMs served member = cursorOf served member ∨
        ∃ entry ∈ store.unservedOf nowMs served member,
          entry.sequence = store.markOf nowMs served member) := by
  unfold markOf unservedOf
  cases store.journals.lookup member with
  | none => exact ⟨Nat.le_refl _, nofun, .inl rfl⟩
  | some journal =>
    obtain ⟨moves, bounds, reached⟩ := journal.mark_facts nowMs
      store.observationFreshnessMs (cursorOf served member)
    refine ⟨moves, ?_, ?_⟩
    · intro entry listed
      obtain ⟨record, unserved, rfl⟩ := mem_map.mp listed
      exact bounds record unserved
    · rcases reached with same | ⟨record, unserved, is⟩
      · exact .inl same
      · exact .inr ⟨_, mem_map_of_mem unserved, is⟩

/-- The retained records have distinct identities. -/
theorem entries_identified (wellFormed : store.WellFormed) :
    (store.entries.map Entry.key).Nodup := by
  unfold List.Nodup entries
  rw [pairwise_map, pairwise_flatMap]
  refine ⟨?_, ?_⟩
  · intro member _
    unfold entriesOf
    cases store.journals.lookup member with
    | none => exact .nil
    | some journal =>
      rw [pairwise_map]
      refine (pairwise_numberedFrom _ _).imp ?_
      intro earlier later before same
      have sequences : earlier.sequence = later.sequence := congrArg Prod.snd same
      omega
  · refine wellFormed.distinct.imp ?_
    intro member other different first firstListed second secondListed same
    apply different
    rw [← (mem_entriesOf firstListed).1, ← (mem_entriesOf secondListed).1]
    exact congrArg Prod.fst same

end ConsensusStore

theorem ServeInvariant.start {initial : ConsensusStore} (wellFormed : initial.WellFormed) :
    ServeInvariant initial.entries [] (.new initial) where
  wellFormed := wellFormed
  below := by
    intro member journal found
    have positive := (wellFormed.numbered member journal found).positive
    have contiguous := (wellFormed.numbered member journal found).contiguous
    change 0 < journal.nextSequence
    omega
  located := by
    intro entry listed
    obtain ⟨member, _, retained⟩ := mem_flatMap.mp listed
    obtain ⟨rfl, journal, found, bound⟩ := ConsensusStore.mem_entriesOf retained
    rw [(wellFormed.numbered _ journal found).contiguous] at bound
    exact ⟨journal, found, bound, fun _ => retained⟩
  retained := by
    intro member entry listed
    obtain ⟨_, journal, found, _⟩ := ConsensusStore.mem_entriesOf listed
    have known : member ∈ initial.members := (wellFormed.journaled member).mp
        (AList.lookup_isSome.mp (Option.isSome_iff_exists.mpr ⟨_, found⟩))
    exact mem_flatMap.mpr ⟨member, known, listed⟩
  identified := ConsensusStore.entries_identified wellFormed
  passed := nofun
  reached := fun _ => .inl rfl
  servedOnce :=
    { identified := nofun, faithful := nofun, once := .nil, fresh := nofun, ordered := .nil
      complete := by
        intro before check later split
        simp at split }

theorem mem_drop_numberedFrom {count : Nat} (positive : 0 < first)
    (listed : record ∈ numberedFrom first reports)
    (after : first + count ≤ record.sequence) :
    record ∈ (numberedFrom first reports).drop count := by
  have suffix := filter_numberedFrom first (first + count - 1) reports
  have length : first + count - 1 + 1 - first = count := by omega
  rw [length] at suffix
  rw [← suffix, mem_filter, decide_eq_true_eq]
  exact ⟨listed, by omega⟩

theorem MemberJournal.Numbered.concat {journal : MemberJournal} (numbered : journal.Numbered)
    (report : MemberReport) :
    journal.numbered ++ [(⟨journal.nextSequence, report⟩ : JournalRecord)] =
      numberedFrom journal.firstSequence (journal.records ++ [report]) := by
  rw [numberedFrom_append, numbered.contiguous]
  rfl

theorem MemberJournal.numbered_push {journal : MemberJournal} (numbered : journal.Numbered)
    (report : MemberReport) (freshnessMs : U64) (file : Nat) (checkpoint : Option Checkpoint) :
    (journal.push report freshnessMs file checkpoint).numbered = (journal.numbered ++
        [(⟨journal.nextSequence, report⟩ : JournalRecord)]).drop
          (compactablePrefixLen (journal.records ++ [report]) freshnessMs) := by
  rw [numbered.concat, drop_numberedFrom]
  rfl

theorem mem_unserved (listed : entry ∈ source.unserved nowMs) :
    entry.member ∈ source.store.members ∧
      entry ∈ source.store.unservedOf nowMs source.served entry.member := by
  obtain ⟨member, known, unserved⟩ := mem_flatMap.mp listed
  rw [ConsensusStore.member_of_unserved unserved]
  exact ⟨known, unserved⟩

theorem servedBy_concat (checks : List Collected) (check : Collected) :
    servedBy (checks ++ [check]) = servedBy checks ++ check.served := by
  simp [servedBy]

section

variable (holds : ServeInvariant appended checks source)

include holds

theorem ServeInvariant.record {next : ConsensusStore} (appends : source.store.Appends report next) :
    ServeInvariant (appended ++ [source.store.nextEntry report]) checks
      { source with store := next } := by
  have wellFormed := appends.wellFormed holds.wellFormed
  obtain ⟨_, journal, file, checkpoint, found, fits, isNext⟩ := appends
  have numbered := holds.wellFormed.numbered _ journal found
  let pushed := journal.push report source.store.observationFreshnessMs file checkpoint
  let newRecord : JournalRecord := ⟨journal.nextSequence, report⟩
  have newEntry : source.store.nextEntry report = Entry.ofRecord report.memberId newRecord := by
    unfold ConsensusStore.nextEntry ConsensusStore.nextSequence
    rw [found]
    rfl
  have pushedHere : next.journals.lookup report.memberId = some pushed := by
    rw [isNext]
    exact AList.lookup_insert _
  have unchanged : ∀ member, member ≠ report.memberId →
      next.journals.lookup member = source.store.journals.lookup member := by
    intro member different
    rw [isNext]
    exact AList.lookup_insert_ne different
  have entriesUnchanged : ∀ member, member ≠ report.memberId →
      next.entriesOf member = source.store.entriesOf member := by
    intro member different
    unfold ConsensusStore.entriesOf
    rw [unchanged member different]
  have pushedNumbered := journal.numbered_push numbered report
    source.store.observationFreshnessMs file checkpoint
  have survives : ∀ record ∈ journal.numbered ++ [newRecord],
      pushed.firstSequence ≤ record.sequence →
        Entry.ofRecord report.memberId record ∈ next.entriesOf report.memberId := by
    intro record listed after
    rw [numbered.concat] at listed
    rw [ConsensusStore.entriesOf_eq pushedHere, pushedNumbered, numbered.concat]
    exact mem_map_of_mem (mem_drop_numberedFrom numbered.positive listed after)
  refine
    { wellFormed, below := ?_
      located := forall_mem_concat ?_ ?_, retained := ?_
      identified := nodup_map_concat holds.identified ?_, passed := holds.passed
      reached := holds.reached, servedOnce := holds.servedOnce }
  · intro member other lookedUp
    by_cases same : member = report.memberId
    · subst same
      rw [pushedHere, Option.some.injEq] at lookedUp
      rw [← lookedUp]
      exact (holds.below _ journal found).trans (Nat.lt_succ_self _)
    · rw [unchanged member same] at lookedUp
      exact holds.below member other lookedUp
  · intro entry old
    obtain ⟨other, lookedUp, bound, kept⟩ := holds.located entry old
    by_cases same : entry.member = report.memberId
    · rw [same, found, Option.some.injEq] at lookedUp
      subst lookedUp
      rw [same]
      refine ⟨pushed, pushedHere, bound.trans (Nat.lt_succ_self _), ?_⟩
      intro after
      have retained := kept ((Nat.le_add_right _ _).trans after)
      rw [same, ConsensusStore.entriesOf_eq found] at retained
      obtain ⟨record, isNumbered, rfl⟩ := mem_map.mp retained
      exact survives record (mem_append_left _ isNumbered) after
    · rw [unchanged _ same, entriesUnchanged _ same]
      exact ⟨other, lookedUp, bound, kept⟩
  · rw [newEntry]
    exact ⟨pushed, pushedHere, Nat.lt_succ_self _, survives newRecord mem_concat_self⟩
  · intro member entry listed
    rw [mem_append, mem_singleton, newEntry]
    by_cases same : member = report.memberId
    · subst same
      rw [ConsensusStore.entriesOf_eq pushedHere, pushedNumbered] at listed
      obtain ⟨record, isNumbered, rfl⟩ := mem_map.mp listed
      rcases mem_append.mp (mem_of_mem_drop isNumbered) with old | new
      · refine .inl (holds.retained report.memberId _ ?_)
        rw [ConsensusStore.entriesOf_eq found]
        exact mem_map_of_mem old
      · rw [mem_singleton.mp new]
        exact .inr rfl
    · rw [entriesUnchanged member same] at listed
      exact .inl (holds.retained member entry listed)
  · intro entry old keyed
    rw [newEntry] at keyed
    have sameMember : entry.member = report.memberId := congrArg Prod.fst keyed
    have sameSequence : entry.sequence = journal.nextSequence := congrArg Prod.snd keyed
    obtain ⟨other, lookedUp, bound, _⟩ := holds.located entry old
    rw [sameMember, found, Option.some.injEq] at lookedUp
    subst lookedUp
    omega

/-! ## Checking -/

/-- What a check serves comes after everything served before, and is itself in
order. -/
theorem ServeInvariant.ordered_collect (nowMs : U64) :
    (servedBy checks ++ source.unserved nowMs).Pairwise fun earlier later =>
        earlier.member = later.member → earlier.sequence < later.sequence := by
  rw [pairwise_append]
  refine ⟨holds.servedOnce.ordered, ?_, ?_⟩
  · unfold StoreObservationSource.unserved
    rw [pairwise_flatMap]
    refine ⟨?_, ?_⟩
    · intro member _
      refine (source.store.unservedOf_increasing nowMs source.served member).imp ?_
      intro earlier later before _
      exact before
    · refine holds.wellFormed.distinct.imp ?_
      intro member other different first firstListed second secondListed same
      rw [ConsensusStore.member_of_unserved firstListed,
        ConsensusStore.member_of_unserved secondListed] at same
      exact absurd same different
  · intro earlier served later listed same
    have bound := holds.passed earlier served
    have after := (ConsensusStore.mem_unservedOf_iff.mp (mem_unserved listed).2).2.1
    rw [same] at bound
    omega

/-- A fresh appended record is served by the next check, or its member's cursor
has passed it, or compaction dropped it. -/
theorem ServeInvariant.complete_collect (nowMs : U64) (listed : entry ∈ appended)
    (fresh : isFresh entry.report.observedAtMs nowMs source.store.observationFreshnessMs) :
    entry ∈ source.unserved nowMs ∨ (∃ earlier ∈ servedBy checks,
        earlier.member = entry.member ∧ entry.sequence ≤ earlier.sequence) ∨
      source.store.Dropped entry := by
  obtain ⟨journal, found, _, kept⟩ := holds.located entry listed
  by_cases dropped : entry.sequence < journal.firstSequence
  · exact .inr (.inr ⟨journal, found, dropped⟩)
  have retained := kept (Nat.le_of_not_lt dropped)
  by_cases after : cursorOf source.served entry.member < entry.sequence
  · have known : entry.member ∈ source.store.members := (holds.wellFormed.journaled _).mp
        (AList.lookup_isSome.mp (Option.isSome_iff_exists.mpr ⟨_, found⟩))
    refine .inl (mem_flatMap.mpr ⟨entry.member, known, ?_⟩)
    exact ConsensusStore.mem_unservedOf_iff.mpr ⟨retained, after, fresh⟩
  · refine .inr (.inl ?_)
    rcases holds.reached entry.member with zero | ⟨earlier, served, same, is⟩
    · have positive := (holds.wellFormed.numbered _ journal found).positive
      omega
    · exact ⟨earlier, served, same, by omega⟩

/-- One more check keeps the serve-once property. -/
theorem ServeInvariant.servedOnce_collect (nowMs : U64) :
    ServedOnce (checks ++ [source.collected appended nowMs]) := by
  have ordered := holds.ordered_collect nowMs
  refine
    { identified := forall_mem_concat holds.servedOnce.identified holds.identified
      faithful := forall_mem_concat holds.servedOnce.faithful ⟨?_, ?_⟩, once := ?_
      fresh := forall_mem_concat holds.servedOnce.fresh ?_, ordered := ?_, complete := ?_ }
  · exact (StoreObservationSource.collect_eq holds.wellFormed holds.below nowMs).1
  · intro entry listed
    exact holds.retained _ entry (ConsensusStore.mem_unservedOf_iff.mp
      (mem_unserved listed).2).1
  · rw [servedBy_concat]
    unfold List.Nodup
    rw [pairwise_map]
    refine ordered.imp ?_
    intro earlier later before same
    have member : earlier.member = later.member := congrArg Prod.fst same
    have sequence : earlier.sequence = later.sequence := congrArg Prod.snd same
    have strict := before member
    omega
  · intro entry listed
    exact (ConsensusStore.mem_unservedOf_iff.mp (mem_unserved listed).2).2.2
  · rw [servedBy_concat]
    exact ordered
  · intro before check later split
    cases later using reverseRecOn with
    | nil =>
      obtain ⟨sameBefore, sameCheck⟩ := append_inj' split rfl
      cases sameCheck
      rw [← sameBefore]
      exact fun entry listed fresh =>
        holds.complete_collect nowMs listed fresh
    | append_singleton later final =>
      rw [← cons_append, ← append_assoc] at split
      exact holds.servedOnce.complete before check later (append_inj' split rfl).1

theorem ServeInvariant.collect (nowMs : U64) :
    ServeInvariant appended (checks ++ [source.collected appended nowMs])
      (source.collect nowMs).2 := by
  obtain ⟨_, sameStore, marks⟩ := StoreObservationSource.collect_eq
    holds.wellFormed holds.below nowMs
  have moved : ∀ member, cursorOf source.served member ≤
      cursorOf (source.collect nowMs).2.served member := by
    intro member
    rw [marks member]
    split
    · exact (source.store.markOf_facts nowMs source.served member).1
    · exact Nat.le_refl _
  refine
    { wellFormed := by rw [sameStore]; exact holds.wellFormed
      below := ?_
      located := by rw [sameStore]; exact holds.located
      retained := by rw [sameStore]; exact holds.retained
      identified := holds.identified, passed := ?_, reached := ?_
      servedOnce := holds.servedOnce_collect nowMs }
  · rw [sameStore]
    intro member journal found
    rw [marks member]
    split
    · exact ConsensusStore.markOf_below holds.wellFormed nowMs holds.below found
    · exact holds.below member journal found
  · intro entry listed
    rw [servedBy_concat, mem_append] at listed
    rcases listed with earlier | now
    · exact (holds.passed entry earlier).trans (moved entry.member)
    · obtain ⟨known, unserved⟩ := mem_unserved now
      rw [marks entry.member, if_pos known]
      exact (source.store.markOf_facts nowMs source.served entry.member).2.1 entry unserved
  · intro member
    rw [servedBy_concat, marks member]
    have earlier : cursorOf source.served member = 0 ∨
        ∃ entry ∈ servedBy checks ++ source.unserved nowMs, entry.member = member ∧
            entry.sequence = cursorOf source.served member := by
      rcases holds.reached member with zero | ⟨entry, served, facts⟩
      · exact .inl zero
      · exact .inr ⟨entry, mem_append_left _ served, facts⟩
    split
    case isTrue known =>
      rcases (source.store.markOf_facts nowMs source.served member).2.2 with
        same | ⟨entry, unserved, is⟩
      · rw [same]
        exact earlier
      · exact .inr ⟨entry, mem_append_right _ (mem_flatMap.mpr ⟨member, known, unserved⟩),
          ConsensusStore.member_of_unserved unserved, is⟩
    case isFalse => exact earlier

end

theorem Serves.invariant {initial : ConsensusStore} (wellFormed : initial.WellFormed)
    (serves : Serves initial appended checks source) : ServeInvariant appended checks source := by
  induction serves with
  | start => exact .start wellFormed
  | @record appended checks source report events next _ runs ih =>
    exact ih.record ((source.store.record_yields report).sound runs _ rfl rfl)
  | collect nowMs _ ih => exact ih.collect nowMs

/-- From any opened store, over any interleaving of successful appends and of
checks at any times, every record is served at most once, in order and fresh,
and none is passed over without a reason. -/
theorem records_served_once {members : List Text} {freshnessMs : U64}
    {opening : List (Event diskCalls)} {initial : ConsensusStore} {appended : List Entry}
    {checks : List Collected} {source : StoreObservationSource}
    (opened : (ConsensusStore.openStore members freshnessMs).run.Runs opening (some (.ok initial)))
    (serves : Serves initial appended checks source) : ServedOnce checks := by
  have wellFormed : initial.WellFormed :=
    ((openStore_yields members freshnessMs).sound opened _ rfl initial rfl).1
  exact (serves.invariant wellFormed).servedOnce

/-- Records that are appended one after the other. -/
theorem Serves.recordAll {source : StoreObservationSource}
    (serves : Serves initial appended checks source)
    (recorded : source.store.RecordsAll reports final) :
    ∃ appended, Serves initial appended checks { source with store := final } := by
  generalize isStore : source.store = store at recorded
  induction recorded generalizing source appended with
  | done store =>
    subst isStore
    exact ⟨appended, serves⟩
  | record runs _ ih =>
    subst isStore
    obtain ⟨appended, served⟩ := ih (serves.record runs) rfl
    exact ⟨appended, served⟩

/-- Open a store, append eight reports of a member and check; append two more,
with which the first two are compacted away, and check twice. -/
def serveDrill : Option (List Nat) :=
  (ConsensusStore.Session.start ConsensusStore.drillMembers 10).bind fun opened =>
    (opened.recordAll (replicate 8 (ConsensusStore.outageReport "a".toList 1000))).bind fun full =>
      (full.recordAll [ConsensusStore.outageReport "a".toList 2000,
          ConsensusStore.outageReport "a".toList 2001]).map fun compacted =>
        let before : StoreObservationSource := { store := full.store, served := ∅ }
        let after := { (before.collect 1000).2 with store := compacted.store }
        [(before.unserved 1000).length, (after.unserved 2001).length,
          ((after.collect 2001).2.unserved 2001).length, compacted.store.entries.length]

/-- The first check serves the eight reports, the second the two that came later
and the third none, while eight of the ten are left in the store. -/
theorem records_served_once_drill : ∃ (initial : ConsensusStore) (appended : List Entry)
    (first second third : Collected) (source : StoreObservationSource),
    Serves initial appended [first, second, third] source ∧
      first.served.length = 8 ∧ second.served.length = 2 ∧ third.served.length = 0 ∧
      source.store.entries.length = 8 ∧ ServedOnce [first, second, third] := by
  have ran : serveDrill = some [8, 2, 0, 8] := by decide +kernel
  obtain ⟨opened, started, ran⟩ := Option.bind_eq_some_iff.mp ran
  obtain ⟨full, recorded, ran⟩ := Option.bind_eq_some_iff.mp ran
  obtain ⟨compacted, recordedAfter, lengths⟩ := Option.map_eq_some_iff.mp ran
  simp only [cons.injEq, and_true] at lengths
  obtain ⟨firstLength, secondLength, thirdLength, retained⟩ := lengths
  obtain ⟨opening, openRuns⟩ := ConsensusStore.Session.start_runs started
  have begun : Serves opened.store opened.store.entries [] (.new opened.store) := .start
  obtain ⟨_, served⟩ :=
    begun.recordAll (ConsensusStore.Session.recordsAll_of_recordAll recorded)
  obtain ⟨_, served⟩ := (served.collect 1000).recordAll
    (ConsensusStore.Session.recordsAll_of_recordAll recordedAfter)
  have serves := (served.collect 2001).collect 2001
  exact ⟨_, _, _, _, _, _, serves, firstLength, secondLength, thirdLength, retained,
    records_served_once openRuns serves⟩

end Zrotext.Failover
