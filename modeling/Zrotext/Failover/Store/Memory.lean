import Zrotext.Failover.Store.Consensus
import Zrotext.Foundation.Retention

/-!
# What the store keeps in memory

Compaction drops the aged prefix of a journal, and in memory this is all that it
does.  A successful append therefore has the same effect on the journals
whatever the directory answered, and every opened store numbers its records
without gaps.
-/

namespace Zrotext.Failover

open Foundation Foundation.Program Foundation.Retention StoreProgram List Option

/-- The time of a report. -/
def observedAt (report : MemberReport) : Nat := report.observedAtMs.val

theorem isFresh_iff (observedAtMs nowMs freshnessMs : U64) :
    isFresh observedAtMs nowMs freshnessMs ↔ observedAtMs.val ≤ nowMs.val ∧
        nowMs.val ≤ observedAtMs.val + freshnessMs.val := by
  unfold isFresh
  rw [decide_eq_true_eq]
  omega

theorem newestObservation_eq_some (newest : newestObservation records = some anchor) :
    (∃ report ∈ records, report.observedAtMs = anchor) ∧
      ∀ report ∈ records, report.observedAtMs ≤ anchor := by
  obtain ⟨member, above⟩ := List.max?_eq_some_iff.mp newest
  refine ⟨mem_map.mp member, ?_⟩
  intro report listed
  exact above _ (mem_map_of_mem listed)

theorem not_isFresh_anchor_iff (newest : newestObservation records = some anchor)
    (freshnessMs : U64) (listed : report ∈ records) :
    (!isFresh report.observedAtMs anchor freshnessMs) =
      decide (Outdated observedAt freshnessMs.val records report) := by
  obtain ⟨⟨last, lastListed, lastIs⟩, above⟩ := newestObservation_eq_some newest
  have below : report.observedAtMs.val ≤ anchor.val := above report listed
  rw [Bool.eq_iff_iff, Bool.not_eq_true', ← Bool.not_eq_true, isFresh_iff, decide_eq_true_eq]
  constructor
  · intro stale
    refine ⟨last, lastListed, ?_⟩
    unfold observedAt
    rw [lastIs]
    omega
  · rintro ⟨newer, newerListed, later⟩ ⟨_, recent⟩
    have bound : newer.observedAtMs.val ≤ anchor.val := above newer newerListed
    unfold observedAt at later
    omega

theorem takeWhile_congr {α : Type} {first second : α → Bool} {entries : List α}
    (same : ∀ entry ∈ entries, first entry = second entry) :
    entries.takeWhile first = entries.takeWhile second := by
  induction entries with
  | nil => rfl
  | cons entry entries ih =>
    rw [takeWhile_cons, takeWhile_cons, same entry mem_cons_self, ih fun other listed =>
        same other (mem_cons_of_mem entry listed)]

/-- The store drops the aged prefix of a journal. -/
theorem compactablePrefixLen_eq (records : List MemberReport) (freshnessMs : U64) :
    compactablePrefixLen records freshnessMs =
      agedPrefix observedAt freshnessMs.val journalRetainedFloor records := by
  unfold compactablePrefixLen agedPrefix
  cases newest : newestObservation records with
  | none =>
    rw [map_eq_nil_iff.mp (List.max?_eq_none_iff.mp newest)]
    rfl
  | some anchor =>
    simp only
    rw [takeWhile_congr fun report listed =>
      not_isFresh_anchor_iff newest freshnessMs listed]

theorem compactablePrefixLen_add_floor_le
    (positive : compactablePrefixLen records freshnessMs ≠ 0) :
    compactablePrefixLen records freshnessMs + journalRetainedFloor ≤ records.length := by
  rw [compactablePrefixLen_eq] at positive ⊢
  have bound : agedPrefix observedAt freshnessMs.val journalRetainedFloor
      records ≤ records.length - journalRetainedFloor :=
    Nat.min_le_right _ _
  omega

/-- Append reports one at a time, compacting after each. -/
def appendAll (freshnessMs : U64) : List MemberReport → List MemberReport → List MemberReport
  | records, [] => records
  | records, report :: reports =>
    let appended := records ++ [report]
    appendAll freshnessMs (appended.drop (compactablePrefixLen appended freshnessMs)) reports

theorem drop_compactablePrefixLen_append (records more : List MemberReport) (freshnessMs : U64) :
    compactablePrefixLen records freshnessMs + compactablePrefixLen
          (records.drop (compactablePrefixLen records freshnessMs) ++ more) freshnessMs =
      compactablePrefixLen (records ++ more) freshnessMs := by
  simp only [compactablePrefixLen_eq]
  have aged : agedPrefix observedAt freshnessMs.val journalRetainedFloor records ≤
        agedPrefix observedAt freshnessMs.val journalRetainedFloor (records ++ more) :=
    agedPrefix_le_append records more
  have shortened := agedPrefix_drop aged
  rw [drop_append_of_le_length (agedPrefix_le_length records)] at shortened
  omega

/-- Compacting after every append amounts to compacting once at the end. -/
theorem appendAll_eq (freshnessMs : U64) (records reports : List MemberReport)
    (nonempty : reports ≠ []) : appendAll freshnessMs records reports = (records ++ reports).drop
        (compactablePrefixLen (records ++ reports) freshnessMs) := by
  induction reports generalizing records with
  | nil => exact absurd rfl nonempty
  | cons report reports ih =>
    unfold appendAll
    by_cases last : reports = []
    · rw [last]
      rfl
    · rw [ih _ last]
      have whole := drop_compactablePrefixLen_append (records ++ [report]) reports freshnessMs
      have bound : compactablePrefixLen (records ++ [report]) freshnessMs ≤
          (records ++ [report]).length := by
        rw [compactablePrefixLen_eq]
        exact agedPrefix_le_length _
      rw [← drop_append_of_le_length bound] at whole ⊢
      rw [drop_drop, whole, append_assoc, singleton_append]

theorem numberedFrom_append (sequence : Nat) (first second : List MemberReport) :
    numberedFrom sequence (first ++ second) = numberedFrom sequence first ++
        numberedFrom (sequence + first.length) second := by
  induction first generalizing sequence with
  | nil => rfl
  | cons report first ih =>
    simp only [cons_append, numberedFrom, ih, length_cons]
    rw [Nat.add_assoc, Nat.add_comm 1]

theorem drop_numberedFrom (sequence count : Nat) (reports : List MemberReport) :
    (numberedFrom sequence reports).drop count =
      numberedFrom (sequence + count) (reports.drop count) := by
  induction reports generalizing sequence count with
  | nil => simp [numberedFrom]
  | cons report reports ih =>
    cases count with
    | zero => rfl
    | succ count =>
      simp only [numberedFrom, drop_succ_cons, ih]
      rw [Nat.add_assoc, Nat.add_comm 1]

variable {α : Type} {sequence : Nat}

theorem sequence_of_mem_numberedFrom (listed : record ∈ numberedFrom sequence reports) :
    sequence ≤ record.sequence ∧
      record.sequence < sequence + reports.length := by
  induction reports generalizing sequence with
  | nil => cases listed
  | cons report reports ih =>
    rcases mem_cons.mp listed with rfl | later
    · simp
    · have bounds := ih later
      rw [length_cons]
      omega

theorem report_of_mem_numberedFrom (listed : record ∈ numberedFrom sequence reports) :
    record.report ∈ reports := by
  induction reports generalizing sequence with
  | nil => cases listed
  | cons report reports ih =>
    rcases mem_cons.mp listed with rfl | later
    · exact mem_cons_self
    · exact mem_cons_of_mem report (ih later)

theorem pairwise_numberedFrom (sequence : Nat) (reports : List MemberReport) :
    (numberedFrom sequence reports).Pairwise
      fun earlier later => earlier.sequence < later.sequence := by
  induction reports generalizing sequence with
  | nil => exact .nil
  | cons report reports ih =>
    refine .cons ?_ (ih (sequence + 1))
    intro later listed
    exact (sequence_of_mem_numberedFrom listed).1

/-- The reports after a cursor are a suffix. -/
theorem filter_numberedFrom (sequence cursor : Nat) (reports : List MemberReport) :
    ((numberedFrom sequence reports).filter fun record =>
        decide (cursor < record.sequence)) =
      (numberedFrom sequence reports).drop (cursor + 1 - sequence) := by
  induction reports generalizing sequence with
  | nil => simp [numberedFrom]
  | cons report reports ih =>
    rw [numberedFrom, filter_cons, ih]
    by_cases after : cursor < sequence
    · have here : cursor + 1 - sequence = 0 := by omega
      have next : cursor + 1 - (sequence + 1) = 0 := by omega
      simp [after, here, next]
    · have here : cursor + 1 - sequence = cursor + 1 - (sequence + 1) + 1 := by omega
      simp only [after, decide_false, Bool.false_eq_true, if_false]
      rw [here, drop_succ_cons]

/-- A successful outcome satisfies a property. -/
def Succeeds {α : Type} (post : α → Prop) (outcome : Except StoreError α) : Prop :=
  ∀ value, outcome = .ok value → post value

@[simp] theorem succeeds_ok {α : Type} (post : α → Prop) (value : α) :
    Succeeds post (.ok value) ↔ post value := by
  simp [Succeeds]

@[simp] theorem succeeds_error (post : α → Prop) (error : StoreError) :
    Succeeds post (.error error) := by
  simp [Succeeds]

/-- A sequence succeeds only through its first program. -/
theorem yields_andThen {α β : Type} {between : α → Prop} {post : β → Prop}
    {program : StoreProgram α} {continuation : α → StoreProgram β}
    (first : Yields (Succeeds between) program.run) (rest : ∀ value, between value →
      Yields (Succeeds post) (continuation value).run) :
    Yields (Succeeds post) (program >>= continuation).run := by
  rw [yields_except_bind]
  refine first.mono ?_
  intro outcome succeeds
  cases outcome with
  | ok value => exact rest value (succeeds value rfl)
  | error failure => exact succeeds_error post failure

theorem yields_any (program : Program diskCalls (Except StoreError α)) :
    Yields (Succeeds fun _ => True) program := by
  induction program with
  | done value => exact fun _ _ => trivial
  | call op next ih =>
    exact fun answer => ih answer

theorem yields_compute (succeeds : Succeeds post result) :
    Yields (Succeeds post) (compute result).run :=
  succeeds

theorem yields_pure (holds : post value) :
    Yields (Succeeds post) (pure value : StoreProgram α).run := by
  rw [ExceptT.run_pure]
  exact (succeeds_ok post value).mpr holds

theorem yields_throw (post : α → Prop) (error : StoreError) :
    Yields (Succeeds post) (throw error : StoreProgram α).run := by
  rw [ExceptT.run_throw]
  exact succeeds_error post error

/-- What a compaction leaves in memory. -/
def Compaction.Drops (compaction : Compaction) (firstSequence : Nat) (records : List MemberReport)
    (freshnessMs : U64) : Prop :=
  compaction.firstSequence = firstSequence + compactablePrefixLen records freshnessMs ∧
    compaction.records = records.drop (compactablePrefixLen records freshnessMs)

theorem compactJournal_yields (member : Text) (firstSequence : Nat) (records : List MemberReport)
    (previous : Option Checkpoint) (freshnessMs : U64) : Yields (Succeeds fun compaction =>
        compaction.Drops firstSequence records freshnessMs)
      (compactJournal member firstSequence records previous freshnessMs).run := by
  unfold compactJournal
  by_cases nothing : compactablePrefixLen records freshnessMs = 0
  · simp only [nothing, if_true]
    refine yields_pure ?_
    unfold Compaction.Drops
    rw [nothing]
    exact ⟨rfl, rfl⟩
  · simp only [nothing, if_false]
    refine yields_andThen (yields_any _) ?_
    intro lines _
    split
    · exact yields_throw _ _
    · refine yields_andThen (yields_any _) fun _ _ => ?_
      refine yields_andThen (yields_any _) fun _ _ => ?_
      refine yields_andThen (yields_any _) fun _ _ => ?_
      exact yields_pure ⟨rfl, rfl⟩

/-- The journal with one more report, compacted. -/
def MemberJournal.push (journal : MemberJournal) (report : MemberReport) (freshnessMs : U64)
    (file : Nat) (checkpoint : Option Checkpoint) : MemberJournal :=
  let records := journal.records ++ [report]
  let dropped := compactablePrefixLen records freshnessMs
  { file, firstSequence := journal.firstSequence + dropped
    nextSequence := journal.nextSequence + 1, records := records.drop dropped
    checkpoint }

/-- The effect of a successful append on the store in memory. -/
def ConsensusStore.Appends (store : ConsensusStore) (report : MemberReport)
    (next : ConsensusStore) : Prop :=
  store.failure = none ∧ ∃ journal file checkpoint,
      store.journals.lookup report.memberId = some journal ∧ journal.nextSequence + 1 < 2 ^ 64 ∧
        next = store.setJournal report.memberId
          (journal.push report store.observationFreshnessMs file checkpoint)

namespace ConsensusStore

/-- The result of an append that was reported as successful. -/
def Recorded (store : ConsensusStore) (report : MemberReport)
    (outcome : Except StoreError Unit × ConsensusStore) : Prop :=
  outcome.1 = .ok () → store.Appends report outcome.2

theorem rotate_yields {store : ConsensusStore} {report : MemberReport}
    (working : store.failure = none) (found : store.journals.lookup report.memberId = some journal)
    (fits : journal.nextSequence + 1 < 2 ^ 64) : Yields (store.Recorded report)
      (store.rotate report.memberId
        { journal with
          nextSequence := journal.nextSequence + 1
          records := journal.records ++ [report] }) := by
  unfold rotate
  rw [yields_bind]
  refine (compactJournal_yields _ _ _ _ _).mono ?_
  intro outcome succeeds
  cases outcome with
  | error failure => exact nofun
  | ok compaction =>
    obtain ⟨first, records⟩ := succeeds compaction rfl
    simp only at first records ⊢
    cases compaction.checkpoint with
    | none =>
      intro _
      refine ⟨working, journal, journal.file, journal.checkpoint, found, fits, ?_⟩
      simp only [MemberJournal.push, first, records]
    | some checkpoint =>
      rw [yields_bind]
      refine (yields_any _).mono ?_
      intro opened _
      cases opened with
      | error failure => exact nofun
      | ok file =>
        intro _
        refine ⟨working, journal, file, some checkpoint, found, fits, ?_⟩
        simp only [MemberJournal.push, first, records]

/-- Whatever the directory answers, a successful append has one effect. -/
theorem record_yields (store : ConsensusStore) (report : MemberReport) :
    Yields (store.Recorded report) (store.record report) := by
  unfold record
  cases working : store.failure with
  | some failure => exact nofun
  | none =>
    simp only [isSome_none, Bool.false_eq_true, if_false]
    cases found : store.journals.lookup report.memberId with
    | none => exact nofun
    | some journal =>
      simp only
      by_cases fits : journal.nextSequence + 1 < 2 ^ 64
      · rw [if_pos fits]
        cases encoded : JournalRecord.encode
            { sequence := journal.nextSequence, report } with
        | error failure => exact nofun
        | ok line =>
          rw [yields_bind]
          refine (yields_any _).mono ?_
          intro outcome _
          cases outcome with
          | error failure => exact nofun
          | ok _ => exact rotate_yields working found fits
      · rw [if_neg fits]
        exact nofun

end ConsensusStore

/-- The retained records are numbered without gaps up to the next sequence. -/
structure MemberJournal.Numbered (journal : MemberJournal) : Prop where
  positive : 0 < journal.firstSequence
  contiguous : journal.firstSequence + journal.records.length = journal.nextSequence
  fits : journal.nextSequence < 2 ^ 64

theorem MemberJournal.Numbered.push {journal : MemberJournal} (numbered : journal.Numbered)
    (report : MemberReport) (freshnessMs : U64) (file : Nat) (checkpoint : Option Checkpoint)
    (fits : journal.nextSequence + 1 < 2 ^ 64) :
    (journal.push report freshnessMs file checkpoint).Numbered := by
  obtain ⟨positive, contiguous, _⟩ := numbered
  have bound : compactablePrefixLen (journal.records ++ [report]) freshnessMs ≤
      (journal.records ++ [report]).length := by
    rw [compactablePrefixLen_eq]
    exact agedPrefix_le_length _
  refine ⟨?_, ?_, fits⟩
  · unfold MemberJournal.push
    simp only
    omega
  · unfold MemberJournal.push
    simp only [length_drop]
    rw [length_append, length_singleton] at bound ⊢
    omega

theorem loadLines_positive (positive : first ≠ some 0)
    (loaded : loadLines member index first lines = .ok (found, reports)) : found ≠ some 0 := by
  induction lines generalizing index first found reports with
  | nil =>
    cases loaded
    exact positive
  | cons line lines ih =>
    unfold loadLines at loaded
    split at loaded
    · cases loaded
    case h_2 record decoded =>
      split at loaded
      · cases loaded
      · split at loaded
        · split at loaded
          · cases loaded
          case isFalse nonzero =>
            obtain ⟨⟨later, rest⟩, loadedRest, finish⟩ := Fallible.bind_eq_ok.mp loaded
            cases finish
            refine ih ?_ loadedRest
            rw [ne_eq, some.injEq]
            exact nonzero
        · simp only at loaded
          split at loaded
          · cases loaded
          · obtain ⟨⟨later, rest⟩, loadedRest, finish⟩ := Fallible.bind_eq_ok.mp loaded
            cases finish
            exact ih positive loadedRest

theorem loadJournal_numbered (found : loadJournal member content checkpoint = .ok loaded) :
    0 < loaded.firstSequence ∧ loaded.firstSequence + loaded.records.length = loaded.nextSequence ∧
      loaded.nextSequence < 2 ^ 64 := by
  simp only [loadJournal, Fallible.bind_eq_ok] at found
  obtain ⟨lines, _, ⟨first, records⟩, read, _, _, found⟩ := found
  have positive := loadLines_positive (by exact nofun) read
  split at found
  case isTrue fits =>
    cases found
    refine ⟨?_, rfl, fits⟩
    cases first with
    | none => exact Nat.one_pos
    | some sequence =>
      rw [ne_eq, some.injEq] at positive
      exact Nat.pos_of_ne_zero positive
  · cases found

theorem openJournal_yields (member : Text) (freshnessMs : U64) :
    Yields (Succeeds MemberJournal.Numbered) (openJournal member freshnessMs).run := by
  refine yields_andThen (yields_any _) fun content _ => ?_
  refine yields_andThen (yields_any _) fun checkpoint _ => ?_
  refine yields_andThen (yields_compute fun _ => loadJournal_numbered) fun loaded numbered => ?_
  refine yields_andThen (compactJournal_yields _ _ _ _ _) fun compaction drops => ?_
  refine yields_andThen (yields_any _) fun file _ => ?_
  refine yields_pure ?_
  obtain ⟨positive, contiguous, fits⟩ := numbered
  obtain ⟨first, records⟩ := drops
  have bound : compactablePrefixLen loaded.records freshnessMs ≤ loaded.records.length := by
    rw [compactablePrefixLen_eq]
    exact agedPrefix_le_length _
  refine ⟨?_, ?_, fits⟩
  · change 0 < compaction.firstSequence
    omega
  · change compaction.firstSequence + compaction.records.length = loaded.nextSequence
    rw [first, records, length_drop]
    omega

/-- A working store with a numbered journal for each of its distinct
members. -/
structure ConsensusStore.WellFormed (store : ConsensusStore) : Prop where
  working : store.failure = none
  distinct : store.members.Nodup
  journaled : ∀ member, member ∈ store.journals ↔ member ∈ store.members
  numbered : ∀ member journal, store.journals.lookup member = some journal → journal.Numbered

theorem openJournals_yields (freshnessMs : U64) (members : List Text)
    (journals : AList fun _ : Text => MemberJournal) (numbered : ∀ member journal,
      journals.lookup member = some journal → journal.Numbered) :
    Yields (Succeeds fun opened =>
        (∀ member, member ∈ opened ↔ member ∈ members ∨ member ∈ journals) ∧ ∀ member journal,
            opened.lookup member = some journal → journal.Numbered)
      (openJournals freshnessMs members journals).run := by
  induction members generalizing journals with
  | nil =>
    refine yields_pure ⟨?_, numbered⟩
    intro member
    simp
  | cons member members ih =>
    refine yields_andThen (openJournal_yields member freshnessMs) ?_
    intro journal isNumbered
    refine (ih (journals.insert member journal) ?_).mono ?_
    · intro other found lookedUp
      by_cases same : other = member
      · subst same
        rw [AList.lookup_insert, some.injEq] at lookedUp
        rw [← lookedUp]
        exact isNumbered
      · rw [AList.lookup_insert_ne same] at lookedUp
        exact numbered other found lookedUp
    · intro outcome succeeds opened isOpened
      obtain ⟨present, allNumbered⟩ := succeeds opened isOpened
      refine ⟨?_, allNumbered⟩
      intro other
      rw [present, AList.mem_insert, mem_cons]
      tauto

theorem openStore_yields (members : List Text) (freshnessMs : U64) : Yields (Succeeds fun store =>
        store.WellFormed ∧ store.observationFreshnessMs = freshnessMs)
      (ConsensusStore.openStore members freshnessMs).run := by
  have opened : validateMembers members = .ok () → Yields (Succeeds fun store : ConsensusStore =>
          store.WellFormed ∧ store.observationFreshnessMs = freshnessMs)
        ((do
          let journals ← openJournals freshnessMs members ∅
          pure
            { members, observationFreshnessMs := freshnessMs, journals,
              failure := none }) : StoreProgram ConsensusStore).run := by
    intro valid
    refine yields_andThen (openJournals_yields freshnessMs members ∅ ?_) ?_
    · intro member journal found
      rw [AList.lookup_empty] at found
      cases found
    · rintro journals ⟨present, numbered⟩
      refine yields_pure ⟨⟨rfl, ?_, ?_, numbered⟩, rfl⟩
      · exact ((validateMembers_eq_ok_iff members).mp valid).2.2
      · intro member
        rw [present member]
        simp
  refine yields_andThen (yields_compute fun _ valid => valid) ?_
  intro _ valid
  refine yields_andThen (yields_any _) fun durable _ => ?_
  cases durable with
  | none =>
    refine yields_andThen (yields_any _) fun _ _ => ?_
    refine yields_andThen (yields_any _) fun _ _ => ?_
    exact opened valid
  | some onDisk =>
    simp only
    split
    · exact yields_throw _ _
    · refine yields_andThen (yields_any _) fun _ _ => ?_
      exact opened valid

theorem ConsensusStore.Appends.wellFormed {next : ConsensusStore} {store : ConsensusStore}
    (appends : store.Appends report next) (wellFormed : store.WellFormed) : next.WellFormed := by
  obtain ⟨working, journal, file, checkpoint, found, fits, rfl⟩ := appends
  refine ⟨working, wellFormed.distinct, ?_, ?_⟩
  · intro member
    have known : report.memberId ∈ store.journals := AList.lookup_isSome.mp (by rw [found]; rfl)
    rw [ConsensusStore.setJournal, AList.mem_insert, ← wellFormed.journaled]
    constructor
    · rintro (rfl | listed)
      · exact known
      · exact listed
    · exact .inr
  · intro member other lookedUp
    by_cases same : member = report.memberId
    · subst same
      rw [ConsensusStore.setJournal, AList.lookup_insert, some.injEq] at lookedUp
      rw [← lookedUp]
      exact (wellFormed.numbered _ _ found).push report _ _ _ fits
    · rw [ConsensusStore.setJournal, AList.lookup_insert_ne same] at lookedUp
      exact wellFormed.numbered member other lookedUp

end Zrotext.Failover
