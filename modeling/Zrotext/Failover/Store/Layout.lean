import Zrotext.Failover.Store.Memory

/-!
# What the directory holds

Each member has a log of everything ever appended for it, of which a prefix was
dropped.  The journal file holds the lines of the rest, and the checkpoint
beside it is none or one that does not run ahead of the journal.  From such a
directory every journal loads.
-/

namespace Zrotext.Failover

open Foundation Foundation.Program Foundation.Retention StoreProgram List Function Text

/-- The journal lines of reports that are numbered from a sequence. -/
def linesFrom (sequence : Nat) (reports : List MemberReport) : List Text :=
  (numberedFrom sequence reports).map fun record => unwords record.words

/-- The lines of a log without a dropped beginning. -/
abbrev linesAfter (dropped : Nat) (log : List MemberReport) : List Text :=
  linesFrom (dropped + 1) (log.drop dropped)

theorem linesFrom_append (sequence : Nat) (first second : List MemberReport) :
    linesFrom sequence (first ++ second) = linesFrom sequence first ++
        linesFrom (sequence + first.length) second := by
  unfold linesFrom
  rw [numberedFrom_append, map_append]

theorem drop_linesFrom (sequence count : Nat) (reports : List MemberReport) :
    (linesFrom sequence reports).drop count =
      linesFrom (sequence + count) (reports.drop count) := by
  unfold linesFrom
  rw [← map_drop, drop_numberedFrom]

theorem exists_head_linesFrom (sequence : Nat) (nonempty : reports ≠ []) :
    ∃ line, (linesFrom sequence reports).head? = some line := by
  cases reports with
  | nil => exact absurd rfl nonempty
  | cons report reports => exact ⟨_, rfl⟩

section Lines

variable (fileSafe : memberIsFileSafe member = true)

include fileSafe

theorem encode_eq (record : JournalRecord) (owned : record.report.memberId = member) :
    record.encode = .ok (unwords record.words) := by
  rw [JournalRecord.encode_eq_ok_iff, owned]
  exact ⟨fileSafe, rfl⟩

theorem encodeRecords_numberedFrom (sequence : Nat)
    (owned : ∀ report ∈ reports, report.memberId = member) :
    encodeRecords (numberedFrom sequence reports) = .ok (linesFrom sequence reports) := by
  induction reports generalizing sequence with
  | nil => rfl
  | cons report reports ih =>
    obtain ⟨here, there⟩ := forall_mem_cons.mp owned
    unfold numberedFrom encodeRecords
    rw [encode_eq fileSafe _ here, ih (sequence + 1) there]
    rfl

theorem decode_eq (record : JournalRecord) (owned : record.report.memberId = member)
    (fits : record.sequence < 2 ^ 64) : '\n' ∉ unwords record.words ∧
      JournalRecord.decode (unwords record.words) = .ok record := by
  refine JournalRecord.decode_unwords record ?_ fits
  rw [owned]
  exact fileSafe

theorem newline_not_mem_linesFrom (sequence : Nat)
    (owned : ∀ report ∈ reports, report.memberId = member)
    (fits : sequence + reports.length ≤ 2 ^ 64) :
    ∀ line ∈ linesFrom sequence reports, '\n' ∉ line := by
  intro line listed
  obtain ⟨record, numbered, rfl⟩ := mem_map.mp listed
  have bound := (sequence_of_mem_numberedFrom numbered).2
  exact (decode_eq fileSafe record
    (owned record.report (report_of_mem_numberedFrom numbered)) (by omega)).1

/-- The lines after the first are loaded with the sequences they carry. -/
theorem loadLines_linesFrom (start index : Nat)
    (owned : ∀ report ∈ reports, report.memberId = member)
    (fits : start + index + reports.length < 2 ^ 64) :
    loadLines member index (some start) (linesFrom (start + index) reports) =
      .ok (some start, reports) := by
  induction reports generalizing index with
  | nil => rfl
  | cons report reports ih =>
    obtain ⟨here, there⟩ := forall_mem_cons.mp owned
    rw [length_cons] at fits
    have decoded := (decode_eq fileSafe ⟨start + index, report⟩ here (by simp only; omega)).2
    have expected : min (start + index) (2 ^ 64 - 1) = start + index := by
      omega
    have rest := ih (index + 1) there (by omega)
    unfold linesFrom at rest ⊢
    rw [numberedFrom, map_cons, loadLines, decoded]
    simp only [here, expected, ne_eq, not_true, if_false]
    rw [Nat.add_assoc, rest]
    rfl

theorem loadLines_first {sequence : Nat} (positive : sequence ≠ 0) (nonempty : reports ≠ [])
    (owned : ∀ report ∈ reports, report.memberId = member)
    (fits : sequence + reports.length < 2 ^ 64) :
    loadLines member 0 none (linesFrom sequence reports) = .ok (some sequence, reports) := by
  cases reports with
  | nil => exact absurd rfl nonempty
  | cons report reports =>
    obtain ⟨here, there⟩ := forall_mem_cons.mp owned
    rw [length_cons] at fits
    have decoded := (decode_eq fileSafe ⟨sequence, report⟩ here (by simp only; omega)).2
    have rest := loadLines_linesFrom fileSafe sequence 1 there (by omega)
    unfold linesFrom at rest ⊢
    rw [numberedFrom, map_cons, loadLines, decoded]
    simp only [here, positive, ne_eq, not_true, if_false]
    rw [rest]
    rfl

end Lines

theorem journalLines_unlines (member : Text) (single : ∀ line ∈ lines, '\n' ∉ line) :
    journalLines member (unlines lines) = .ok lines := by
  cases lines with
  | nil => rfl
  | cons line lines =>
    have nonempty : line :: lines ≠ [] := cons_ne_nil line lines
    have ends := getLast_unlines nonempty
    have content : (unlines (line :: lines)).isEmpty = false := by
      rw [isEmpty_eq_false_iff]
      intro empty
      rw [empty] at ends
      cases ends
    unfold journalLines
    rw [content, ends, splitOn_unlines nonempty single]
    rfl

/-- The checkpoint does not run ahead of a journal whose prefix was dropped, and
anchors its head if it names the whole prefix. -/
def CheckpointAnchors (member : Text) (dropped : Nat)
    (head : Option Text) : Option Checkpoint → Prop
  | none => dropped = 0
  | some checkpoint =>
    checkpoint.memberId = member ∧ checkpoint.lastCompactedSequence ≤ dropped ∧
      ∃ line, head = some line ∧ (checkpoint.lastCompactedSequence = dropped →
          fnv1a64 fnvOffsetBasis line = checkpoint.headDigest)

variable {log : List MemberReport} {after : Disk}

theorem reconcile_eq {head : Option Text}
    (anchors : CheckpointAnchors member dropped head checkpoint) (records : List MemberReport) :
    reconcile member checkpoint (dropped + 1) head records = .ok () := by
  cases checkpoint with
  | none =>
    rw [CheckpointAnchors] at anchors
    rw [anchors]
    rfl
  | some checkpoint =>
    obtain ⟨owner, behind, line, rfl, anchored⟩ := anchors
    have after : ¬ dropped + 1 ≤ checkpoint.lastCompactedSequence := by omega
    unfold reconcile
    simp only [owner, ne_eq, not_true, if_false, after, Nat.add_right_cancel_iff]
    by_cases whole : dropped = checkpoint.lastCompactedSequence
    · rw [if_pos whole, if_neg (not_not.mpr (anchored whole.symm))]
    · rw [if_neg whole]

/-- A journal whose dropped prefix is accounted for loads. -/
theorem loadJournal_eq (fileSafe : memberIsFileSafe member)
    (owned : ∀ report ∈ log, report.memberId = member) (short : log.length + 1 < 2 ^ 64)
    (anchors : CheckpointAnchors member dropped
      (linesAfter dropped log).head? checkpoint) :
    loadJournal member (unlines (linesAfter dropped log)) checkpoint = .ok
        { firstSequence := dropped + 1, nextSequence := log.length + 1
          records := log.drop dropped } := by
  have ownedRest : ∀ report ∈ log.drop dropped, report.memberId = member :=
    fun report listed => owned report (mem_of_mem_drop listed)
  have within : dropped ≤ log.length ∧ (log.drop dropped = [] → dropped = 0) := by
    cases checkpoint with
    | none =>
      rw [CheckpointAnchors] at anchors
      exact ⟨by omega, fun _ => anchors⟩
    | some checkpoint =>
      obtain ⟨_, _, line, head, _⟩ := anchors
      have nonempty : log.drop dropped ≠ [] := by
        intro empty
        rw [linesAfter, empty] at head
        cases head
      refine ⟨?_, fun empty => absurd empty nonempty⟩
      rw [ne_eq, drop_eq_nil_iff] at nonempty
      omega
  have total : dropped + 1 + (log.drop dropped).length = log.length + 1 := by
    rw [length_drop]
    omega
  have lines := journalLines_unlines member
    (newline_not_mem_linesFrom fileSafe (dropped + 1) ownedRest (by omega))
  have loaded : ∃ first, loadLines member 0 none (linesAfter dropped log) =
        .ok (first, log.drop dropped) ∧ first.getD 1 = dropped + 1 := by
    by_cases empty : log.drop dropped = []
    · refine ⟨none, ?_, ?_⟩
      · rw [linesAfter, empty]
        rfl
      · rw [within.2 empty]
        rfl
    · exact ⟨some (dropped + 1), loadLines_first fileSafe
        (Nat.succ_ne_zero dropped) empty ownedRest (by omega), rfl⟩
  obtain ⟨first, loadedLines, firstIs⟩ := loaded
  have reconciled := reconcile_eq anchors (log.drop dropped)
  unfold loadJournal
  simp only [bind, Except.bind, lines, loadedLines, firstIs, reconciled]
  rw [if_pos (by omega), total]

/-- The checkpoint that a directory holds for a member. -/
def CheckpointOnDisk (disk : Disk) (member : Text) : Option Checkpoint → Prop
  | none => disk.content? (checkpointFile member) = none
  | some checkpoint =>
    ∃ content, disk.content? (checkpointFile member) = some content ∧
        decodeCheckpoint member content = .ok checkpoint

theorem CheckpointOnDisk.congr (onDisk : CheckpointOnDisk before member checkpoint)
    (same : after.content? (checkpointFile member) =
      before.content? (checkpointFile member)) :
    CheckpointOnDisk after member checkpoint := by
  cases checkpoint with
  | none => exact same.trans onDisk
  | some checkpoint =>
    obtain ⟨content, found, decoded⟩ := onDisk
    exact ⟨content, same.trans found, decoded⟩

/-- The directory holds the log of a member without a dropped prefix. -/
structure MemberHolds (disk : Disk) (member : Text) (log : List MemberReport)
    (dropped : Nat) : Prop where
  short : log.length + 1 < 2 ^ 64
  owned : ∀ report ∈ log, report.memberId = member
  journal : disk.content? (journalFile member) =
        some (unlines (linesAfter dropped log)) ∨
      disk.content? (journalFile member) = none ∧ log = []
  checkpoint : ∃ checkpoint, CheckpointOnDisk disk member checkpoint ∧
      CheckpointAnchors member dropped (linesAfter dropped log).head? checkpoint

/-- The directory belongs to a membership, or was never initialized. -/
inductive MembershipHolds (disk : Disk) (membership : List Text) : Prop
  | initialized (content : Text) (onDisk : List Text) : disk.membership = some content →
      decodeMembership content = .ok onDisk → onDisk.Perm membership → disk.isCreated = true →
      MembershipHolds disk membership
  | unused : disk.membership = none → (∀ name, disk.file? name = none) →
      MembershipHolds disk membership

/-- The log of each member. -/
abbrev Logs := Text → List MemberReport

/-- The directory holds the logs of a membership. -/
structure DiskHolds (disk : Disk) (membership : List Text) (logs : Logs)
    (dropped : Text → Nat) : Prop where
  identity : MembershipHolds disk membership
  known : ∀ name, (disk.file? name).isSome = true →
    ∃ member ∈ membership, ∃ artifact : Artifact, name = artifact.file member
  members : ∀ member ∈ membership, MemberHolds disk member (logs member) (dropped member)

/-- The files of one member. -/
def BelongsTo (member name : Text) : Prop := ∃ artifact : Artifact, name = artifact.file member

theorem belongsTo_file (artifact : Artifact) (member : Text) :
    BelongsTo member (artifact.file member) :=
  ⟨artifact, rfl⟩

theorem not_belongsTo_file (different : other ≠ member)
    (artifact : Artifact) : ¬ BelongsTo member (artifact.file other) := by
  rintro ⟨another, same⟩
  exact different (Artifact.file_inj same).2

theorem MemberHolds.frame (holds : MemberHolds before member log dropped)
    (agree : Disk.AgreeOff changed before after)
    (journalKept : ¬ changed (journalFile member))
    (checkpointKept : ¬ changed (checkpointFile member)) :
    MemberHolds after member log dropped where
  short := holds.short
  owned := holds.owned
  journal := by
    rw [agree.content journalKept]
    exact holds.journal
  checkpoint := by
    obtain ⟨checkpoint, onDisk, anchors⟩ := holds.checkpoint
    exact ⟨checkpoint, onDisk.congr (agree.content checkpointKept), anchors⟩

/-- Changing the files of one member keeps the logs of all others. -/
theorem DiskHolds.update {dropped : Text → Nat} {count : Nat}
    (holds : DiskHolds before membership logs dropped)
    (listed : member ∈ membership) (initialized : before.membership.isSome)
    (agree : Disk.AgreeOff (BelongsTo member) before after)
    (memberHolds : MemberHolds after member log count) :
    DiskHolds after membership (update logs member log)
      (update dropped member count) where
  identity := by
    cases holds.identity with
    | initialized content onDisk found decoded permuted created =>
      exact .initialized content onDisk (agree.membership.trans found) decoded
        permuted (agree.created.trans created)
    | unused absent _ =>
      rw [absent] at initialized
      cases initialized
  known := by
    intro name present
    by_cases own : BelongsTo member name
    · obtain ⟨artifact, rfl⟩ := own
      exact ⟨member, listed, artifact, rfl⟩
    · rw [agree.files name own] at present
      exact holds.known name present
  members := by
    intro other otherListed
    by_cases same : other = member
    · subst same
      rw [update_self, update_self]
      exact memberHolds
    · rw [update_of_ne same, update_of_ne same]
      exact (holds.members other otherListed).frame agree
        (not_belongsTo_file same .journal) (not_belongsTo_file same .checkpoint)

end Zrotext.Failover
