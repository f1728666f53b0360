import Zrotext.Failover.Store.Layout
import Zrotext.Foundation.Table

/-!
# Crashes and recovery

The programs of the store against its directory, stopped at any point.  Each of
them keeps the logs of the members on disk, except that a crash between the two
renames of a member's first compaction leaves a journal that starts above one
without a checkpoint, which the next open refuses.
-/

namespace Zrotext.Failover

open Foundation Foundation.Program Foundation.Retention StoreProgram List Function Text
open Disk (handler AgreeOff)

/-- The last rename did not leave a rewritten journal without any checkpoint
beside it. -/
def Disk.SafeStop (disk : Disk) : Prop :=
  ∀ member, disk.lastRenamed = some (journalFile member) →
    (disk.content? (checkpointFile member)).isSome = true

theorem endures_compute {α : Type} {post : Except StoreError α → Disk → Prop}
    {result : Except StoreError α} :
    Endures handler crash post (compute result).run disk ↔ post result disk := Iff.rfl

theorem endures_pure {α : Type} {post : Except StoreError α → Disk → Prop} {value : α}
    {disk : Disk} : Endures handler crash post (pure value : StoreProgram α).run disk ↔
      post (.ok value) disk := Iff.rfl

/-- A successful step of a program that may fail. -/
theorem endures_step {α β : Type} {between : α → Disk → Prop}
    {post : Except StoreError β → Disk → Prop} {program : StoreProgram α}
    {continuation : α → StoreProgram β} (first : Endures handler crash
      (fun outcome after => ∃ value, outcome = .ok value ∧ between value after) program.run disk)
    (rest : ∀ value after, between value after →
      Endures handler crash post (continuation value).run after) :
    Endures handler crash post (program >>= continuation).run disk := by
  rw [endures_except_bind]
  refine first.mono (fun _ holds => holds) ?_
  rintro outcome after ⟨value, rfl, holds⟩
  exact rest value after holds

theorem endures_writeAtomically {disk : Disk} (created : disk.isCreated)
    (written : ∀ after, AgreeOff (· = temp) disk after →
      after.lastRenamed = disk.lastRenamed → crash after)
    (renamed : ∀ after, AgreeOff (fun name => name = temp ∨ name = destination) disk after →
      after.content? destination = some content → after.lastRenamed = some destination →
      crash after ∧ post (.ok ()) after) :
    Endures handler crash post (writeAtomically temp destination content).run disk := by
  obtain ⟨wrote, agreeWrite, contentWrite, sameRename⟩ := Disk.writeFile_spec created temp content
  obtain ⟨moved, agreeRename, contentRename, lastRename⟩ :=
    Disk.rename_spec contentWrite destination
  have agree : AgreeOff (fun name => name = temp ∨ name = destination) disk
      ((disk.writeFile temp content).2.rename temp destination).2 :=
    (agreeWrite.mono fun _ => .inl).trans agreeRename
  obtain ⟨finalCrash, finalPost⟩ := renamed _ agree contentRename lastRename
  unfold writeAtomically
  rw [endures_except_bind]
  refine ⟨written _ agreeWrite sameRename, ?_⟩
  change Endures handler crash _ (insist (disk.writeFile temp content).1)
    (disk.writeFile temp content).2
  rw [wrote]
  refine ⟨finalCrash, ?_⟩
  change Endures handler crash post
    (insist ((disk.writeFile temp content).2.rename temp destination).1)
    ((disk.writeFile temp content).2.rename temp destination).2
  rw [moved]
  exact finalPost

/-! ## Compaction -/

/-- A stop in the middle of work on one member: only its files changed, and
unless the stop was unsafe the directory holds its log. -/
def StopsWith (member : Text) (log : List MemberReport) (before after : Disk) : Prop :=
  AgreeOff (BelongsTo member) before after ∧
    (after.SafeStop → ∃ count, MemberHolds after member log count)

theorem journal_ne_temp (member : Text) :
    journalFile member ≠ Artifact.journalTemp.file member ∧
      checkpointFile member ≠ Artifact.journalTemp.file member ∧
      journalFile member ≠ Artifact.checkpointTemp.file member ∧
      checkpointFile member ≠ Artifact.checkpointTemp.file member ∧
      journalFile member ≠ checkpointFile member := by
  refine ⟨?_, ?_, ?_, ?_, ?_⟩ <;>
    · intro same
      cases (Artifact.file_inj same).1

section Compacting

variable {count : Nat}
variable {after : Disk}

theorem MemberHolds.rewritten (holds : MemberHolds before member log dropped) (positive : 0 < count)
    (retained : log.drop (dropped + count) ≠ []) (agree : AgreeOff
      (fun name => name = Artifact.journalTemp.file member ∨
        name = journalFile member) before after)
    (content : after.content? (journalFile member) = some (unlines
        (linesAfter (dropped + count) log)))
    (lastRenamed : after.lastRenamed = some (journalFile member))
    (stop : after.SafeStop) : MemberHolds after member log (dropped + count) where
  short := holds.short
  owned := holds.owned
  journal := .inl content
  checkpoint := by
    obtain ⟨_, checkpointTemp, _, _, checkpointJournal⟩ := journal_ne_temp member
    have kept : ¬ (checkpointFile member = Artifact.journalTemp.file member ∨
        checkpointFile member = journalFile member) :=
      not_or.mpr ⟨checkpointTemp, checkpointJournal.symm⟩
    have same := agree.content kept
    have present := stop member lastRenamed
    rw [same] at present
    obtain ⟨checkpoint, onDisk, anchors⟩ := holds.checkpoint
    cases checkpoint with
    | none =>
      rw [show before.content? _ = none from onDisk] at present
      cases present
    | some checkpoint =>
      obtain ⟨text, found, decoded⟩ := onDisk
      obtain ⟨owner, behind, _⟩ := anchors
      refine ⟨some checkpoint, ⟨text, same.trans found, decoded⟩, owner, by omega, ?_⟩
      obtain ⟨line, head⟩ := exists_head_linesFrom (dropped + count + 1) retained
      exact ⟨line, head, fun whole => absurd whole (by omega)⟩

section

variable (fileSafe : memberIsFileSafe member = true)

include fileSafe

/-- A rewritten checkpoint beside its journal holds the log. -/
theorem MemberHolds.checkpointed
    (short : log.length + 1 < 2 ^ 64) (owned : ∀ report ∈ log, report.memberId = member)
    (journal : after.content? (journalFile member) = some (unlines
        (linesAfter dropped log)))
    {head : Text} (isHead : (linesAfter dropped log).head? = some head)
    {checkpoint : Checkpoint} (owner : checkpoint.memberId = member)
    (last : checkpoint.lastCompactedSequence = dropped) (positive : dropped ≠ 0)
    (within : dropped < 2 ^ 64) (anchored : checkpoint.headDigest = fnv1a64 fnvOffsetBasis head)
    (content : after.content? (checkpointFile member) =
      some (unlines [unwords checkpoint.words])) :
    MemberHolds after member log dropped where
  short := short
  owned := owned
  journal := .inl journal
  checkpoint := by
    refine ⟨some checkpoint, ⟨_, content, ?_⟩, owner, last.le, head, isHead, fun _ => anchored.symm⟩
    refine checkpoint.decodeCheckpoint_unlines member ?_ ?_ ?_
    · rw [owner]
      exact fileSafe
    · rw [last]
      exact positive
    · rw [last]
      exact within

theorem nextCheckpoint_encode (previous : Option Checkpoint)
    (lines : List Text) (head : Text)
    (positive : firstSequence + records.length - 1 ≠ 0) :
    (nextCheckpoint member firstSequence previous records lines head).encode =
      .ok (unlines [unwords (nextCheckpoint member firstSequence
        previous records lines head).words]) := by
  have last : ¬ (nextCheckpoint member firstSequence previous records lines
      head).lastCompactedSequence = 0 := positive
  unfold Checkpoint.encode
  rw [if_neg (by rw [nextCheckpoint, fileSafe]; exact Bool.false_ne_true), if_neg last]

/-- The two renames of a compaction: the rewritten journal, then the checkpoint
that names everything dropped. -/
theorem rewrite_endures {disk : Disk}
    (created : disk.isCreated) (holds : MemberHolds disk member log dropped)
    (positive : 0 < count) {head : Text}
    (isHead : (linesAfter (dropped + count) log).head? = some head)
    {checkpoint : Checkpoint} (owner : checkpoint.memberId = member)
    (last : checkpoint.lastCompactedSequence = dropped + count)
    (anchored : checkpoint.headDigest = fnv1a64 fnvOffsetBasis head) {α : Type}
    {post : Except StoreError α → Disk → Prop} {continuation : StoreProgram α}
    (rest : ∀ after, AgreeOff (BelongsTo member) disk after →
      MemberHolds after member log (dropped + count) →
      after.content? (journalFile member) =
        some (unlines (linesAfter (dropped + count) log)) →
      Endures handler (StopsWith member log disk) post continuation.run after) :
    Endures handler (StopsWith member log disk) post (do
        writeAtomically (Artifact.journalTemp.file member) (journalFile member)
          (unlines (linesAfter (dropped + count) log))
        writeAtomically (Artifact.checkpointTemp.file member) (checkpointFile member)
          (unlines [unwords checkpoint.words])
        continuation : StoreProgram α).run disk := by
  obtain ⟨journalTemp, checkpointTemp, journalOther, checkpointOther, distinct⟩ :=
    journal_ne_temp member
  have retained : log.drop (dropped + count) ≠ [] := by
    intro empty
    rw [linesAfter, empty] at isHead
    cases isHead
  have within : dropped + count < log.length := by
    rw [ne_eq, drop_eq_nil_iff] at retained
    omega
  have short := holds.short
  have ownFirst : ∀ name, name = Artifact.journalTemp.file member ∨
      name = journalFile member → BelongsTo member name := by
    rintro name (rfl | rfl) <;> exact belongsTo_file _ member
  have ownSecond : ∀ name, name = Artifact.checkpointTemp.file member ∨
      name = checkpointFile member → BelongsTo member name := by
    rintro name (rfl | rfl) <;> exact belongsTo_file _ member
  rw [endures_except_bind]
  refine endures_writeAtomically created ?_ ?_
  · intro after agree _
    refine ⟨agree.mono fun name same => ownFirst name (.inl same), fun _ => ?_⟩
    exact ⟨dropped, holds.frame agree journalTemp checkpointTemp⟩
  · intro middle agree content renamed
    have agreeMiddle := agree.mono ownFirst
    have atMiddle : middle.SafeStop → MemberHolds middle member log (dropped + count) :=
      holds.rewritten positive retained agree content renamed
    refine ⟨⟨agreeMiddle, fun stop => ⟨_, atMiddle stop⟩⟩, ?_⟩
    rw [endures_except_bind]
    refine endures_writeAtomically (agreeMiddle.created.trans created) ?_ ?_
    · intro after agreeTemp sameRename
      refine ⟨agreeMiddle.trans (agreeTemp.mono fun name same =>
        ownSecond name (.inl same)), fun stop => ⟨dropped + count, ?_⟩⟩
      have stopMiddle : middle.SafeStop := by
        intro owner renamedOwner
        rw [← sameRename] at renamedOwner
        have present := stop owner renamedOwner
        rw [agreeTemp.content] at present
        · exact present
        · intro same
          cases (Artifact.file_inj same).1
      exact (atMiddle stopMiddle).frame agreeTemp journalOther checkpointOther
    · intro after agreeLast checkpointContent _
      have agreeAfter := agreeMiddle.trans (agreeLast.mono ownSecond)
      have journalContent := (agreeLast.content (not_or.mpr ⟨journalOther, distinct⟩)).trans content
      have final : MemberHolds after member log (dropped + count) :=
        .checkpointed fileSafe short holds.owned journalContent isHead owner last
          (by omega) (by omega) anchored checkpointContent
      exact ⟨⟨agreeAfter, fun _ => ⟨_, final⟩⟩, rest after agreeAfter final journalContent⟩

/-- Compaction keeps the log of its member at every safe stop, and afterwards
holds it without the compactable prefix. -/
theorem compactJournal_endures {disk : Disk}
    (created : disk.isCreated) (holds : MemberHolds disk member log dropped)
    (journal : disk.content? (journalFile member) =
      some (unlines (linesAfter dropped log)))
    (previous : Option Checkpoint) (freshnessMs : U64) :
    let count := compactablePrefixLen (log.drop dropped) freshnessMs
    Endures handler (StopsWith member log disk) (fun outcome after =>
        ∃ compaction, outcome = .ok compaction ∧ compaction.firstSequence = dropped + count + 1 ∧
          compaction.records = log.drop (dropped + count) ∧
          (compaction.checkpoint = none → after = disk) ∧
          AgreeOff (BelongsTo member) disk after ∧
          MemberHolds after member log (dropped + count) ∧
          after.content? (journalFile member) =
            some (unlines (linesAfter (dropped + count) log)))
      (compactJournal member (dropped + 1) (log.drop dropped) previous freshnessMs).run disk := by
  intro count
  unfold compactJournal
  by_cases nothing : count = 0
  · rw [if_pos nothing, endures_pure, nothing]
    exact ⟨_, rfl, rfl, rfl, fun _ => rfl, .refl _ _, holds, journal⟩
  · have bound := compactablePrefixLen_add_floor_le nothing
    have owned : ∀ report ∈ log.drop dropped, report.memberId = member :=
      fun report listed => holds.owned report (mem_of_mem_drop listed)
    have encoded := encodeRecords_numberedFrom fileSafe (dropped + 1) owned
    have remaining : (linesAfter dropped log).drop count =
        linesAfter (dropped + count) log := by
      rw [drop_linesFrom, drop_drop, Nat.add_right_comm]
    have retained : log.drop (dropped + count) ≠ [] := by
      rw [ne_eq, drop_eq_nil_iff]
      rw [length_drop] at bound
      have floor : 0 < journalRetainedFloor := by decide
      omega
    obtain ⟨head, isHead⟩ := exists_head_linesFrom (dropped + count + 1) retained
    have taken : ((log.drop dropped).take count).length = count := by
      rw [length_take]
      omega
    rw [if_neg nothing, endures_except_bind, endures_compute, encoded]
    simp only
    rw [remaining, isHead]
    simp only
    rw [nextCheckpoint_encode fileSafe _ _ _ (by rw [taken]; omega)]
    refine rewrite_endures fileSafe created holds (Nat.pos_of_ne_zero nothing) isHead rfl ?_ rfl ?_
    · change dropped + 1 + ((log.drop dropped).take count).length - 1 = dropped + count
      rw [taken]
      omega
    · intro after agree final content
      rw [endures_pure]
      refine ⟨_, rfl, ?_, ?_, nofun, agree, final, content⟩
      · simp only
        omega
      · rw [drop_drop]

end

end Compacting

/-! ## Opening -/

/-- The journal in memory matches the log and the file on disk. -/
structure JournalMatches (disk : Disk) (member : Text) (log : List MemberReport) (dropped : Nat)
    (journal : MemberJournal) : Prop where
  first : journal.firstSequence = dropped + 1
  next : journal.nextSequence = log.length + 1
  records : journal.records = log.drop dropped
  file : ∃ file, disk.file? (journalFile member) = some file ∧ file.inode = journal.file ∧
    file.content = unlines (linesAfter dropped log)

theorem JournalMatches.frame {after : Disk}
    (isMatch : JournalMatches before member log dropped journal)
    (agree : AgreeOff changed before after) (kept : ¬ changed (journalFile member)) :
    JournalMatches after member log dropped journal := by
  refine { isMatch with file := ?_ }
  rw [agree.files _ kept]
  exact isMatch.file

theorem MemberHolds.stopsWith (holds : MemberHolds disk member log dropped) :
    StopsWith member log disk disk :=
  ⟨.refl _ disk, fun _ => ⟨dropped, holds⟩⟩

theorem StopsWith.after {middle after : Disk} (agree : AgreeOff (BelongsTo member) disk middle)
    (stops : StopsWith member log middle after) : StopsWith member log disk after :=
  ⟨agree.trans stops.1, stops.2⟩

theorem readJournal_endures (created : disk.isCreated)
    (holds : MemberHolds disk member log dropped) : Endures handler (StopsWith member log disk)
      (fun outcome after =>
        ∃ content, outcome = .ok content ∧
          content = unlines (linesAfter dropped log) ∧
          AgreeOff (BelongsTo member) disk after ∧ MemberHolds after member log dropped ∧
          after.content? (journalFile member) = some content)
      (readJournal member).run disk := by
  unfold readJournal
  rw [endures_except_bind]
  refine ⟨holds.stopsWith, ?_⟩
  change Endures handler _ _
    (demand (some (disk.content? (journalFile member)))) disk
  rcases holds.journal with found | ⟨missing, empty⟩
  · rw [found]
    exact ⟨_, rfl, rfl, .refl _ disk, holds, found⟩
  · have noFile : disk.file? (journalFile member) = none :=
      Option.map_eq_none_iff.mp missing
    obtain ⟨wrote, agree, content, _⟩ := Disk.createFile_spec created noFile
    have own := agree.mono fun name same =>
      (⟨Artifact.journal, same⟩ : BelongsTo member name)
    have lines : unlines (linesAfter dropped log) = [] := by
      rw [linesAfter, empty, drop_nil]
      rfl
    have final : MemberHolds (disk.createFile
        (journalFile member)).2 member log dropped := by
      obtain ⟨checkpoint, onDisk, anchors⟩ := holds.checkpoint
      have kept : ¬ checkpointFile member = journalFile member :=
        (journal_ne_temp member).2.2.2.2.symm
      refine ⟨holds.short, holds.owned, .inl ?_, checkpoint,
        onDisk.congr (agree.content kept), anchors⟩
      rw [content, lines]
    rw [missing]
    simp only [demand, endures_done]
    rw [endures_except_bind]
    refine ⟨⟨own, fun _ => ⟨dropped, final⟩⟩, ?_⟩
    change Endures handler _ _ (insist (disk.createFile (journalFile member)).1)
      (disk.createFile (journalFile member)).2
    rw [wrote]
    exact ⟨[], rfl, lines.symm, own, final, content⟩

theorem readCheckpoint_endures {crash : Disk → Prop} (initially : crash disk)
    (onDisk : CheckpointOnDisk disk member checkpoint) :
    Endures handler crash (fun outcome after => outcome = .ok checkpoint ∧ after = disk)
      (readCheckpoint member).run disk := by
  unfold readCheckpoint
  rw [endures_except_bind]
  refine ⟨initially, ?_⟩
  change Endures handler _ _
    (demand (some (disk.content? (checkpointFile member)))) disk
  cases checkpoint with
  | none =>
    rw [show disk.content? _ = none from onDisk]
    exact ⟨rfl, rfl⟩
  | some checkpoint =>
    obtain ⟨content, found, decoded⟩ := onDisk
    rw [found]
    simp only [demand, endures_done]
    rw [endures_except_bind, endures_compute, decoded]
    exact ⟨rfl, rfl⟩

theorem openAppend_endures (initially : crash disk) {content : Text}
    (found : disk.content? name = some content) : Endures handler crash (fun outcome after =>
        ∃ file, outcome = .ok file.inode ∧ after = disk ∧
          disk.file? name = some file ∧ file.content = content)
      (openAppend name).run disk := by
  obtain ⟨file, isFile, same⟩ := Option.map_eq_some_iff.mp found
  refine ⟨initially, ?_⟩
  change Endures handler _ _ (demand ((disk.file? name).map DiskFile.inode)) disk
  rw [isFile]
  exact ⟨file, rfl, rfl, rfl, same⟩

/-- Opening a journal keeps the log of its member at every safe stop and ends
with a journal that matches the compacted log. -/
theorem openJournal_endures (fileSafe : memberIsFileSafe member)
    (created : disk.isCreated) (holds : MemberHolds disk member log dropped)
    (freshnessMs : U64) :
    let count := compactablePrefixLen (log.drop dropped) freshnessMs
    Endures handler (StopsWith member log disk) (fun outcome after =>
        ∃ journal, outcome = .ok journal ∧ AgreeOff (BelongsTo member) disk after ∧
          MemberHolds after member log (dropped + count) ∧
          JournalMatches after member log (dropped + count) journal)
      (openJournal member freshnessMs).run disk := by
  intro count
  refine endures_step (readJournal_endures created holds) ?_
  rintro content middle ⟨rfl, agree, holdsMiddle, journal⟩
  obtain ⟨checkpoint, onDisk, anchors⟩ := holdsMiddle.checkpoint
  have stops := holdsMiddle.stopsWith.after agree
  rw [endures_except_bind]
  refine (readCheckpoint_endures stops onDisk).mono (fun _ => id) ?_
  rintro outcome after ⟨rfl, rfl⟩
  simp only
  rw [endures_except_bind, endures_compute, loadJournal_eq fileSafe holds.owned holds.short anchors]
  simp only
  rw [endures_except_bind]
  have compacts := compactJournal_endures fileSafe
    (agree.created.trans created) holdsMiddle journal checkpoint freshnessMs
  refine compacts.mono (fun _ stop => stop.after agree) ?_
  rintro outcome final ⟨compaction, rfl, first, records, _, agreeFinal, holdsFinal, contentFinal⟩
  simp only
  have agreeAll := agree.trans agreeFinal
  rw [endures_except_bind]
  refine (openAppend_endures (holdsFinal.stopsWith.after agreeAll)
    contentFinal).mono (fun _ => id) ?_
  rintro outcome last ⟨file, rfl, rfl, isFile, fileContent⟩
  simp only
  rw [endures_pure]
  exact ⟨_, rfl, agreeAll, holdsFinal, ⟨first, rfl, records, file, isFile, rfl, fileContent⟩⟩

section Store

/-- Unless the stop was unsafe, the directory holds the logs. -/
def Survives (membership : List Text) (logs : Logs) (after : Disk) : Prop :=
  after.SafeStop → ∃ dropped, DiskHolds after membership logs dropped

theorem DiskHolds.survives (holds : DiskHolds disk membership logs dropped) :
    Survives membership logs disk :=
  fun _ => ⟨dropped, holds⟩

theorem DiskHolds.created (holds : DiskHolds disk membership logs dropped)
    (initialized : disk.membership.isSome) : disk.isCreated := by
  cases holds.identity with
  | initialized _ _ _ _ _ created => exact created
  | unused absent _ =>
    rw [absent] at initialized
    cases initialized

variable {after : Disk} {members : List Text} {count : Nat}

theorem StopsWith.survives (stops : StopsWith member log disk after)
    (holds : DiskHolds disk membership logs dropped) (listed : member ∈ membership)
    (initialized : disk.membership.isSome) :
    Survives membership (update logs member log) after := by
  intro stop
  obtain ⟨count, memberHolds⟩ := stops.2 stop
  exact ⟨_, holds.update listed initialized stops.1 memberHolds⟩

/-- The prefixes that are dropped after every journal was compacted. -/
def compactedPrefix (logs : Logs) (freshnessMs : U64) (dropped : Text → Nat)
    (member : Text) : Nat :=
  dropped member + compactablePrefixLen ((logs member).drop (dropped member)) freshnessMs

/-- What opening the journals of some members leads to. -/
structure Opened (membership : List Text) (logs : Logs) (freshnessMs : U64)
    (members : List Text)
    (before : Disk)
    (dropped : Text → Nat)
    (journals : AList fun _ : Text => MemberJournal)
    (after : Disk)
    (opened : AList fun _ : Text => MemberJournal)
    (remaining : Text → Nat) : Prop where
  holds : DiskHolds after membership logs remaining
  agree : AgreeOff (fun name => ∃ member ∈ members, BelongsTo member name) before after
  matched : ∀ member ∈ members, remaining member = compactedPrefix logs freshnessMs dropped member ∧
      ∃ journal, opened.lookup member = some journal ∧
        JournalMatches after member (logs member) (remaining member) journal
  others : ∀ member, member ∉ members → remaining member = dropped member ∧
      opened.lookup member = journals.lookup member

theorem openJournals_endures (allSafe : ∀ member ∈ membership, memberIsFileSafe member)
    (freshnessMs : U64) (distinct : members.Nodup)
    (subset : ∀ member ∈ members, member ∈ membership)
    (holds : DiskHolds disk membership logs dropped) (initialized : disk.membership.isSome)
    (journals : AList fun _ : Text => MemberJournal) :
    Endures handler (Survives membership logs) (fun outcome after =>
        ∃ opened, outcome = .ok opened ∧
          ∃ remaining, Opened membership logs freshnessMs members disk dropped
            journals after opened remaining)
      (openJournals freshnessMs members journals).run disk := by
  induction members generalizing disk dropped journals with
  | nil =>
    refine ⟨journals, rfl, dropped, holds, .refl _ disk, nofun, ?_⟩
    exact fun _ _ => ⟨rfl, rfl⟩
  | cons member members ih =>
    obtain ⟨absent, distinctRest⟩ := nodup_cons.mp distinct
    have listed := subset member mem_cons_self
    have subsetRest : ∀ other ∈ members, other ∈ membership :=
      fun other known => subset other (mem_cons_of_mem member known)
    unfold openJournals
    rw [endures_except_bind]
    have opensHere := openJournal_endures (allSafe member listed)
      (holds.created initialized) (holds.members member listed) freshnessMs
    refine opensHere.mono ?_ ?_
    · intro after stops
      have survives := stops.survives holds listed initialized
      rw [update_eq_self] at survives
      exact survives
    rintro outcome middle ⟨journal, rfl, agree, memberHolds, isMatch⟩
    have holdsMiddle := holds.update listed initialized agree memberHolds
    rw [update_eq_self] at holdsMiddle
    have initializedMiddle : middle.membership.isSome := by
      rw [agree.membership]
      exact initialized
    refine (ih distinctRest subsetRest holdsMiddle
      initializedMiddle (journals.insert member journal)).mono
      (fun _ => id) ?_
    rintro outcome after ⟨opened, rfl, remaining, rest⟩
    refine ⟨opened, rfl, remaining, rest.holds, ?_, ?_, ?_⟩
    · refine (agree.mono ?_).trans (rest.agree.mono ?_)
      · exact fun name own => ⟨member, mem_cons_self, own⟩
      · rintro name ⟨other, known, own⟩
        exact ⟨other, mem_cons_of_mem member known, own⟩
    · intro other known
      rcases mem_cons.mp known with rfl | later
      · obtain ⟨same, lookedUp⟩ := rest.others other absent
        rw [update_self] at same
        rw [AList.lookup_insert] at lookedUp
        refine ⟨same, journal, lookedUp, ?_⟩
        rw [same]
        refine isMatch.frame rest.agree ?_
        rintro ⟨another, elsewhere, artifact, sameFile⟩
        obtain ⟨_, rfl⟩ := Artifact.file_inj sameFile
        exact absent elsewhere
      · obtain ⟨same, found⟩ := rest.matched other later
        have different : other ≠ member := by
          rintro rfl
          exact absent later
        refine ⟨same.trans ?_, found⟩
        unfold compactedPrefix
        rw [update_of_ne different]
    · intro other unknown
      rw [mem_cons, not_or] at unknown
      obtain ⟨same, lookedUp⟩ := rest.others other unknown.2
      rw [update_of_ne unknown.1] at same
      rw [AList.lookup_insert_ne unknown.1] at lookedUp
      exact ⟨same, lookedUp⟩

/-- The store in memory matches the directory. -/
structure StoreHolds (store : ConsensusStore) (disk : Disk) (membership : List Text)
    (logs : Logs) (dropped : Text → Nat) : Prop where
  members : store.members.Perm membership
  holds : DiskHolds disk membership logs dropped
  initialized : disk.membership.isSome = true
  journals : ∀ member ∈ membership, ∃ journal, store.journals.lookup member = some journal ∧
      JournalMatches disk member (logs member) (dropped member) journal
  known : ∀ member, member ∈ store.journals → member ∈ membership

theorem scanObservations_endures (initially : crash disk)
    (known : ∀ name, (disk.file? name).isSome →
      ∃ member ∈ members, ∃ artifact : Artifact, name = artifact.file member) :
    Endures handler crash (fun outcome after => outcome = .ok () ∧ after = disk)
      (scanObservations members).run disk := by
  unfold scanObservations
  rw [endures_except_bind]
  refine ⟨initially, ?_⟩
  change Endures handler _ _ (demand (some (disk.observations.map fun files =>
      files.keys.map fun name => (name, true)))) disk
  cases created : disk.observations with
  | none => exact ⟨rfl, rfl⟩
  | some files =>
    have recognized : (files.keys.map fun name => (name, true)).find?
        (fun entry => !isKnownEntry members entry.1 entry.2) = none := by
      rw [find?_eq_none]
      intro entry listed
      obtain ⟨name, key, rfl⟩ := mem_map.mp listed
      obtain ⟨member, isMember, artifact, rfl⟩ :=
        known name ((Disk.mem_keys_iff created name).mp key)
      rw [artifact.isKnownEntry_file isMember]
      decide
    simp only [Option.map_some, demand, endures_done]
    rw [recognized]
    exact ⟨rfl, rfl⟩

theorem directoryHasEntries_endures (initially : crash disk)
    (unused : ∀ name, disk.file? name = none) : Endures handler crash
      (fun outcome after => outcome = .ok false ∧ after = disk) directoryHasEntries.run disk := by
  unfold directoryHasEntries
  rw [endures_except_bind]
  refine ⟨initially, ?_⟩
  change Endures handler _ _ (demand (some (disk.observations.map fun files =>
      files.keys.map fun name => (name, true)))) disk
  cases created : disk.observations with
  | none => exact ⟨rfl, rfl⟩
  | some files =>
    have empty : files.keys = [] := by
      rw [eq_nil_iff_forall_not_mem]
      intro name key
      have present := (Disk.mem_keys_iff created name).mp key
      rw [unused name] at present
      cases present
    simp only [Option.map_some, demand, endures_done]
    rw [empty]
    exact ⟨rfl, rfl⟩

/-- Initializing an unused directory keeps it usable at every stop. -/
theorem initializeStore_endures (valid : validateMembers members = .ok ())
    (permuted : members.Perm membership) (holds : DiskHolds disk membership logs dropped)
    (absent : disk.membership = none) (unused : ∀ name, disk.file? name = none) :
    Endures handler (Survives membership logs) (fun outcome after =>
        outcome = .ok () ∧ DiskHolds after membership logs dropped ∧ after.membership.isSome)
      (initializeStore members).run disk := by
  let created : Disk :=
    { disk with observations := some (disk.observations.getD ∅) }
  let named : Disk := { created with membership := some (membershipText members) }
  have sameFiles : ∀ name, created.file? name = disk.file? name := by
    intro name
    change (disk.observations.getD ∅).lookup name = _
    unfold Disk.file?
    cases disk.observations with
    | none => exact AList.lookup_empty name
    | some files => rfl
  have agree : ∀ after : Disk, after.observations = created.observations → ∀ member ∈ membership,
        MemberHolds after member (logs member) (dropped member) := by
    intro after same member listed
    have contents : ∀ name, after.content? name = disk.content? name := by
      intro name
      unfold Disk.content?
      rw [← sameFiles name]
      unfold Disk.file?
      rw [same]
    obtain ⟨short, owned, journal, checkpoint, onDisk, anchors⟩ := holds.members member listed
    refine ⟨short, owned, ?_, checkpoint, onDisk.congr (contents _), anchors⟩
    rw [contents]
    exact journal
  have noFile : ∀ name, created.file? name = none :=
    fun name => (sameFiles name).trans (unused name)
  have known : ∀ after : Disk, after.observations = created.observations →
      ∀ name, (after.file? name).isSome → ∃ member ∈ membership, ∃ artifact : Artifact,
          name = artifact.file member := by
    intro after same name present
    have none : after.file? name = none := by
      have absent := noFile name
      unfold Disk.file? at absent ⊢
      rw [same]
      exact absent
    rw [none] at present
    cases present
  have holdsCreated : DiskHolds created membership logs dropped :=
    ⟨.unused absent noFile, known created rfl, agree created rfl⟩
  have holdsNamed : DiskHolds named membership logs dropped :=
    ⟨.initialized _ members rfl (decodeMembership_membershipText valid) permuted
      rfl, known named rfl, agree named rfl⟩
  unfold initializeStore
  rw [endures_except_bind]
  refine (directoryHasEntries_endures holds.survives unused).mono (fun _ => id) ?_
  rintro outcome after ⟨rfl, rfl⟩
  simp only [Bool.false_eq_true, if_false]
  rw [endures_except_bind]
  refine ⟨holdsCreated.survives, ?_⟩
  change Endures handler _ _ (insist true) created
  simp only [insist, endures_done]
  rw [endures_except_bind, endures_compute, encodeMembership_valid valid]
  have creates : handler (.createMembership (membershipText members))
      created = (true, named) := by
    have new : (created.isCreated && created.membership.isNone) := by
      rw [absent]
      rfl
    change (if created.isCreated && created.membership.isNone then _ else _) = _
    rw [if_pos new]
  refine ⟨?_, ?_⟩
  · rw [creates]
    exact holdsNamed.survives
  · rw [creates]
    exact ⟨rfl, holdsNamed, rfl⟩

/-- What an open of the store leads to. -/
def OpensTo (membership : List Text) (logs : Logs) (dropped : Text → Nat)
    (members : List Text) (freshnessMs : U64) (outcome : Except StoreError ConsensusStore)
    (after : Disk) : Prop :=
  ∃ store, outcome = .ok store ∧ store.members = members ∧
    store.observationFreshnessMs = freshnessMs ∧ store.failure = none ∧
    StoreHolds store after membership logs (compactedPrefix logs freshnessMs dropped)

section

variable (valid : validateMembers membership = .ok ()) (permuted : members.Perm membership)
  (freshnessMs : U64) (holds : DiskHolds disk membership logs dropped)

include valid permuted freshnessMs holds

theorem openAll_endures (initialized : disk.membership.isSome) :
    Endures handler (Survives membership logs)
      (OpensTo membership logs dropped members freshnessMs) (do
        let journals ← openJournals freshnessMs members ∅
        pure
          { members, observationFreshnessMs := freshnessMs, journals,
            failure := none } : StoreProgram ConsensusStore).run disk := by
  obtain ⟨_, allSafe, distinct⟩ := (validateMembers_eq_ok_iff membership).mp valid
  rw [endures_except_bind]
  refine (openJournals_endures allSafe freshnessMs (permuted.nodup_iff.mpr distinct)
    (fun member listed => permuted.mem_iff.mp listed) holds initialized ∅).mono
    (fun _ => id) ?_
  rintro outcome after ⟨opened, rfl, remaining, facts⟩
  simp only
  rw [endures_pure]
  have matched : ∀ member ∈ membership, _ := fun member listed =>
    facts.matched member (permuted.mem_iff.mpr listed)
  refine ⟨_, rfl, rfl, rfl, rfl, permuted, ⟨facts.holds.identity,
    facts.holds.known, ?_⟩, ?_, ?_, ?_⟩
  · intro member listed
    rw [← (matched member listed).1]
    exact facts.holds.members member listed
  · rw [facts.agree.membership]
    exact initialized
  · intro member listed
    obtain ⟨same, journal, found, isMatch⟩ := matched member listed
    rw [← same]
    exact ⟨journal, found, isMatch⟩
  · intro member isKnown
    by_contra unknown
    have lookedUp := (facts.others member fun listed =>
      unknown (permuted.mem_iff.mp listed)).2
    rw [AList.lookup_empty] at lookedUp
    have present := AList.lookup_isSome.mpr isKnown
    rw [lookedUp] at present
    cases present

/-- Opening the store keeps the logs at every safe stop, succeeds, and ends with
a store that matches the directory. -/
theorem openStore_endures : Endures handler (Survives membership logs)
      (OpensTo membership logs dropped members freshnessMs)
      (ConsensusStore.openStore members freshnessMs).run disk := by
  have validMembers := validateMembers_perm valid permuted
  have known : ∀ name, (disk.file? name).isSome → ∃ member ∈ members, ∃ artifact : Artifact,
        name = artifact.file member := by
    intro name present
    obtain ⟨member, listed, artifact, same⟩ := holds.known name present
    exact ⟨member, permuted.mem_iff.mpr listed, artifact, same⟩
  unfold ConsensusStore.openStore loadMembership
  rw [endures_except_bind, endures_compute, validMembers]
  rw [endures_except_bind, endures_except_bind]
  refine ⟨holds.survives, ?_⟩
  change Endures handler _ _ (demand (some disk.membership)) disk
  cases holds.identity with
  | initialized content onDisk found decoded permutedDisk _ =>
    have same : sameMembership onDisk members :=
      (sameMembership_iff _ _).mpr (permutedDisk.trans permuted.symm)
    rw [found]
    simp only [demand, endures_done]
    rw [endures_except_bind, endures_compute, decoded]
    simp only
    rw [endures_pure]
    simp only [same, Bool.not_true, Bool.false_eq_true, if_false]
    rw [endures_except_bind]
    refine (scanObservations_endures holds.survives known).mono (fun _ => id) ?_
    rintro outcome after ⟨rfl, rfl⟩
    exact openAll_endures valid permuted freshnessMs holds (by rw [found]; rfl)
  | unused absent unused =>
    rw [absent]
    simp only [demand, endures_done]
    rw [endures_pure]
    simp only
    rw [endures_except_bind]
    refine (scanObservations_endures holds.survives known).mono (fun _ => id) ?_
    rintro outcome after ⟨rfl, rfl⟩
    rw [endures_except_bind]
    refine (initializeStore_endures validMembers permuted holds absent unused).mono (fun _ => id) ?_
    rintro outcome final ⟨rfl, holdsFinal, initialized⟩
    exact openAll_endures valid permuted freshnessMs holdsFinal initialized

end

/-! ## Recording -/

/-- A log with one more report. -/
def pushLog (logs : Logs) (report : MemberReport) : Logs :=
  update logs report.memberId (logs report.memberId ++ [report])

/-- A journal that took changes of its own member keeps the store in step. -/
theorem StoreHolds.update (holds : StoreHolds store disk membership logs dropped)
    (listed : member ∈ membership) (agree : AgreeOff (BelongsTo member) disk after)
    (memberHolds : MemberHolds after member log count)
    (isMatch : JournalMatches after member log count journal) :
    StoreHolds (store.setJournal member journal) after membership (update logs member log)
      (update dropped member count) where
  members := holds.members
  holds := holds.holds.update listed holds.initialized agree memberHolds
  initialized := by
    rw [agree.membership]
    exact holds.initialized
  journals := by
    intro other otherListed
    by_cases same : other = member
    · subst same
      rw [update_self, update_self]
      exact ⟨journal, AList.lookup_insert _, isMatch⟩
    · obtain ⟨found, lookedUp, otherMatches⟩ := holds.journals other otherListed
      rw [update_of_ne same, update_of_ne same]
      exact ⟨found, (AList.lookup_insert_ne same).trans lookedUp,
        otherMatches.frame agree (not_belongsTo_file same .journal)⟩
  known := by
    intro other isKnown
    rcases (AList.mem_insert _).mp isKnown with rfl | earlier
    · exact listed
    · exact holds.known other earlier

theorem MemberHolds.dropped_le (holds : MemberHolds disk member log count) :
    count ≤ log.length := by
  obtain ⟨checkpoint, _, anchors⟩ := holds.checkpoint
  cases checkpoint with
  | none =>
    rw [CheckpointAnchors] at anchors
    omega
  | some checkpoint =>
    obtain ⟨_, _, line, head, _⟩ := anchors
    by_contra beyond
    rw [linesAfter, drop_eq_nil_of_le (by omega)] at head
    cases head

theorem unlines_push (within : count ≤ log.length) (report : MemberReport) :
    unlines (linesAfter count (log ++ [report])) =
      unlines (linesAfter count log) ++
        (unwords (JournalRecord.mk (log.length + 1) report).words ++ ['\n']) := by
  have sequence : count + 1 + (log.drop count).length = log.length + 1 := by
    rw [length_drop]
    omega
  rw [linesAfter, drop_append_of_le_length within, linesFrom_append, sequence,
    unlines_append, ← unlines_singleton]
  rfl

theorem MemberHolds.append (holds : MemberHolds disk report.memberId log count)
    (short : log.length + 2 < 2 ^ 64)
    (agree : AgreeOff (· = journalFile report.memberId) disk after)
    (content : after.content? (journalFile report.memberId) = some (unlines
        (linesAfter count (log ++ [report])))) :
    MemberHolds after report.memberId (log ++ [report]) count where
  short := by
    rw [length_append, length_singleton]
    exact short
  owned := Table.forall_mem_concat holds.owned rfl
  journal := .inl content
  checkpoint := by
    have kept : ¬ checkpointFile report.memberId =
        journalFile report.memberId :=
      (journal_ne_temp report.memberId).2.2.2.2.symm
    obtain ⟨checkpoint, onDisk, anchors⟩ := holds.checkpoint
    refine ⟨checkpoint, onDisk.congr (agree.content kept), ?_⟩
    cases checkpoint with
    | none => exact anchors
    | some checkpoint =>
      obtain ⟨owner, behind, line, head, anchored⟩ := anchors
      refine ⟨owner, behind, line, ?_, anchored⟩
      rw [linesAfter, drop_append_of_le_length holds.dropped_le, linesFrom_append, head?_append,
        head]
      rfl

/-- Appending the next line through the handle of a matching journal. -/
theorem JournalMatches.append (isMatch : JournalMatches disk report.memberId log count journal)
    (holds : MemberHolds disk report.memberId log count) (short : log.length + 2 < 2 ^ 64) :
    let appended := disk.append (journalFile report.memberId) journal.file
      (unwords (JournalRecord.mk journal.nextSequence report).words ++ ['\n'])
    appended.1 ∧ AgreeOff (· = journalFile report.memberId) disk appended.2 ∧
      MemberHolds appended.2 report.memberId (log ++ [report]) count ∧
      JournalMatches appended.2 report.memberId (log ++ [report]) count
        { journal with
          nextSequence := journal.nextSequence + 1
          records := journal.records ++ [report] } := by
  obtain ⟨file, isFile, inode, content⟩ := isMatch.file
  obtain ⟨done, agree, found, _⟩ := Disk.append_spec isFile
    (unwords (JournalRecord.mk journal.nextSequence report).words ++ ['\n'])
  rw [inode] at done agree found
  have text : file.content ++ (unwords (JournalRecord.mk journal.nextSequence report).words ++
        ['\n']) =
      unlines (linesAfter count (log ++ [report])) := by
    rw [unlines_push holds.dropped_le, content, isMatch.next]
  rw [text] at found
  refine ⟨done, agree, holds.append short agree ?_, isMatch.first, ?_, ?_, _, found, rfl, rfl⟩
  · exact congrArg (Option.map DiskFile.content) found
  · simp only [isMatch.next, length_append, length_singleton]
  · simp only [isMatch.records]
    rw [drop_append_of_le_length holds.dropped_le]

/-- A successful record leads to a store in step with the longer log. -/
def AppendsTo (store : ConsensusStore) (membership : List Text) (logs : Logs)
    (dropped : Text → Nat) (report : MemberReport)
    (outcome : Except StoreError Unit × ConsensusStore) (after : Disk) : Prop :=
  outcome.1 = .ok () ∧ outcome.2.members = store.members ∧
    outcome.2.observationFreshnessMs = store.observationFreshnessMs ∧
    outcome.2.failure = store.failure ∧
    StoreHolds outcome.2 after membership (pushLog logs report)
      (update dropped report.memberId
        (compactedPrefix (pushLog logs report) store.observationFreshnessMs
          dropped report.memberId))

theorem rotate_endures (valid : validateMembers membership = .ok ()) {middle : Disk}
    (holds : StoreHolds store disk membership logs dropped) (listed : report.memberId ∈ membership)
    (agree : AgreeOff (BelongsTo report.memberId) disk middle)
    (memberHolds : MemberHolds middle report.memberId
      (logs report.memberId ++ [report]) (dropped report.memberId))
    (isMatch : JournalMatches middle report.memberId
      (logs report.memberId ++ [report]) (dropped report.memberId) journal) :
    Endures handler (Survives membership (pushLog logs report))
      (AppendsTo store membership logs dropped report)
      (store.rotate report.memberId journal) middle := by
  obtain ⟨_, allSafe, _⟩ := (validateMembers_eq_ok_iff membership).mp valid
  have created : middle.isCreated :=
    agree.created.trans (holds.holds.created holds.initialized)
  obtain ⟨file, isFile, inode, content⟩ := isMatch.file
  have journalContent : middle.content? (journalFile report.memberId) = _ :=
    congrArg (Option.map DiskFile.content) isFile
  simp only [Option.map_some, content] at journalContent
  have count : dropped report.memberId + compactablePrefixLen
      ((logs report.memberId ++ [report]).drop (dropped report.memberId))
      store.observationFreshnessMs =
      compactedPrefix (pushLog logs report) store.observationFreshnessMs dropped
        report.memberId := by
    unfold compactedPrefix pushLog
    rw [update_self]
  have compacts := compactJournal_endures (allSafe _ listed) created memberHolds
    journalContent journal.checkpoint store.observationFreshnessMs
  simp only [count] at compacts
  unfold ConsensusStore.rotate
  rw [endures_bind, isMatch.first, isMatch.records]
  refine compacts.mono ?_ ?_
  · intro after stops
    exact (stops.after agree).survives holds.holds listed holds.initialized
  rintro outcome after ⟨compaction, rfl, first, records, unchanged, agreeAfter,
    holdsAfter, contentAfter⟩
  simp only
  have agreeAll := agree.trans agreeAfter
  cases written : compaction.checkpoint with
  | none =>
    have same := unchanged written
    subst same
    refine ⟨rfl, rfl, rfl, rfl, ?_⟩
    refine holds.update listed agreeAll holdsAfter
      ⟨first, isMatch.next, records, file, isFile, inode, ?_⟩
    rw [contentAfter, Option.some.injEq] at journalContent
    rw [content, journalContent]
  | some checkpoint =>
    rw [endures_bind]
    have stops := holdsAfter.stopsWith.after agreeAll
    refine (openAppend_endures (stops.survives holds.holds listed
      holds.initialized) contentAfter).mono (fun _ => id) ?_
    rintro outcome final ⟨opened, rfl, rfl, isOpened, openedContent⟩
    refine ⟨rfl, rfl, rfl, rfl, ?_⟩
    exact holds.update listed agreeAll holdsAfter
      ⟨first, isMatch.next, records, opened, isOpened, rfl, openedContent⟩

/-- What recording a report leads to: the longer log, or no change on disk and
the reason for it. -/
inductive RecordsTo (store : ConsensusStore) (disk : Disk) (membership : List Text)
    (logs : Logs) (dropped : Text → Nat)
    (report : MemberReport) :
    Except StoreError Unit × ConsensusStore → Disk → Prop
  | appended {outcome : Except StoreError Unit × ConsensusStore} {after : Disk} :
      store.failure = none → report.memberId ∈ membership →
      (logs report.memberId).length + 2 < 2 ^ 64 →
      AppendsTo store membership logs dropped report outcome after →
      RecordsTo store disk membership logs dropped report outcome after
  | refused (error : StoreError) : store.failure ≠ none ∨ report.memberId ∉ membership →
      RecordsTo store disk membership logs dropped report (.error error, store) disk
  | exhausted : store.failure = none → report.memberId ∈ membership →
      ¬ (logs report.memberId).length + 2 < 2 ^ 64 →
      RecordsTo store disk membership logs dropped report
        (.error .sequenceExhausted, store.fail .sequenceExhausted) disk

/-- Recording keeps the logs at every safe stop, with the report or without
it. -/
theorem record_endures (valid : validateMembers membership = .ok ())
    (holds : StoreHolds store disk membership logs dropped) (report : MemberReport) :
    Endures handler (fun after => Survives membership (pushLog logs report) after)
      (RecordsTo store disk membership logs dropped report) (store.record report) disk := by
  obtain ⟨_, allSafe, _⟩ := (validateMembers_eq_ok_iff membership).mp valid
  unfold ConsensusStore.record
  by_cases working : store.failure = none
  · rw [working]
    simp only [Option.isSome_none, Bool.false_eq_true, if_false]
    by_cases listed : report.memberId ∈ membership
    · obtain ⟨journal, found, isMatch⟩ := holds.journals _ listed
      have memberHolds := holds.holds.members _ listed
      rw [found]
      simp only
      by_cases fits : (logs report.memberId).length + 2 < 2 ^ 64
      · rw [if_pos (by rw [isMatch.next]; exact fits), encode_eq (allSafe _ listed) _ rfl]
        rw [endures_bind]
        obtain ⟨done, agree, pushed, pushedMatches⟩ := isMatch.append memberHolds fits
        have own := agree.mono fun name same =>
          (⟨Artifact.journal, same⟩ : BelongsTo report.memberId name)
        have stops := pushed.stopsWith.after own
        refine ⟨stops.survives holds.holds listed holds.initialized, ?_⟩
        change Endures handler _ _ (insist (disk.append _ _ _).1) (disk.append _ _ _).2
        rw [done]
        refine (rotate_endures valid holds listed own pushed pushedMatches).mono (fun _ => id) ?_
        intro outcome after appends
        exact .appended working listed fits appends
      · rw [if_neg (by rw [isMatch.next]; exact fits)]
        exact .exhausted working listed fits
    · have unknown : store.journals.lookup report.memberId = none := by
        rw [AList.lookup_eq_none]
        exact fun known => listed (holds.known _ known)
      rw [unknown]
      exact .refused _ (.inr listed)
  · rw [if_pos (Option.isSome_iff_ne_none.mpr working)]
    exact .refused _ (.inl working)

end Store

end Zrotext.Failover
