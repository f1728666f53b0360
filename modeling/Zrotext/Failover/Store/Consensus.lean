import Zrotext.Failover.Store.Disk

/-!
# The consensus store

`ConsensusStore` of `store.rs`: opening, which loads and reconciles the member
journals, recording, which appends and compacts, and the two ways of reading
rounds of fresh reports.
-/

namespace Zrotext.Failover

open Foundation ExceptT

/-- A program over the store directory that may fail. -/
abbrev StoreProgram := ExceptT StoreError (Program diskCalls)

namespace StoreProgram

/-- A computed result or failure. -/
def compute {α : Type} (result : Except StoreError α) : StoreProgram α := mk (.done result)

/-- Turn an unanswered operation into a failure. -/
def demand {α : Type} : Option α → Program diskCalls (Except StoreError α)
  | some value => .done (.ok value)
  | none => .done (.error .io)

/-- Turn a refused operation into a failure. -/
def insist : Bool → Program diskCalls (Except StoreError Unit)
  | true => .done (.ok ())
  | false => .done (.error .io)

/-- Read the membership record. -/
def readMembership : StoreProgram (Option Text) := mk (.call .readMembership demand)

/-- List the observations directory. -/
def listObservations : StoreProgram (Option (List (Text × Bool))) :=
  mk (.call .listObservations demand)

/-- Create the observations directory. -/
def createObservations : StoreProgram Unit := mk (.call .createObservations insist)

/-- Create the membership record. -/
def createMembership (content : Text) : StoreProgram Unit :=
  mk (.call (.createMembership content) insist)

/-- Read a file. -/
def readFile (name : Text) : StoreProgram (Option Text) :=
  mk (.call (.readFile name) demand)

/-- Create an empty file. -/
def createFile (name : Text) : StoreProgram Unit := mk (.call (.createFile name) insist)

/-- Open a file for appending. -/
def openAppend (name : Text) : StoreProgram Nat := mk (.call (.openAppend name) demand)

/-- Append a line to a file. -/
def append (name : Text) (handle : Nat) (line : Text) : StoreProgram Unit :=
  mk (.call (.append name handle line) insist)

/-- Write a file through a temporary one and a rename. -/
def writeAtomically (temp destination content : Text) : StoreProgram Unit := do
  mk (.call (.writeFile temp content) insist)
  mk (.call (.rename temp destination) insist)

end StoreProgram

open StoreProgram

/-- An observation is fresh evidence at a time. -/
def isFresh (observedAtMs nowMs freshnessMs : U64) : Bool :=
  decide (observedAtMs.val ≤ nowMs.val ∧ nowMs.val - observedAtMs.val ≤ freshnessMs.val)

/-- Records that every journal keeps, however old. -/
def journalRetainedFloor : Nat := 8

/-- The newest observation of some records. -/
def newestObservation (records : List MemberReport) : Option U64 :=
  (records.map MemberReport.observedAtMs).max?

/-- How many leading records compaction may drop. -/
def compactablePrefixLen (records : List MemberReport) (observationFreshnessMs : U64) : Nat :=
  match newestObservation records with
  | none => 0
  | some anchor =>
    min (records.takeWhile fun report =>
        !isFresh report.observedAtMs anchor observationFreshnessMs).length
      (records.length - journalRetainedFloor)

/-- Number reports from a first sequence. -/
def numberedFrom : Nat → List MemberReport → List JournalRecord
  | _, [] => []
  | sequence, report :: reports =>
    { sequence, report } :: numberedFrom (sequence + 1) reports

/-- Encode records line by line, up to the first that cannot be encoded. -/
def encodeRecords : List JournalRecord → Except StoreError (List Text)
  | [] => .ok []
  | record :: records => do
    let line ← record.encode
    let lines ← encodeRecords records
    .ok (line :: lines)

/-- The outcome of a compaction: the first sequence, the records that are left,
and the checkpoint if one was written. -/
structure Compaction where
  firstSequence : Nat
  records : List MemberReport
  checkpoint : Option Checkpoint

variable (member : Text)

/-- The checkpoint of a compaction that drops the given records and lines and
keeps the head line. -/
def nextCheckpoint (firstSequence : Nat) (previous : Option Checkpoint)
    (dropped : List MemberReport) (droppedLines : List Text) (head : Text) : Checkpoint :=
  { memberId := member, lastCompactedSequence := firstSequence + dropped.length - 1
    newestCompactedAtMs :=
      dropped.foldl (fun newest report => max newest report.observedAtMs) 0
    prefixDigest :=
      droppedLines.foldl fnv1a64 (previous.elim fnvOffsetBasis
        Checkpoint.prefixDigest)
    headDigest := fnv1a64 fnvOffsetBasis head }

/-- Rewrite a journal without its compactable prefix, then its checkpoint. -/
def compactJournal (firstSequence : Nat) (records : List MemberReport)
    (previous : Option Checkpoint) (observationFreshnessMs : U64) : StoreProgram Compaction :=
  let compactable := compactablePrefixLen records observationFreshnessMs
  if compactable = 0 then
    pure { firstSequence, records, checkpoint := none }
  else do
    let lines ← compute (encodeRecords (numberedFrom firstSequence records))
    match (lines.drop compactable).head? with
    | none => throw .sequenceExhausted
    | some head => do
      let checkpoint := nextCheckpoint member firstSequence previous
        (records.take compactable) (lines.take compactable) head
      writeAtomically (Artifact.journalTemp.file member) (journalFile member)
        (Text.unlines (lines.drop compactable))
      let encoded ← compute checkpoint.encode
      writeAtomically (Artifact.checkpointTemp.file member)
        (checkpointFile member) encoded
      pure
        { firstSequence := firstSequence + compactable, records := records.drop compactable
          checkpoint := some checkpoint }

/-- Decode the lines of a journal and check identities and sequences.  The
index counts the lines read so far; the first sequence is known after one. -/
def loadLines (member : Text) : Nat → Option Nat → List Text →
      Except StoreError (Option Nat × List MemberReport)
  | _, first, [] => .ok (first, [])
  | index, first, line :: lines =>
    match JournalRecord.decode line with
    | .error _ => .error (.corruptRecord member (index + 1))
    | .ok record =>
      if record.report.memberId ≠ member then
        .error (.identitySpoof member record.report.memberId)
      else
        match first with
        | none =>
          if record.sequence = 0 then
            .error (.sequenceBroken member 1 0)
          else do
            let (first, reports) ← loadLines member (index + 1) (some record.sequence) lines
            .ok (first, record.report :: reports)
        | some start =>
          let expected := min (start + index) (2 ^ 64 - 1)
          if record.sequence ≠ expected then
            .error (.sequenceBroken member expected record.sequence)
          else do
            let (first, reports) ← loadLines member (index + 1) (some start) lines
            .ok (first, record.report :: reports)

/-- The lines of a journal, which must end with a newline. -/
def journalLines (content : Text) : Except StoreError (List Text) :=
  if content.isEmpty then
    .ok []
  else if content.getLast? ≠ some '\n' then
    .error (.truncatedTail member)
  else
    .ok (content.dropLast.splitOn '\n')

/-- Reconcile a journal with the checkpoint beside it. -/
def reconcile (checkpoint : Option Checkpoint) (firstSequence : Nat)
    (firstLine : Option Text) (records : List MemberReport) : Except StoreError Unit :=
  match checkpoint with
  | some checkpoint =>
    if checkpoint.memberId ≠ member then
      .error (.checkpointIdentitySpoof member checkpoint.memberId)
    else if firstSequence ≤ checkpoint.lastCompactedSequence then
      .error (.checkpointDisagrees member checkpoint.lastCompactedSequence
        (if records.isEmpty then 0 else firstSequence))
    else if firstSequence = checkpoint.lastCompactedSequence + 1 then
      match firstLine with
      | none =>
        .error (.checkpointDisagrees member checkpoint.lastCompactedSequence firstSequence)
      | some line =>
        if fnv1a64 fnvOffsetBasis line ≠ checkpoint.headDigest then
          .error (.checkpointHeadMismatch member)
        else
          .ok ()
    else
      .ok ()
  | none =>
    if 1 < firstSequence then
      .error (.checkpointMissing member firstSequence)
    else
      .ok ()

/-- What loading a journal finds. -/
structure Loaded where
  (firstSequence nextSequence : Nat)
  records : List MemberReport
deriving DecidableEq

/-- Load the content of a journal beside its checkpoint. -/
def loadJournal (content : Text) (checkpoint : Option Checkpoint) : Except StoreError Loaded := do
  let lines ← journalLines member content
  let (first, records) ← loadLines member 0 none lines
  let firstSequence := first.getD 1
  reconcile member checkpoint firstSequence lines.head? records
  if firstSequence + records.length < 2 ^ 64 then
    .ok
      { firstSequence, nextSequence := firstSequence + records.length
        records }
  else
    .error .sequenceExhausted

/-- A member journal: its append handle, the first and the next sequence, the
retained reports and the checkpoint beside it. -/
structure MemberJournal where
  (file firstSequence nextSequence : Nat)
  records : List MemberReport
  checkpoint : Option Checkpoint

/-- The consensus store. -/
structure ConsensusStore where
  members : List Text
  observationFreshnessMs : U64
  journals : AList fun _ : Text => MemberJournal
  failure : Option StoreError

/-- The content of a member journal; a missing one is created empty. -/
def readJournal : StoreProgram Text := do
  match ← readFile (journalFile member) with
  | some content => pure content
  | none => do
    createFile (journalFile member)
    pure []

/-- The checkpoint beside a member journal. -/
def readCheckpoint : StoreProgram (Option Checkpoint) := do
  match ← readFile (checkpointFile member) with
  | none => pure none
  | some content => do
    let checkpoint ← compute (decodeCheckpoint member content)
    pure (some checkpoint)

/-- Open one member journal. -/
def openJournal (observationFreshnessMs : U64) : StoreProgram MemberJournal := do
  let content ← readJournal member
  let checkpoint ← readCheckpoint member
  let loaded ← compute (loadJournal member content checkpoint)
  let compaction ← compactJournal member loaded.firstSequence loaded.records
    checkpoint observationFreshnessMs
  let file ← openAppend (journalFile member)
  pure
    { file, firstSequence := compaction.firstSequence
      nextSequence := loaded.nextSequence, records := compaction.records
      checkpoint := compaction.checkpoint.or checkpoint }

/-- Open the journals of some members. -/
def openJournals (observationFreshnessMs : U64) :
    List Text → (AList fun _ : Text => MemberJournal) →
      StoreProgram (AList fun _ : Text => MemberJournal)
  | [], journals => pure journals
  | member :: members, journals => do
    let journal ← openJournal member observationFreshnessMs
    openJournals observationFreshnessMs members (journals.insert member journal)

/-- Refuse any entry that is not an artifact of a member. -/
def scanObservations (members : List Text) : StoreProgram Unit := do
  match ← listObservations with
  | none => pure ()
  | some entries =>
    match entries.find? fun entry =>
        !isKnownEntry members entry.1 entry.2 with
    | some entry => throw (.foreignJournal entry.1)
    | none => pure ()

/-- The observations directory exists and has an entry. -/
def directoryHasEntries : StoreProgram Bool := do
  match ← listObservations with
  | none => pure false
  | some entries => pure !entries.isEmpty

/-- The durable membership, if the store was ever initialized. -/
def loadMembership : StoreProgram (Option (List Text)) := do
  match ← readMembership with
  | none => pure none
  | some content => do
    let members ← compute (decodeMembership content)
    pure (some members)

/-- Initialize an unused directory. -/
def initializeStore (members : List Text) : StoreProgram Unit := do
  if ← directoryHasEntries then
    throw .membershipMissing
  else do
    createObservations
    let encoded ← compute (encodeMembership members)
    createMembership encoded

namespace ConsensusStore

/-- Open, and on first use initialize, the store. -/
def openStore (members : List Text)
    (observationFreshnessMs : U64) : StoreProgram ConsensusStore := do
  compute (validateMembers members)
  let durableMembership ← loadMembership
  match durableMembership with
  | some onDisk =>
    if !sameMembership onDisk members then
      throw (.membershipMismatch onDisk members)
    else do
      scanObservations members
      let journals ← openJournals observationFreshnessMs members ∅
      pure { members, observationFreshnessMs, journals, failure := none }
  | none => do
    scanObservations members
    initializeStore members
    let journals ← openJournals observationFreshnessMs members ∅
    pure { members, observationFreshnessMs, journals, failure := none }

variable (store : ConsensusStore)

/-- Replace the journal of a member. -/
def setJournal (member : Text) (journal : MemberJournal) : ConsensusStore :=
  { store with journals := store.journals.insert member journal }

/-- Close the store for good. -/
def fail (failure : StoreError) : ConsensusStore :=
  { store with failure := some failure }

/-- Compact the journal that just took an append.  A failure is sticky. -/
def rotate (member : Text) (journal : MemberJournal) :
    Program diskCalls (Except StoreError Unit × ConsensusStore) := do
  match ← (compactJournal member journal.firstSequence journal.records
      journal.checkpoint store.observationFreshnessMs).run with
  | .error error =>
    pure (.error error, (store.setJournal member journal).fail .failed)
  | .ok compaction =>
    let compacted :=
      { journal with
        firstSequence := compaction.firstSequence, records := compaction.records }
    match compaction.checkpoint with
    | none => pure (.ok (), store.setJournal member compacted)
    | some checkpoint =>
      match ← (openAppend (journalFile member)).run with
      | .error error =>
        pure (.error error, (store.setJournal member compacted).fail .failed)
      | .ok file =>
        pure (.ok (), store.setJournal member
          { compacted with file, checkpoint := some checkpoint })

/-- Durably append one report to the journal of its member. -/
def record (report : MemberReport) : Program diskCalls (Except StoreError Unit × ConsensusStore) :=
  if store.failure.isSome then
    pure (.error .failed, store)
  else
    match store.journals.lookup report.memberId with
    | none => pure (.error (.unknownMember report.memberId), store)
    | some journal =>
      if journal.nextSequence + 1 < 2 ^ 64 then
        match JournalRecord.encode
            { sequence := journal.nextSequence, report } with
        | .error error => pure (.error error, store)
        | .ok line => do
          match ← (append (journalFile report.memberId)
              journal.file (line ++ ['\n'])).run with
          | .error error => pure (.error error, store.fail .failed)
          | .ok _ =>
            store.rotate report.memberId
              { journal with
                nextSequence := journal.nextSequence + 1, records := journal.records ++ [report] }
      else
        pure (.error .sequenceExhausted, store.fail .sequenceExhausted)

/-- The fresh records of a member. -/
def freshRecords (nowMs : U64) (member : Text) : List MemberReport :=
  match store.journals.lookup member with
  | none => []
  | some journal =>
    journal.records.filter fun report =>
      isFresh report.observedAtMs nowMs store.observationFreshnessMs

/-- Every fresh observation, members in order and records in append order. -/
def round (nowMs : U64) : Round :=
  if store.failure.isSome then
    { reports := [] }
  else
    { reports := store.members.flatMap (store.freshRecords nowMs) }

/-- The sequence that the next append of a member would take. -/
def nextSequence (store : ConsensusStore) (member : Text) : Option Nat :=
  (store.journals.lookup member).map MemberJournal.nextSequence

end ConsensusStore

namespace MemberJournal

/-- How many retained records a cursor has passed. -/
def skip (journal : MemberJournal) (cursor : Nat) : Nat :=
  if cursor + 1 < 2 ^ 64 ∧ journal.firstSequence < cursor + 1 then
    cursor + 1 - journal.firstSequence
  else
    0

/-- One record of the serving loop: a fresh report is served and moves the
high-water mark to its sequence. -/
def serveRecord (journal : MemberJournal) (nowMs freshnessMs : U64)
    (progress : List MemberReport × Nat) (entry : MemberReport × Nat) : List MemberReport × Nat :=
  if isFresh entry.1.observedAtMs nowMs freshnessMs then
    (progress.1 ++ [entry.1], min (journal.firstSequence + entry.2) (2 ^ 64 - 1))
  else
    progress

/-- The fresh records after a cursor, and the last sequence served. -/
def serve (journal : MemberJournal) (nowMs freshnessMs : U64)
    (cursor : Nat) : List MemberReport × Nat :=
  (journal.records.zipIdx.drop (journal.skip cursor)).foldl
    (journal.serveRecord nowMs freshnessMs) ([], cursor)

end MemberJournal

/-- The last sequence served for each member. -/
abbrev Served := AList fun _ : Text => Nat

namespace ConsensusStore

/-- The serving loop at one member. -/
def serveMember (store : ConsensusStore) (nowMs : U64) (progress : List MemberReport × Served)
    (member : Text) : List MemberReport × Served :=
  match store.journals.lookup member with
  | none => progress
  | some journal =>
    let cursor := (progress.2.lookup member).getD 0
    let (reports, lastServed) := journal.serve nowMs store.observationFreshnessMs cursor
    (progress.1 ++ reports,
      if cursor < lastServed then progress.2.insert member lastServed
      else progress.2)

/-- The fresh observations that were appended after the last one served. -/
def unservedRound (store : ConsensusStore) (nowMs : U64) (served : Served) : Round × Served :=
  if store.failure.isSome then
    ({ reports := [] }, served)
  else
    let (reports, served) := store.members.foldl (store.serveMember nowMs) ([], served)
    ({ reports }, served)

end ConsensusStore

/-- The observation source of the executor: a store and what it has served. -/
structure StoreObservationSource where
  store : ConsensusStore
  served : Served

namespace StoreObservationSource

/-- Wrap a store; nothing has been served yet. -/
def new (store : ConsensusStore) : StoreObservationSource :=
  { store, served := ∅ }

/-- Serve the next check round. -/
def collect (source : StoreObservationSource) (nowMs : U64) : Round × StoreObservationSource :=
  let (round, served) := source.store.unservedRound nowMs source.served
  (round, { source with served })

end StoreObservationSource
end Zrotext.Failover
