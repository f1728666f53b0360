import Zrotext.Failover.Decision
import Zrotext.Foundation.Fallible

/-!
# The files of the consensus store

The three line formats of the store (`store.rs`): a journal record, the
compaction checkpoint beside a journal, and the membership record.  Whatever the
store writes, it reads back.
-/

namespace Zrotext.Failover

open Foundation List Text

/-- What is wrong with a configured membership. -/
inductive MembershipFault
  | memberCount
  | unsafeMember (member : Text)
  | repeatedMember | emptyCheckpoint
deriving DecidableEq

/-- What is wrong with a membership record. -/
inductive MembershipDetail
  | text (detail : Text)
  | invalid (fault : MembershipFault)
deriving DecidableEq

/-- Failures of the consensus store. -/
inductive StoreError
  | invalidMembers (fault : MembershipFault)
  | membershipCorrupt (detail : MembershipDetail)
  | membershipMismatch (onDisk configured : List Text)
  | membershipMissing
  | foreignJournal (name : Text)
  | malformedRecord
  | corruptRecord (member : Text) (line : Nat)
  | truncatedTail (member : Text)
  | sequenceBroken (member : Text) (expected found : Nat)
  | identitySpoof (journalMember recordMember : Text)
  | checkpointCorrupt (member detail : Text)
  | checkpointIdentitySpoof (journalMember checkpointMember : Text)
  | checkpointDisagrees (member : Text) (checkpointLastCompacted journalFirst : Nat)
  | checkpointHeadMismatch (member : Text)
  | checkpointMissing (member : Text) (journalFirst : Nat)
  | unknownMember (member : Text)
  | sequenceExhausted | failed | io
deriving DecidableEq

/-- The characters of a safe journal file name. -/
def isFileSafeChar (char : Char) : Bool :=
  char.isAlphanum || char == '-' || char == '_' || char == '.'

/-- The device names that some platforms reserve. -/
def reservedNames : List Text :=
  ["CON".toList, "PRN".toList, "AUX".toList, "NUL".toList, "COM1".toList,
    "COM2".toList, "COM3".toList, "COM4".toList, "COM5".toList, "COM6".toList,
    "COM7".toList, "COM8".toList, "COM9".toList, "LPT1".toList, "LPT2".toList,
    "LPT3".toList, "LPT4".toList, "LPT5".toList, "LPT6".toList, "LPT7".toList,
    "LPT8".toList, "LPT9".toList]

/-- The identifier is safe as a journal file name component. -/
def memberIsFileSafe (member : Text) : Bool :=
  if member.isEmpty || member.head? == some '.' || member.getLast? == some '.' then
    false
  else if !member.all isFileSafeChar then
    false
  else
    !reservedNames.contains ((member.takeWhile fun char => char != '.').map Char.toUpper)

/-- The identifiers are safe, and distinct from the earlier ones. -/
def checkMembers (earlier : List Text) : List Text → Except StoreError Unit
  | [] => .ok ()
  | member :: members =>
    if !memberIsFileSafe member then
      .error (.invalidMembers (.unsafeMember member))
    else if earlier.contains member then
      .error (.invalidMembers .repeatedMember)
    else
      checkMembers (earlier ++ [member]) members

variable (failure : StoreError) (members : List Text) (key : Text)

/-- Validate a configured membership. -/
def validateMembers : Except StoreError Unit :=
  if members.length ≠ requiredMembers then
    .error (.invalidMembers .memberCount)
  else
    checkMembers [] members

/-- Two lists describe the same member set: sorted, they are equal. -/
def sameMembership (onDisk configured : List Text) : Bool := onDisk.isPerm configured

/-- The value of the next field, which must carry the key. -/
def expectField : List Text → Except StoreError (Text × List Text)
  | [] => .error failure
  | field :: fields =>
    match field.dropPrefix? key with
    | none => .error failure
    | some value => .ok (value, fields)

/-- The value of the next field, if there is one; it must carry the key. -/
def optionalField : List Text → Except StoreError (Option Text × List Text)
  | [] => .ok (none, [])
  | field :: fields =>
    match field.dropPrefix? key with
    | none => .error .malformedRecord
    | some value => .ok (some value, fields)

/-- A 64-bit number. -/
def parseNumber (text : Text) : Except StoreError U64 :=
  match parseUnsigned (2 ^ 64) text with
  | none => .error failure
  | some value => .ok value

/-- A boolean as the store writes it. -/
def flagText (value : Bool) : Text :=
  if value then "true".toList else "false".toList

/-- A boolean. -/
def parseFlag (text : Text) : Except StoreError Bool :=
  if text = "true".toList then .ok true
  else if text = "false".toList then .ok false
  else .error .malformedRecord

/-- One journal record: the store-assigned sequence and the report. -/
structure JournalRecord where
  sequence : Nat
  report : MemberReport
deriving DecidableEq

namespace JournalRecord

/-- The writer observation as the journal writes it. -/
def writerText : WriterObservation → Text
  | .reachable epoch => "reachable:".toList ++ decimal epoch.val
  | .unreachable => "unreachable".toList

/-- A site fence as the journal writes it. -/
def fenceText : Option SiteFenceState → Text
  | some fence => flagText fence.enabled ++ ',' :: flagText fence.draining
  | none => ['-']

/-- An optional flag as the journal writes it. -/
def optionalFlagText : Option Bool → Text
  | some value => flagText value
  | none => ['-']

/-- The report carries optional evidence. -/
def carriesEvidence (report : MemberReport) : Bool :=
  report.writerSiteFence.isSome || report.writerStopConfirmed.isSome ||
    report.standbyReady.isSome || report.formerWriterHealthy.isSome

/-- The words of the optional evidence: all of them, or none. -/
def evidenceWords (report : MemberReport) : List Text :=
  if carriesEvidence report then
    ["fence=".toList ++ fenceText report.writerSiteFence,
      "stop=".toList ++ optionalFlagText report.writerStopConfirmed,
      "standby=".toList ++ optionalFlagText report.standbyReady,
      "former=".toList ++ optionalFlagText report.formerWriterHealthy]
  else
    []

/-- The words of an encoded record. -/
def words (record : JournalRecord) : List Text := ["v1".toList,
    "member=".toList ++ record.report.memberId, "seq=".toList ++ decimal record.sequence,
    "at=".toList ++ decimal record.report.observedAtMs.val,
    "writer=".toList ++ writerText record.report.writer] ++
  evidenceWords record.report

/-- Encode into the single-line journal format. -/
def encode (record : JournalRecord) : Except StoreError Text :=
  if !memberIsFileSafe record.report.memberId then
    .error (.invalidMembers (.unsafeMember record.report.memberId))
  else
    .ok (unwords record.words)

/-- Read the writer observation. -/
def decodeWriter (text : Text) : Except StoreError WriterObservation :=
  if text = "unreachable".toList then
    .ok .unreachable
  else
    match text.dropPrefix? "reachable:".toList with
    | none => .error .malformedRecord
    | some epoch => do
      let epoch ← parseNumber .malformedRecord epoch
      .ok (.reachable epoch)

/-- Read a site fence. -/
def decodeFence : Option Text → Except StoreError (Option SiteFenceState)
  | none => .ok none
  | some text =>
    if text = ['-'] then
      .ok none
    else
      match text.splitOnce ',' with
      | none => .error .malformedRecord
      | some (enabled, draining) => do
        let enabled ← parseFlag enabled
        let draining ← parseFlag draining
        .ok (some { enabled, draining })

/-- Read an optional flag. -/
def decodeFlag : Option Text → Except StoreError (Option Bool)
  | none => .ok none
  | some text =>
    if text = ['-'] then
      .ok none
    else do
      let value ← parseFlag text
      .ok (some value)

/-- The record in a list of fields. -/
def decodeFields (fields : List Text) : Except StoreError JournalRecord := do
  let (memberId, fields) ← expectField .malformedRecord "member=".toList fields
  if !memberIsFileSafe memberId then
    .error .malformedRecord
  else do
    let (sequence, fields) ← expectField .malformedRecord "seq=".toList fields
    let sequence ← parseNumber .malformedRecord sequence
    let (observedAtMs, fields) ← expectField .malformedRecord "at=".toList fields
    let observedAtMs ← parseNumber .malformedRecord observedAtMs
    let (writer, fields) ← expectField .malformedRecord "writer=".toList fields
    let writer ← decodeWriter writer
    let (fence, fields) ← optionalField "fence=".toList fields
    let writerSiteFence ← decodeFence fence
    let (stop, fields) ← optionalField "stop=".toList fields
    let writerStopConfirmed ← decodeFlag stop
    let (standby, fields) ← optionalField "standby=".toList fields
    let standbyReady ← decodeFlag standby
    let (former, fields) ← optionalField "former=".toList fields
    let formerWriterHealthy ← decodeFlag former
    if fields ≠ [] then
      .error .malformedRecord
    else
      .ok
        { sequence := sequence.val
          report :=
            { memberId, observedAtMs, writer, writerSiteFence,
              writerStopConfirmed, standbyReady, formerWriterHealthy } }

/-- Parse a record line. -/
def decode (line : Text) : Except StoreError JournalRecord :=
  match line.splitWhitespace with
  | [] => .error .malformedRecord
  | version :: fields =>
    if version = "v1".toList then decodeFields fields
    else .error .malformedRecord

end JournalRecord

/-- The seed of the digest. -/
def fnvOffsetBasis : U64 := ⟨0xcbf29ce484222325, by decide⟩

/-- The prime of the digest. -/
def fnvPrime : Nat := 0x00000100000001b3

/-- Digest a text into a seed with 64-bit FNV-1a. -/
def fnv1a64 (seed : U64) (text : Text) : U64 := (text.flatMap String.utf8EncodeChar).foldl
    (fun hash byte => Fin.ofNat (2 ^ 64) ((hash.val ^^^ byte.toNat) * fnvPrime)) seed

/-- The compaction checkpoint beside a member journal. -/
structure Checkpoint where
  memberId : Text
  lastCompactedSequence : Nat
  (newestCompactedAtMs prefixDigest headDigest : U64)
deriving DecidableEq

namespace Checkpoint

/-- The words of an encoded checkpoint. -/
def words (checkpoint : Checkpoint) : List Text := ["v1".toList,
    "member=".toList ++ checkpoint.memberId,
    "seq=".toList ++ decimal checkpoint.lastCompactedSequence,
    "at=".toList ++ decimal checkpoint.newestCompactedAtMs.val,
    "prefix=".toList ++ hexadecimal 16 checkpoint.prefixDigest.val,
    "head=".toList ++ hexadecimal 16 checkpoint.headDigest.val]

/-- Encode into the single-line checkpoint format. -/
def encode (checkpoint : Checkpoint) : Except StoreError Text :=
  if !memberIsFileSafe checkpoint.memberId then
    .error (.invalidMembers (.unsafeMember checkpoint.memberId))
  else if checkpoint.lastCompactedSequence = 0 then
    .error (.invalidMembers .emptyCheckpoint)
  else
    .ok (unlines [unwords checkpoint.words])

end Checkpoint

/-- The text before the final newline. -/
def stripNewline (content : Text) : Option Text :=
  if content.getLast? = some '\n' then some content.dropLast else none

/-- Read a digest of sixteen hexadecimal digits. -/
def decodeDigest (corrupt : Text → StoreError) (name raw : Text) : Except StoreError U64 :=
  if raw.length ≠ 16 ∨ !raw.all isHexDigit then
    .error (corrupt ("the ".toList ++ name ++ " digest is not 16 hex digits".toList))
  else if fits : readHexadecimal raw < 2 ^ 64 then
    .ok ⟨readHexadecimal raw, fits⟩
  else
    .error (corrupt ("the ".toList ++ name ++ " digest is invalid".toList))

/-- The checkpoint in a list of fields. -/
def decodeCheckpointFields (corrupt : Text → StoreError) (fields : List Text) :
    Except StoreError Checkpoint := do
  let missing := corrupt "a checkpoint field is missing or misordered".toList
  let (memberId, fields) ← expectField missing "member=".toList fields
  if !memberIsFileSafe memberId then
    .error (corrupt "the member identity is not a safe journal file name".toList)
  else do
    let (sequence, fields) ← expectField missing "seq=".toList fields
    let sequence ← parseNumber
      (corrupt "the last-compacted sequence is not a number".toList) sequence
    if sequence = 0 then
      .error (corrupt "the last-compacted sequence must be at least one".toList)
    else do
      let (newest, fields) ← expectField missing "at=".toList fields
      let newest ← parseNumber
        (corrupt "the newest compacted timestamp is not a number".toList) newest
      let (prefixRaw, fields) ← expectField missing "prefix=".toList fields
      let prefixDigest ← decodeDigest corrupt "prefix".toList prefixRaw
      let (headRaw, fields) ← expectField missing "head=".toList fields
      let headDigest ← decodeDigest corrupt "head".toList headRaw
      if fields ≠ [] then
        .error (corrupt "trailing fields after the head digest".toList)
      else
        .ok
          { memberId, lastCompactedSequence := sequence.val
            newestCompactedAtMs := newest, prefixDigest
            headDigest }

/-- Parse the checkpoint of a member. -/
def decodeCheckpoint (member content : Text) : Except StoreError Checkpoint :=
  let corrupt := StoreError.checkpointCorrupt member
  match stripNewline content with
  | none => .error (corrupt "the checkpoint is torn: no final newline".toList)
  | some line =>
    if line.contains '\n' then
      .error (corrupt "the checkpoint has more than one line".toList)
    else
      match line.splitWhitespace with
      | [] => .error (corrupt "not a v1 checkpoint".toList)
      | version :: fields =>
        if version = "v1".toList then decodeCheckpointFields corrupt fields
        else .error (corrupt "not a v1 checkpoint".toList)

/-- Encode the durable membership record. -/
def encodeMembership : Except StoreError Text := do
  validateMembers members
  .ok (unlines [unwords
    ["v1".toList, "members=".toList ++ intercalate [','] members]])

/-- Parse a membership record. -/
def decodeMembership (content : Text) : Except StoreError (List Text) :=
  let corrupt := fun detail =>
    StoreError.membershipCorrupt (.text (String.toList detail))
  match stripNewline content with
  | none => .error (corrupt "the record is torn: no final newline")
  | some line =>
    if line.contains '\n' then
      .error (corrupt "the record has more than one line")
    else
      match line.splitWhitespace with
      | [] => .error (corrupt "not a v1 membership record")
      | version :: fields =>
        if version ≠ "v1".toList then
          .error (corrupt "not a v1 membership record")
        else do
          let (list, fields) ← expectField
            (corrupt "the members field is missing") "members=".toList
            fields
          if fields ≠ [] then
            .error (corrupt "trailing fields after the members list")
          else
            let members := list.splitOn ','
            match validateMembers members with
            | .ok _ => .ok members
            | .error (.invalidMembers fault) =>
              .error (.membershipCorrupt (.invalid fault))
            | .error other => .error other

/-! ## Reading back -/

@[simp] theorem expectField_append (value : Text) (fields : List Text) :
    expectField failure key ((key ++ value) :: fields) = .ok (value, fields) := by
  simp only [expectField, dropPrefix_append]

@[simp] theorem optionalField_append (value : Text) (fields : List Text) :
    optionalField key ((key ++ value) :: fields) = .ok (some value, fields) := by
  simp only [optionalField, dropPrefix_append]

@[simp] theorem parseNumber_decimal (value : U64) :
    parseNumber failure (decimal value.val) = .ok value := by
  unfold parseNumber
  rw [parseUnsigned_decimal]

theorem isFileSafeChar_clean {char : Char} (fileSafe : isFileSafeChar char) :
    isWhitespace char = false ∧ char ≠ ',' := by
  have code : (65 ≤ char.toNat ∧ char.toNat ≤ 90) ∨ (97 ≤ char.toNat ∧ char.toNat ≤ 122) ∨
      (48 ≤ char.toNat ∧ char.toNat ≤ 57) ∨
      char.toNat = 45 ∨ char.toNat = 95 ∨ char.toNat = 46 := by
    simp only [isFileSafeChar, Char.isAlphanum, Char.isAlpha, Char.isUpper,
      Char.isLower, Char.isDigit, Bool.or_eq_true, Bool.and_eq_true,
      decide_eq_true_eq, beq_iff_eq, ge_iff_le, or_assoc] at fileSafe
    rcases fileSafe with upper | lower | digit | rfl | rfl | rfl
    · exact .inl upper
    · exact .inr (.inl lower)
    · exact .inr (.inr (.inl digit))
    · decide
    · decide
    · decide
  refine ⟨?_, ?_⟩
  · simp only [isWhitespace, Bool.or_eq_false_iff, decide_eq_false_iff_not,
      beq_eq_false_iff_ne, ne_eq]
    omega
  · rintro rfl
    revert code
    decide

theorem memberIsFileSafe_all {member : Text} (fileSafe : memberIsFileSafe member) :
    member ≠ [] ∧ ∀ char ∈ member, isFileSafeChar char := by
  unfold memberIsFileSafe at fileSafe
  split at fileSafe
  · cases fileSafe
  case isFalse bounds =>
    split at fileSafe
    · cases fileSafe
    case isFalse chars =>
      simp only [Bool.not_eq_true', Bool.not_eq_false, all_eq_true] at chars
      refine ⟨?_, chars⟩
      rintro rfl
      simp at bounds

theorem isWord_of_memberIsFileSafe {member : Text} (fileSafe : memberIsFileSafe member) :
    Text.IsWord member := by
  obtain ⟨nonempty, chars⟩ := memberIsFileSafe_all fileSafe
  refine ⟨nonempty, ?_⟩
  unfold hasWhitespace
  rw [any_eq_false]
  intro char listed
  rw [(isFileSafeChar_clean (chars char listed)).1]
  exact Bool.false_ne_true

theorem comma_not_mem_of_memberIsFileSafe {member : Text}
    (fileSafe : memberIsFileSafe member) : ',' ∉ member := by
  intro comma
  exact (isFileSafeChar_clean ((memberIsFileSafe_all fileSafe).2 ',' comma)).2 rfl

namespace JournalRecord

theorem hasWhitespace_writerText (writer : WriterObservation) :
    (writerText writer).hasWhitespace = false := by
  cases writer with
  | reachable epoch =>
    have key : Text.IsWord "reachable:".toList := by decide
    exact (isWord_append key (isWord_decimal epoch.val).2).2
  | unreachable => decide

theorem hasWhitespace_fenceText (fence : Option SiteFenceState) :
    (fenceText fence).hasWhitespace = false := by
  rcases fence with _ | ⟨enabled, draining⟩
  · rfl
  · cases enabled <;> cases draining <;> decide

theorem hasWhitespace_optionalFlagText (value : Option Bool) :
    (optionalFlagText value).hasWhitespace = false := by
  rcases value with _ | value
  · rfl
  · cases value <;> decide

theorem isWord_of_mem_words (record : JournalRecord)
    (fileSafe : memberIsFileSafe record.report.memberId) :
    ∀ word ∈ record.words, Text.IsWord word := by
  have evidence : ∀ word ∈ evidenceWords record.report, Text.IsWord word := by
    unfold evidenceWords
    split
    · simp only [forall_mem_cons, not_mem_nil, false_imp_iff, implies_true, and_true]
      exact ⟨isWord_append (by decide) (hasWhitespace_fenceText _),
        isWord_append (by decide) (hasWhitespace_optionalFlagText _),
        isWord_append (by decide) (hasWhitespace_optionalFlagText _),
        isWord_append (by decide) (hasWhitespace_optionalFlagText _)⟩
    · rintro _ ⟨⟩
  unfold words
  rw [forall_mem_append]
  refine ⟨?_, evidence⟩
  simp only [forall_mem_cons, not_mem_nil, false_imp_iff, implies_true, and_true]
  exact ⟨by decide, isWord_append (by decide) (isWord_of_memberIsFileSafe fileSafe).2,
    isWord_append (by decide) (isWord_decimal _).2,
    isWord_append (by decide) (isWord_decimal _).2,
    isWord_append (by decide) (hasWhitespace_writerText _)⟩

@[simp] theorem decodeWriter_writerText (writer : WriterObservation) :
    decodeWriter (writerText writer) = .ok writer := by
  cases writer with
  | reachable epoch =>
    have different : ¬ "reachable:".toList ++ decimal epoch.val = "unreachable".toList := by
      intro equal
      have heads := congrArg head? equal
      simp at heads
    unfold decodeWriter writerText
    rw [if_neg different, dropPrefix_append]
    simp only [parseNumber_decimal]
    rfl
  | unreachable => rfl

@[simp] theorem decodeFence_fenceText (fence : Option SiteFenceState) :
    decodeFence (some (fenceText fence)) = .ok fence := by
  rcases fence with _ | ⟨enabled, draining⟩
  · rfl
  · cases enabled <;> cases draining <;> rfl

@[simp] theorem decodeFlag_optionalFlagText (value : Option Bool) :
    decodeFlag (some (optionalFlagText value)) = .ok value := by
  rcases value with _ | value
  · rfl
  · cases value <;> rfl

theorem encode_eq_ok_iff (record : JournalRecord) (line : Text) : record.encode = .ok line ↔
      memberIsFileSafe record.report.memberId ∧ line = unwords record.words := by
  unfold encode
  cases fileSafe : memberIsFileSafe record.report.memberId with
  | false => simp
  | true => simp [eq_comm]

section

variable (record : JournalRecord) (fileSafe : memberIsFileSafe record.report.memberId = true)
  (fits : record.sequence < 2 ^ 64)

include record fileSafe fits

/-- The fields of a record are read back, whether or not they carry
evidence. -/
theorem decodeFields_words : decodeFields record.words.tail = .ok record := by
  obtain ⟨sequence, report⟩ := record
  have numbered : ∀ failure, parseNumber failure (decimal sequence) =
      .ok (⟨sequence, fits⟩ : U64) :=
    fun failure => parseNumber_decimal failure ⟨sequence, fits⟩
  unfold decodeFields words
  simp only [cons_append, nil_append, tail_cons,
    expectField_append, bind, Except.bind, fileSafe, numbered,
    parseNumber_decimal, decodeWriter_writerText, Bool.not_true,
    Bool.false_eq_true, if_false]
  cases carried : carriesEvidence report with
  | true =>
    rw [evidenceWords, if_pos carried]
    simp only [optionalField_append, decodeFence_fenceText,
      decodeFlag_optionalFlagText, ne_eq, not_true, if_false]
  | false =>
    rw [evidenceWords, carried]
    simp only [carriesEvidence, Bool.or_eq_false_iff,
      Option.isSome_eq_false_iff, Option.isNone_iff_eq_none] at carried
    obtain ⟨⟨⟨noFence, noStop⟩, noStandby⟩, noFormer⟩ := carried
    obtain ⟨memberId, observedAtMs, writer, fence, stop, standby, former⟩ := report
    cases noFence
    cases noStop
    cases noStandby
    cases noFormer
    rfl

/-- The line of an encoded record has no newline, and decodes to the record. -/
theorem decode_unwords :
    '\n' ∉ unwords record.words ∧ decode (unwords record.words) = .ok record := by
  have allWords := isWord_of_mem_words record fileSafe
  refine ⟨newline_not_mem_unwords _ allWords, ?_⟩
  have fields : record.words = "v1".toList :: record.words.tail := rfl
  unfold decode
  rw [splitWhitespace_unwords _ allWords, fields]
  exact decodeFields_words record fileSafe fits

end

end JournalRecord

theorem unlines_singleton (line : Text) : unlines [line] = line ++ ['\n'] := by
  simp [unlines]

theorem stripNewline_unlines (line : Text) : stripNewline (unlines [line]) = some line := by
  simp [stripNewline, unlines_singleton]

theorem decodeDigest_hexadecimal (corrupt : Text → StoreError) (name : Text) (digest : U64) :
    decodeDigest corrupt name (hexadecimal 16 digest.val) = .ok digest := by
  have read := readHexadecimal_hexadecimal 16 digest.val digest.isLt
  unfold decodeDigest
  simp [length_hexadecimal, all_isHexDigit_hexadecimal, read]

namespace Checkpoint

theorem isWord_of_mem_words (checkpoint : Checkpoint)
    (fileSafe : memberIsFileSafe checkpoint.memberId) :
    ∀ word ∈ checkpoint.words, Text.IsWord word := by
  unfold words
  simp only [forall_mem_cons, not_mem_nil, false_imp_iff, implies_true, and_true]
  exact ⟨by decide, isWord_append (by decide) (isWord_of_memberIsFileSafe fileSafe).2,
    isWord_append (by decide) (isWord_decimal _).2,
    isWord_append (by decide) (isWord_decimal _).2,
    isWord_append (by decide) (hasWhitespace_hexadecimal _ _),
    isWord_append (by decide) (hasWhitespace_hexadecimal _ _)⟩

theorem decodeCheckpoint_unlines (checkpoint : Checkpoint) (member : Text)
    (fileSafe : memberIsFileSafe checkpoint.memberId)
    (positive : checkpoint.lastCompactedSequence ≠ 0)
    (fits : checkpoint.lastCompactedSequence < 2 ^ 64) :
    decodeCheckpoint member (unlines [unwords checkpoint.words]) = .ok checkpoint := by
  have allWords := isWord_of_mem_words checkpoint fileSafe
  have oneLine : (unwords checkpoint.words).contains '\n' = false := by
    rw [contains_eq_mem, decide_eq_false_iff_not]
    exact newline_not_mem_unwords _ allWords
  obtain ⟨memberId, last, newest, prefixDigest, headDigest⟩ := checkpoint
  have numbered : ∀ failure, parseNumber failure (decimal last) = .ok (⟨last, fits⟩ : U64) :=
    fun failure => parseNumber_decimal failure ⟨last, fits⟩
  have nonzero : ¬ (⟨last, fits⟩ : U64) = 0 := by
    intro zero
    exact positive (congrArg Fin.val zero)
  unfold decodeCheckpoint
  rw [stripNewline_unlines]
  simp only [oneLine, Bool.false_eq_true, if_false]
  rw [splitWhitespace_unwords _ allWords]
  unfold words decodeCheckpointFields
  simp only [expectField_append, bind, Except.bind, fileSafe, numbered, nonzero,
    parseNumber_decimal, decodeDigest_hexadecimal, Bool.not_true,
    Bool.false_eq_true, if_false, if_true, ne_eq, not_true]

end Checkpoint

theorem checkMembers_eq_ok_iff (earlier members : List Text) :
    checkMembers earlier members = .ok () ↔ (∀ member ∈ members, memberIsFileSafe member) ∧
        (∀ member ∈ members, member ∉ earlier) ∧ members.Nodup := by
  induction members generalizing earlier with
  | nil => simp [checkMembers]
  | cons member members ih =>
    unfold checkMembers
    cases fileSafe : memberIsFileSafe member with
    | false => simp [fileSafe]
    | true =>
      by_cases seen : member ∈ earlier
      · simp [seen]
      · simp only [Bool.not_true, Bool.false_eq_true, if_false, seen,
          contains_eq_mem, decide_false, ih,
          forall_mem_cons, fileSafe, mem_append,
          mem_singleton, not_or, nodup_cons]
        constructor
        · rintro ⟨allSafe, fresh, distinct⟩
          refine ⟨⟨trivial, allSafe⟩, ⟨not_false,
            fun other listed => (fresh other listed).1⟩, ?_, distinct⟩
          intro listed
          exact (fresh member listed).2 rfl
        · rintro ⟨⟨_, allSafe⟩, ⟨_, fresh⟩, absent, distinct⟩
          refine ⟨allSafe, ?_, distinct⟩
          intro other listed
          refine ⟨fresh other listed, ?_⟩
          rintro rfl
          exact absent listed

/-- A membership is valid if it is three distinct safe identifiers. -/
theorem validateMembers_eq_ok_iff : validateMembers members = .ok () ↔
      members.length = requiredMembers ∧ (∀ member ∈ members, memberIsFileSafe member) ∧
        members.Nodup := by
  unfold validateMembers
  by_cases count : members.length = requiredMembers
  · simp [count, checkMembers_eq_ok_iff]
  · simp [count]

theorem sameMembership_iff (onDisk configured : List Text) :
    sameMembership onDisk configured ↔ onDisk.Perm configured :=
  isPerm_iff

/-- Validity does not depend on the order of the members. -/
theorem validateMembers_perm {members others : List Text} (valid : validateMembers members = .ok ())
    (permuted : others.Perm members) : validateMembers others = .ok () := by
  rw [validateMembers_eq_ok_iff] at valid ⊢
  obtain ⟨count, allSafe, distinct⟩ := valid
  exact ⟨permuted.length_eq.trans count,
    fun member listed => allSafe member (permuted.mem_iff.mp listed),
    permuted.nodup_iff.mpr distinct⟩

/-- The text of a membership record. -/
def membershipText : Text := unlines [unwords
    ["v1".toList, "members=".toList ++ intercalate [','] members]]

theorem encodeMembership_valid {members : List Text} (valid : validateMembers members = .ok ()) :
    encodeMembership members = .ok (membershipText members) := by
  unfold encodeMembership
  rw [valid]
  rfl

theorem decodeMembership_membershipText {members : List Text}
    (valid : validateMembers members = .ok ()) :
    decodeMembership (membershipText members) = .ok members := by
  obtain ⟨count, allSafe, _⟩ := (validateMembers_eq_ok_iff members).mp valid
  have nonempty : members ≠ [] := by
    rintro rfl
    cases count
  have allWords : ∀ word ∈ ["v1".toList, "members=".toList ++ intercalate [','] members],
      Text.IsWord word := by
    simp only [forall_mem_cons, not_mem_nil, false_imp_iff, implies_true, and_true]
    refine ⟨by decide, isWord_append (by decide) ?_⟩
    refine hasWhitespace_intercalate rfl members ?_
    exact fun member listed =>
      (isWord_of_memberIsFileSafe (allSafe member listed)).2
  have oneLine : (unwords ["v1".toList,
      "members=".toList ++ intercalate [','] members]).contains '\n' =
        false := by
    rw [contains_eq_mem, decide_eq_false_iff_not]
    exact newline_not_mem_unwords _ allWords
  have split : (intercalate [','] members).splitOn ',' = members :=
    splitOn_intercalate ',' (fun member listed =>
        comma_not_mem_of_memberIsFileSafe (allSafe member listed)) nonempty
  unfold decodeMembership membershipText
  rw [stripNewline_unlines]
  simp only [oneLine, Bool.false_eq_true, if_false]
  rw [splitWhitespace_unwords _ allWords]
  simp only [expectField_append, bind, Except.bind, split, valid, ne_eq, not_true, if_false]

end Zrotext.Failover
