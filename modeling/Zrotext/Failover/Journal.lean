import Zrotext.Failover.Decision
import Zrotext.Foundation.Fallible

/-!
# The durable controller journal

The part of the controller's state that survives a restart, and its single-line
encoding.  A journal of a valid configuration whose promotion epoch, if it has
one, is positive is read back exactly as it was written.
-/

namespace Zrotext.Failover

open Foundation List Text Fallible

/-- The durable controller journal. -/
structure ControllerJournal where
  members : List Text
  (writerSiteId standbySiteId : Text)
  maxEpochSeen : U64
  phase : RestorablePhase
deriving DecidableEq

/-- Errors of the journal codec. -/
inductive JournalEncodingError
  | malformed
  | ambiguousMember (member : Text)
  | ambiguousSite
deriving DecidableEq

namespace ControllerJournal

/-- A member identifier that cannot be encoded. -/
def isAmbiguousMember (member : Text) : Bool :=
  member.isEmpty || member.contains ',' || member.hasWhitespace

/-- A boolean as the journal writes it. -/
def boolText (value : Bool) : Text :=
  if value then "true".toList else "false".toList

/-- The words that follow the phase label. -/
def phaseWords : RestorablePhase → List Text
  | .steady => []
  | .fencingOldWriter => []
  | .promoting newEpoch => ["new_epoch=".toList ++ decimal newEpoch.val]
  | .promoted newEpoch reconciled rejoinEmitted => [
      "new_epoch=".toList ++ decimal newEpoch.val,
      "reconciled=".toList ++ boolText reconciled,
      "rejoin=".toList ++ boolText rejoinEmitted]

variable (journal : ControllerJournal)

/-- The words of an encoded journal. -/
def words : List Text := ["v1".toList,
    "members=".toList ++ intercalate [','] journal.members,
    "writer=".toList ++ journal.writerSiteId, "standby=".toList ++ journal.standbySiteId,
    "max_epoch=".toList ++ decimal journal.maxEpochSeen.val,
    "phase=".toList ++ journal.phase.label] ++
  phaseWords journal.phase

/-- Encode the journal into its stable single-line format. -/
def encode : Except JournalEncodingError Text :=
  match journal.members.find? isAmbiguousMember with
  | some member => .error (.ambiguousMember member)
  | none =>
    if journal.writerSiteId.isEmpty || journal.standbySiteId.isEmpty ||
        journal.writerSiteId.hasWhitespace ||
        journal.standbySiteId.hasWhitespace then
      .error .ambiguousSite
    else
      .ok (unwords journal.words)

/-- The value of the next field, which must carry the key. -/
def expect (key : Text) : List Text → Except JournalEncodingError (Text × List Text)
  | [] => .error .malformed
  | field :: fields =>
    match field.dropPrefix? key with
    | none => .error .malformed
    | some value => .ok (value, fields)

/-- A 64-bit number. -/
def parseU64 (text : Text) : Except JournalEncodingError U64 :=
  match parseUnsigned (2 ^ 64) text with
  | none => .error .malformed
  | some value => .ok value

/-- A boolean. -/
def parseBool (text : Text) : Except JournalEncodingError Bool :=
  if text = "true".toList then .ok true
  else if text = "false".toList then .ok false
  else .error .malformed

/-- The phase named by a label, read from the fields that follow it. -/
def decodePhase (label : Text) (fields : List Text) : Except JournalEncodingError RestorablePhase :=
  if label = "steady".toList ∧ fields = [] then .ok .steady
  else if label = "fencing".toList ∧ fields = [] then .ok .fencingOldWriter
  else if label = "promoting".toList then do
    let (newEpoch, fields) ← expect "new_epoch=".toList fields
    let newEpoch ← parseU64 newEpoch
    if newEpoch = 0 ∨ fields ≠ [] then .error .malformed
    else .ok (.promoting newEpoch)
  else if label = "promoted".toList then do
    let (newEpoch, fields) ← expect "new_epoch=".toList fields
    let newEpoch ← parseU64 newEpoch
    let (reconciled, fields) ← expect "reconciled=".toList fields
    let reconciled ← parseBool reconciled
    let (rejoinEmitted, fields) ← expect "rejoin=".toList fields
    let rejoinEmitted ← parseBool rejoinEmitted
    if newEpoch = 0 ∨ fields ≠ [] then .error .malformed
    else .ok (.promoted newEpoch reconciled rejoinEmitted)
  else .error .malformed

/-- The journal in a list of fields. -/
def decodeFields (fields : List Text) : Except JournalEncodingError ControllerJournal := do
  let (members, fields) ← expect "members=".toList fields
  let members := members.splitOn ','
  if members.isEmpty || members.any isEmpty then .error .malformed
  else do
    let (writerSiteId, fields) ← expect "writer=".toList fields
    let (standbySiteId, fields) ← expect "standby=".toList fields
    if writerSiteId.isEmpty || standbySiteId.isEmpty then .error .malformed
    else do
      let (maxEpochSeen, fields) ← expect "max_epoch=".toList fields
      let maxEpochSeen ← parseU64 maxEpochSeen
      let (label, fields) ← expect "phase=".toList fields
      let phase ← decodePhase label fields
      .ok { members, writerSiteId, standbySiteId, maxEpochSeen, phase }

/-- Parse a journal line. -/
def decode (line : Text) : Except JournalEncodingError ControllerJournal :=
  match line.splitWhitespace with
  | [] => .error .malformed
  | version :: fields =>
    if version = "v1".toList then decodeFields fields
    else .error .malformed

/-- The journal was written for this configuration. -/
def BelongsTo (config : FailoverConfig) : Prop :=
  journal.members = config.members ∧ journal.writerSiteId = config.writerSiteId ∧
    journal.standbySiteId = config.standbySiteId

instance (journal : ControllerJournal) (config : FailoverConfig) :
    Decidable (journal.BelongsTo config) :=
  inferInstanceAs (Decidable (_ ∧ _))

end ControllerJournal

/-- The promotion epoch of a phase, if it has one, is positive. -/
def RestorablePhase.EpochPositive : RestorablePhase → Prop
  | .steady => True
  | .fencingOldWriter => True
  | .promoting newEpoch => newEpoch ≠ 0
  | .promoted newEpoch _ _ => newEpoch ≠ 0

namespace ControllerJournal

@[simp] theorem expect_append (key value : Text) (fields : List Text) :
    expect key ((key ++ value) :: fields) = .ok (value, fields) := by
  simp only [expect, dropPrefix_append]

@[simp] theorem parseU64_decimal (value : U64) : parseU64 (decimal value.val) = .ok value := by
  unfold parseU64
  rw [parseUnsigned_decimal]

@[simp] theorem parseBool_boolText (value : Bool) : parseBool (boolText value) = .ok value := by
  cases value <;> rfl

theorem decodePhase_phaseWords (phase : RestorablePhase) (positive : phase.EpochPositive) :
    decodePhase phase.label (phaseWords phase) = .ok phase := by
  cases phase with
  | steady | fencingOldWriter => rfl
  | promoting newEpoch =>
    have known : newEpoch ≠ 0 := positive
    have steady : ¬ ("promoting".toList = "steady".toList) := by decide
    have fencing : ¬ ("promoting".toList = "fencing".toList) := by decide
    unfold decodePhase RestorablePhase.label phaseWords
    rw [if_neg fun both => steady both.1, if_neg fun both => fencing both.1,
      if_pos rfl, expect_append]
    simp only [bind, Except.bind]
    rw [parseU64_decimal]
    simp only [known, ne_eq, not_true, or_self, if_false]
  | promoted newEpoch reconciled rejoinEmitted =>
    have known : newEpoch ≠ 0 := positive
    have steady : ¬ ("promoted".toList = "steady".toList) := by decide
    have fencing : ¬ ("promoted".toList = "fencing".toList) := by decide
    have promoting : ¬ ("promoted".toList = "promoting".toList) := by decide
    unfold decodePhase RestorablePhase.label phaseWords
    rw [if_neg fun both => steady both.1, if_neg fun both => fencing both.1,
      if_neg promoting, if_pos rfl, expect_append]
    simp only [bind, Except.bind]
    rw [parseU64_decimal]
    simp only [expect_append]
    rw [parseBool_boolText, parseBool_boolText]
    simp only [known, ne_eq, not_true, or_self, if_false]

variable {journal : ControllerJournal}

/-- What the encoder accepts. -/
theorem encode_eq_ok (encoded : journal.encode = .ok line) : line = unwords journal.words ∧
      (∀ member ∈ journal.members, isAmbiguousMember member = false) ∧
      Text.IsWord journal.writerSiteId ∧ Text.IsWord journal.standbySiteId := by
  unfold encode at encoded
  split at encoded
  · cases encoded
  case h_2 unambiguous =>
    split at encoded
    · cases encoded
    case isFalse sites =>
      rw [find?_eq_none] at unambiguous
      simp only [Bool.or_eq_true, not_or, Bool.not_eq_true, isEmpty_eq_false_iff] at sites
      obtain ⟨⟨⟨writerNamed, standbyNamed⟩, writerClean⟩, standbyClean⟩ := sites
      refine ⟨by cases encoded; rfl, ?_, ⟨writerNamed, writerClean⟩, ⟨standbyNamed, standbyClean⟩⟩
      intro member listed
      exact Bool.eq_false_iff.mpr (unambiguous member listed)

theorem encode_of_unambiguous
    (unambiguous : ∀ member ∈ journal.members, isAmbiguousMember member = false)
    (writer : Text.IsWord journal.writerSiteId) (standby : Text.IsWord journal.standbySiteId) :
    journal.encode = .ok (unwords journal.words) := by
  have found : journal.members.find? isAmbiguousMember = none :=
    find?_eq_none.mpr fun member listed => Bool.eq_false_iff.mp (unambiguous member listed)
  unfold encode
  simp only [found, isEmpty_eq_false_iff.mpr writer.1, isEmpty_eq_false_iff.mpr standby.1, writer.2,
    standby.2, Bool.or_self, Bool.false_eq_true, if_false]

/-- Joining members with commas adds no white space. -/
theorem hasWhitespace_members (members : List Text)
    (unambiguous : ∀ member ∈ members, isAmbiguousMember member = false) :
    hasWhitespace (intercalate [','] members) = false := by
  refine hasWhitespace_intercalate rfl members ?_
  intro member listed
  have plain := unambiguous member listed
  simp only [isAmbiguousMember, Bool.or_eq_false_iff] at plain
  exact plain.2

theorem isWord_of_mem_words (encoded : journal.encode = .ok line) :
    ∀ word ∈ journal.words, Text.IsWord word := by
  obtain ⟨_, unambiguous, writer, standby⟩ := encode_eq_ok encoded
  have keyed : ∀ key value : Text, key.IsWord → value.hasWhitespace = false →
      Text.IsWord (key ++ value) := fun _ _ => isWord_append
  have label : journal.phase.label.hasWhitespace = false := by
    cases journal.phase <;> rfl
  have phase : ∀ word ∈ phaseWords journal.phase, Text.IsWord word := by
    cases journal.phase with
    | steady | fencingOldWriter => simp [phaseWords]
    | promoting newEpoch =>
      simp only [phaseWords, forall_mem_singleton]
      exact keyed _ _ (by decide) (isWord_decimal _).2
    | promoted newEpoch reconciled rejoinEmitted =>
      simp only [phaseWords, forall_mem_cons, not_mem_nil, false_imp_iff, implies_true, and_true]
      refine ⟨keyed _ _ (by decide) (isWord_decimal _).2,
        keyed _ _ (by decide) ?_, keyed _ _ (by decide) ?_⟩
      · cases reconciled <;> decide
      · cases rejoinEmitted <;> decide
  unfold words
  rw [forall_mem_append]
  refine ⟨?_, phase⟩
  simp only [forall_mem_cons, not_mem_nil, false_imp_iff, implies_true, and_true]
  exact ⟨by decide, keyed _ _ (by decide) (hasWhitespace_members _ unambiguous),
    keyed _ _ (by decide) writer.2, keyed _ _ (by decide) standby.2,
    keyed _ _ (by decide) (isWord_decimal _).2,
    keyed _ _ (by decide) label⟩

/-- Members without commas are recovered from their joined text. -/
theorem splitOn_members (members : List Text) (nonempty : members ≠ [])
    (unambiguous : ∀ member ∈ members, isAmbiguousMember member = false) :
    (intercalate [','] members).splitOn ',' = members := by
  refine splitOn_intercalate ',' ?_ nonempty
  intro member listed comma
  have plain := unambiguous member listed
  simp only [isAmbiguousMember, Bool.or_eq_false_iff] at plain
  have contains : member.contains ',' := contains_iff_mem.mpr comma
  rw [contains] at plain
  cases plain.1.2

theorem decodeFields_words (journal : ControllerJournal) (nonempty : journal.members ≠ [])
    (unambiguous : ∀ member ∈ journal.members, isAmbiguousMember member = false)
    (writer : Text.IsWord journal.writerSiteId) (standby : Text.IsWord journal.standbySiteId)
    (positive : journal.phase.EpochPositive) : decodeFields journal.words.tail = .ok journal := by
  have named : journal.members.any isEmpty = false := by
    rw [any_eq_false]
    intro member listed empty
    have plain := unambiguous member listed
    simp only [isAmbiguousMember, empty, Bool.true_or] at plain
    cases plain
  have members : (journal.members.isEmpty || journal.members.any isEmpty) = false := by
    rw [named, Bool.or_false]
    exact isEmpty_eq_false_iff.mpr nonempty
  have sites : (journal.writerSiteId.isEmpty || journal.standbySiteId.isEmpty) = false := by
    rw [isEmpty_eq_false_iff.mpr writer.1, isEmpty_eq_false_iff.mpr standby.1]
    rfl
  unfold decodeFields words
  simp only [cons_append, nil_append, tail_cons, expect_append,
    bind, Except.bind, splitOn_members _ nonempty unambiguous, members, sites,
    Bool.false_eq_true, if_false]
  rw [parseU64_decimal]
  rw [decodePhase_phaseWords _ positive]

/-- A journal is read back exactly as it was written. -/
theorem decode_encode (encoded : journal.encode = .ok line) (nonempty : journal.members ≠ [])
    (positive : journal.phase.EpochPositive) : decode line = .ok journal := by
  obtain ⟨rfl, unambiguous, writer, standby⟩ := encode_eq_ok encoded
  unfold decode
  rw [splitWhitespace_unwords _ (isWord_of_mem_words encoded)]
  exact decodeFields_words journal nonempty unambiguous writer standby positive

theorem decodePhase_positive {phase : RestorablePhase}
    (decoded : decodePhase label fields = .ok phase) : phase.EpochPositive := by
  unfold decodePhase at decoded
  split at decoded
  · cases decoded
    trivial
  · split at decoded
    · cases decoded
      trivial
    · split at decoded
      · simp only [bind_eq_ok] at decoded
        obtain ⟨_, _, newEpoch, _, decoded⟩ := decoded
        split at decoded
        · cases decoded
        case isFalse valid =>
          cases decoded
          exact fun zero => valid (.inl zero)
      · split at decoded
        · simp only [bind_eq_ok] at decoded
          obtain ⟨_, _, newEpoch, _, _, _, _, _, _, _, _, _, decoded⟩ := decoded
          split at decoded
          · cases decoded
          case isFalse valid =>
            cases decoded
            exact fun zero => valid (.inl zero)
        · cases decoded

theorem expect_eq_ok (read : expect key fields = .ok (value, rest))
    (words : ∀ field ∈ fields, Text.IsWord field) :
    value.hasWhitespace = false ∧ ∀ field ∈ rest, Text.IsWord field := by
  cases fields with
  | nil => cases read
  | cons field fields =>
    obtain ⟨first, others⟩ := forall_mem_cons.mp words
    rw [expect] at read
    split at read
    · cases read
    next found =>
      cases read
      obtain ⟨start, rfl, _⟩ := dropPrefix?_eq_some_iff.mp found
      rw [Text.IsWord, hasWhitespace_append, Bool.or_eq_false_iff] at first
      exact ⟨first.2.2, others⟩

/-- What the decoder accepts, the encoder accepts. -/
theorem decode_eq_ok (decoded : decode line = .ok journal) : journal.members ≠ [] ∧
      (∀ member ∈ journal.members, isAmbiguousMember member = false) ∧
      Text.IsWord journal.writerSiteId ∧ Text.IsWord journal.standbySiteId ∧
      journal.phase.EpochPositive := by
  unfold decode at decoded
  split at decoded
  · cases decoded
  next version fields split =>
    have words : ∀ field ∈ fields, Text.IsWord field := fun field listed =>
      isWord_of_mem_splitWhitespace (split ▸ mem_cons_of_mem version listed)
    split at decoded
    · obtain ⟨⟨members, afterMembers⟩, readMembers, decoded⟩ := bind_eq_ok.mp decoded
      obtain ⟨cleanMembers, words⟩ := expect_eq_ok readMembers words
      simp only at decoded
      split at decoded
      · cases decoded
      next named =>
        simp only [bind_eq_ok] at decoded
        obtain ⟨⟨writer, afterWriter⟩, readWriter, ⟨standby, _⟩, readStandby, decoded⟩ := decoded
        obtain ⟨cleanWriter, words⟩ := expect_eq_ok readWriter words
        obtain ⟨cleanStandby, _⟩ := expect_eq_ok readStandby words
        split at decoded
        · cases decoded
        next sites =>
          simp only [bind_eq_ok] at decoded
          obtain ⟨⟨_, _⟩, _, _, _, ⟨_, _⟩, _, phase, read, ⟨⟩⟩ := decoded
          simp only [Bool.or_eq_true, not_or, Bool.not_eq_true, isEmpty_eq_false_iff,
            any_eq_false] at named sites
          refine ⟨named.1, ?_, ⟨sites.1, cleanWriter⟩, ⟨sites.2, cleanStandby⟩,
            decodePhase_positive read⟩
          intro member listed
          have nonempty : member.isEmpty = false := isEmpty_eq_false_iff.mpr (named.2 member listed)
          have comma : member.contains ',' = false := by
            rw [contains_eq_mem, decide_eq_false_iff_not]
            intro inside
            exact absurd (mem_of_mem_splitOnP listed inside).2 (by decide)
          have clean : member.hasWhitespace = false := any_eq_false.mpr fun char inside =>
            any_eq_false.mp cleanMembers char (mem_of_mem_splitOnP listed inside).1
          rw [isAmbiguousMember, nonempty, comma, clean]
          rfl
    · cases decoded

/-- An encoded journal decodes to itself, and saving a decoded journal again
does not change it. -/
theorem journal_codec_round_trip :
    (∀ (journal : ControllerJournal) line, journal.encode = .ok line → journal.members ≠ [] →
      journal.phase.EpochPositive → decode line = .ok journal) ∧
    ∀ line journal, decode line = .ok journal →
      ∃ saved, journal.encode = .ok saved ∧ decode saved = .ok journal := by
  refine ⟨fun journal line encoded nonempty positive => decode_encode encoded nonempty positive, ?_⟩
  intro line journal decoded
  obtain ⟨nonempty, unambiguous, writer, standby, positive⟩ := decode_eq_ok decoded
  have encoded := encode_of_unambiguous unambiguous writer standby
  exact ⟨_, encoded, decode_encode encoded nonempty positive⟩

/-- The journal of a promoted standby. -/
theorem journal_codec_round_trip_promoted :
    let journal : ControllerJournal :=
      ⟨["a".toList, "b".toList], "west".toList, "east".toList, 7, .promoted 8 true false⟩
    ∃ line, journal.encode = .ok line ∧ decode line = .ok journal := by
  intro journal
  have positive : (8 : U64) ≠ 0 := by decide
  exact ⟨_, rfl, journal_codec_round_trip.1 journal _ rfl (by decide) positive⟩

end ControllerJournal
end Zrotext.Failover
