import Zrotext.Foundation.Fallible
import Zrotext.Foundation.Keyed
import Zrotext.Phone.Journal

/-!
# The manifest journal of the phone

For every election the phone keeps a head and the entries that led to it.  A
batch of entries is checked against the head and each entry against its
neighbour only; the history of an election is nevertheless one chain.
-/

namespace Zrotext.Phone.ManifestJournal

open List Foundation Fallible

/-- The canonical text of a UUID other than zero. -/
def isUuidText (text : Text) : Bool :=
  text.map (fun char =>
    if '0' ≤ char ∧ char ≤ '9' ∨ 'a' ≤ char ∧ char ≤ 'f' then '0' else char) ==
    "00000000-0000-0000-0000-000000000000".toList &&
  text.any fun char => char != '-' && char != '0'

inductive HeadState
  | progress | prepared | installed
deriving DecidableEq

structure Head where
  (electionId originalIdentity : Text)
  (originalVersion version : Int)
  (digest ancestry : Text)
  (acceptedMs tipVersion : Int)
  (tipDigest tipAncestry : Text)
  (tipAcceptedMs comparedMs : Int)
  state : HeadState
  manifestSha256 : Text
  (ciphertext nonce : List UInt8)
deriving DecidableEq

structure EntryRecord where
  electionId : Text
  version : Int
  (openingId priorAncestry ancestry : Text)
  acceptedMs : Int
  (ciphertext nonce : List UInt8)
deriving DecidableEq

structure Readback where
  (challengeId electionId : Text)
  version : Int
  (digest ancestry deviceSessionDigest : Text)
  comparedMs : Int
deriving DecidableEq

/-- The checks of `requireShape`. -/
def Head.hasShape (head : Head) : Bool :=
  isUuidText head.electionId &&
  [head.originalIdentity, head.digest, head.ancestry, head.tipDigest, head.tipAncestry,
    head.manifestSha256].all isDigestText &&
  decide (0 < head.originalVersion ∧ head.originalVersion ≤ head.version ∧
    head.version ≤ head.tipVersion ∧ 0 < head.acceptedMs ∧ head.acceptedMs ≤ head.tipAcceptedMs ∧
    head.tipAcceptedMs ≤ head.comparedMs ∧ 16 ≤ head.ciphertext.length ∧
    head.ciphertext.length ≤ 14000 ∧ head.nonce.length = 12) &&
  decide (head.state = .progress ↔ head.version < head.tipVersion) &&
  decide (head.version = head.tipVersion → head.digest = head.tipDigest ∧
    head.ancestry = head.tipAncestry ∧ head.acceptedMs = head.tipAcceptedMs)

def EntryRecord.hasShape (row : EntryRecord) : Bool :=
  isUuidText row.electionId && isUuidText row.openingId &&
  decide (0 < row.version ∧ 0 < row.acceptedMs) && isDigestText row.priorAncestry &&
  isDigestText row.ancestry &&
  decide (16 ≤ row.ciphertext.length ∧ row.ciphertext.length ≤ 15000 ∧ row.nonce.length = 12)

def Readback.hasShape (receipt : Readback) : Bool :=
  isUuidText receipt.challengeId && isUuidText receipt.electionId &&
  decide (0 < receipt.version ∧ 0 < receipt.comparedMs) &&
  [receipt.digest, receipt.ancestry, receipt.deviceSessionDigest].all isDigestText

inductive Failure
  | illegalArgument | illegalState | constraint | notCurrent
deriving DecidableEq

/-- The tables of the journal. -/
structure Tables where
  heads : Keyed Head.electionId
  entries : List EntryRecord
  readbacks : List Readback

def Tables.empty : Tables := ⟨.empty, [], []⟩

/-- An insertion that aborts at a conflict. -/
def insertAborting {ρ : Type} (indexes : List (Table.Index ρ Unit)) (row : ρ) (rows : List ρ) :
    Except Failure (List ρ) :=
  (Table.insert indexes row rows).mapError fun _ => .constraint

def insertEntry : EntryRecord → List EntryRecord → Except Failure (List EntryRecord) :=
  insertAborting [.on () fun row => some (row.electionId, row.version),
    .on () fun row => some row.openingId]

def insertReadback : Readback → List Readback → Except Failure (List Readback) :=
  insertAborting [.on () fun row => some row.challengeId]

/-- What a new head keeps of the old one. -/
def Head.follows (next old : Head) : Bool :=
  old.hasShape &&
  decide (next.originalIdentity = old.originalIdentity ∧
    next.originalVersion = old.originalVersion ∧ old.version ≤ next.version ∧
    old.tipVersion ≤ next.tipVersion ∧ old.comparedMs ≤ next.comparedMs ∧
    old.acceptedMs ≤ next.acceptedMs) &&
  decide (next.tipVersion = old.tipVersion → next.tipDigest = old.tipDigest ∧
    next.tipAncestry = old.tipAncestry ∧ next.tipAcceptedMs = old.tipAcceptedMs) &&
  decide (next.version = old.version → next.digest = old.digest ∧ next.ancestry = old.ancestry ∧
    next.acceptedMs = old.acceptedMs ∧ next.manifestSha256 = old.manifestSha256)

/-- How far a batch has come: the version and, unless nothing came before, the
ancestry of the last entry, and the table. -/
structure Cursor where
  version : Int
  ancestry : Option Text
  entries : List EntryRecord

/-- One turn of the loop of `append`. -/
def appendRow (electionId : Text) (cursor : Cursor) (row : EntryRecord) :
    Except Failure Cursor := do
  require .illegalArgument (row.hasShape && decide (cursor.version < 2 ^ 63 - 1 ∧
    row.electionId = electionId ∧ row.version = cursor.version + 1))
  require .illegalArgument (cursor.ancestry.all (row.priorAncestry == ·))
  let entries ← insertEntry row cursor.entries
  return ⟨row.version, some row.ancestry, entries⟩

/-- Append a batch of entries and move the head.  The callback is asked before
and after. -/
def append (old : Option Head) (next : Head) (rows : List EntryRecord)
    (ramCurrent : Bool × Bool) (tables : Tables) : Except Failure Tables := do
  require .notCurrent ramCurrent.1
  require .illegalArgument (next.hasShape && next.state != .installed && rows.length ≤ 8)
  require .illegalState (tables.heads.lookup next.electionId == old)
  require .illegalArgument (old.all next.follows)
  let cursor ← rows.foldlM (appendRow next.electionId)
    ⟨(old.map Head.version).getD next.originalVersion, old.map Head.ancestry, tables.entries⟩
  require .illegalArgument (cursor.version == next.version &&
    cursor.ancestry.all (· == next.ancestry))
  require .notCurrent ramCurrent.2
  return { tables with heads := tables.heads.put next, entries := cursor.entries }

/-- Record that the head was read back, and mark it as installed. -/
def readback (old next : Head) (receipt : Readback) (ramCurrent : Bool × Bool)
    (tables : Tables) : Except Failure Tables := do
  require .notCurrent ramCurrent.1
  require .illegalArgument (old.hasShape && next.hasShape && receipt.hasShape)
  require .illegalState (tables.heads.lookup old.electionId == some old)
  require .illegalArgument (old.state != .progress && next.state == .installed &&
    { next with state := old.state, ciphertext := old.ciphertext, nonce := old.nonce } == old &&
    decide (receipt.electionId = old.electionId ∧ receipt.version = old.version ∧
      receipt.digest = old.digest ∧ receipt.ancestry = old.ancestry ∧
      old.comparedMs ≤ receipt.comparedMs))
  let readbacks ← insertReadback receipt tables.readbacks
  require .notCurrent ramCurrent.2
  return { tables with heads := tables.heads.put next, readbacks }

inductive Call
  | append (old : Option Head) (next : Head) (rows : List EntryRecord) (ramCurrent : Bool × Bool)
  | readback (old next : Head) (receipt : Readback) (ramCurrent : Bool × Bool)

def Call.perform : Call → Tables → Except Failure Tables
  | append old next rows ramCurrent => ManifestJournal.append old next rows ramCurrent
  | readback old next receipt ramCurrent =>
    ManifestJournal.readback old next receipt ramCurrent

variable (tables : Tables)

/-- A call is one transaction: it leaves nothing behind if it fails. -/
def Tables.transact (call : Call) : Tables :=
  (call.perform tables).toOption.getD tables

def Tables.run (calls : List Call) : Tables := calls.foldl transact tables

def Tables.entriesOf (election : Text) : List EntryRecord :=
  tables.entries.filter (·.electionId == election)

/-- Entries whose versions follow an original version without a gap up to a
version, each linked to the one before it and the last with an ancestry. -/
structure Reaches (original : Int) (entries : List EntryRecord) (version : Int)
    (ancestry : Option Text) : Prop where
  versions : ∃ count : Nat, version = original + count ∧
    entries.map (·.version) = (range count).map fun index : Nat => original + 1 + index
  linked : entries.IsChain fun earlier later => later.priorAncestry = earlier.ancestry
  last : ∀ entry ∈ entries.getLast?, ancestry = some entry.ancestry

/-- The entries of an election lead to its head. -/
def Leads (entries : List EntryRecord) : Option Head → Prop
  | none => entries = []
  | some head => Reaches head.originalVersion entries head.version (some head.ancestry)

theorem Reaches.concat (reaches : Reaches original entries version ancestry)
    (isNext : row.version = version + 1)
    (isLinked : ancestry.all (row.priorAncestry == ·)) :
    Reaches original (entries ++ [row]) row.version (some row.ancestry) := by
  obtain ⟨count, isVersion, areVersions⟩ := reaches.versions
  refine ⟨⟨count + 1, ?_, ?_⟩, ?_, ?_⟩
  · rw [isNext, isVersion]
    push_cast
    omega
  · rw [map_append, areVersions, range_succ, map_append, map_singleton, map_singleton, isNext,
      isVersion]
    congr 2
    omega
  · refine isChain_append.mpr ⟨reaches.linked, isChain_singleton _, ?_⟩
    rintro entry isLast _ ⟨⟩
    rw [reaches.last entry isLast] at isLinked
    exact beq_iff_eq.mp isLinked
  · intro entry isLast
    rw [getLast?_concat] at isLast
    cases isLast
    rfl

theorem appendRow_eq_ok {cursor after : Cursor}
    (isDone : appendRow election cursor row = .ok after) :
    (row.electionId = election ∧ row.version = cursor.version + 1 ∧
      cursor.ancestry.all (row.priorAncestry == ·)) ∧
      after = ⟨row.version, some row.ancestry, cursor.entries ++ [row]⟩ := by
  simp only [appendRow, insertEntry, insertAborting, bind_eq_ok, require_eq_ok, mapError_eq_ok,
    Table.insert_eq_ok_iff, Bool.and_eq_true, decide_eq_true_eq] at isDone
  obtain ⟨_, ⟨_, _, ofElection, isNext⟩, _, isLinked, entries, ⟨rfl, _⟩, same⟩ := isDone
  cases same
  exact ⟨⟨ofElection, isNext, isLinked⟩, rfl⟩

/-- What a batch writes, and how far it leads. -/
theorem appendRows_reaches {cursor after : Cursor}
    (isDone : rows.foldlM (appendRow election) cursor = .ok after)
    (reaches : Reaches original earlier cursor.version cursor.ancestry) :
    after.entries = cursor.entries ++ rows ∧ (∀ row ∈ rows, row.electionId = election) ∧
      Reaches original (earlier ++ rows) after.version after.ancestry := by
  induction rows generalizing cursor earlier with
  | nil =>
    cases isDone
    simpa using reaches
  | cons row rest ih =>
    rw [foldlM_cons, bind_eq_ok] at isDone
    obtain ⟨middle, isFirst, isRest⟩ := isDone
    obtain ⟨⟨ofElection, isNext, isLinked⟩, rfl⟩ := appendRow_eq_ok isFirst
    obtain ⟨isTable, ofElections, later⟩ := ih isRest (reaches.concat isNext isLinked)
    rw [append_assoc] at isTable later
    exact ⟨isTable, forall_mem_cons.mpr ⟨ofElection, ofElections⟩, later⟩

/-- What never decreases in a head. -/
def Head.marks (head : Head) : Int × Int × Int × Int :=
  (head.version, head.tipVersion, head.comparedMs, head.acceptedMs)

/-- An earlier head of the same election. -/
def Head.Precedes (old next : Head) : Prop :=
  old.marks ≤ next.marks ∧ next.originalIdentity = old.originalIdentity

/-- Every head stays and moves forward only. -/
def Tables.Advances (before after : Tables) : Prop :=
  ∀ election head, before.heads.lookup election = some head →
    ∃ later, after.heads.lookup election = some later ∧ head.Precedes later

theorem Tables.Advances.refl : tables.Advances tables :=
  fun _ head found => ⟨head, found, le_rfl, rfl⟩

theorem Tables.Advances.trans {after : Tables} (first : Tables.Advances before middle)
    (second : Tables.Advances middle after) : before.Advances after := by
  intro election head found
  obtain ⟨next, isNext, notBelow, sameIdentity⟩ := first election head found
  obtain ⟨last, isLast, stillNotBelow, stillSame⟩ := second election next isNext
  exact ⟨last, isLast, notBelow.trans stillNotBelow, stillSame.trans sameIdentity⟩

/-- The entries of every election lead to its head. -/
def Tables.Continuous : Prop :=
  ∀ election, Leads (tables.entriesOf election) (tables.heads.lookup election)

/-- What a committed call does: it moves one head and adds entries of its
election that lead there. -/
structure Moves (tables after : Tables) (next : Head) (rows : List EntryRecord) : Prop where
  heads : after.heads = tables.heads.put next
  entries : after.entries = tables.entries ++ rows
  ofElection : ∀ row ∈ rows, row.electionId = next.electionId
  precedes : ∀ old, tables.heads.lookup next.electionId = some old → old.Precedes next
  leads : Leads (tables.entriesOf next.electionId ++ rows) (some next)

section Steps

variable {tables after : Tables} {next : Head} (continuous : tables.Continuous)

theorem Head.precedes_of_follows {next old : Head} (follows : next.follows old) :
    old.Precedes next ∧ next.originalVersion = old.originalVersion := by
  simp only [Head.follows, Bool.and_eq_true, decide_eq_true_eq] at follows
  obtain ⟨⟨⟨_, identity, original, version, tip, compared, accepted⟩, _⟩, _⟩ := follows
  exact ⟨⟨⟨version, tip, compared, accepted⟩, identity⟩, original⟩

/-- Where a batch starts. -/
theorem Leads.start (leads : Leads entries old)
    (follows : old.all next.follows) :
    Reaches next.originalVersion entries ((old.map Head.version).getD next.originalVersion)
      (old.map Head.ancestry) := by
  cases old with
  | none =>
    cases leads
    exact ⟨⟨0, by simp, rfl⟩, isChain_nil, nofun⟩
  | some old =>
    rw [(Head.precedes_of_follows follows).2]
    exact leads

include continuous

theorem append_moves (isDone : append old next rows ramCurrent tables = .ok after) :
    Moves tables after next rows := by
  simp only [append, bind_eq_ok, require_eq_ok, Bool.and_eq_true, beq_iff_eq] at isDone
  obtain ⟨_, _, _, _, _, rfl, _, follows, cursor, isBatch, _, ⟨isVersion, isAncestry⟩, _, _,
    same⟩ := isDone
  cases same
  obtain ⟨isTable, ofElection, reaches⟩ :=
    appendRows_reaches isBatch ((continuous next.electionId).start follows)
  refine ⟨rfl, isTable, ofElection, fun old found => ?_, ?_⟩
  · rw [found] at follows
    exact (Head.precedes_of_follows follows).1
  · refine ⟨isVersion ▸ reaches.versions, reaches.linked, fun entry isLast => ?_⟩
    rw [reaches.last entry isLast] at isAncestry
    rw [beq_iff_eq.mp isAncestry]

theorem readback_moves (isDone : readback old next receipt ramCurrent tables = .ok after) :
    Moves tables after next [] := by
  simp only [readback, bind_eq_ok, require_eq_ok, Bool.and_eq_true, beq_iff_eq] at isDone
  obtain ⟨_, _, _, _, _, found, _, ⟨⟨_, isOld⟩, _⟩, readbacks, _, _, _, same⟩ := isDone
  cases same
  rw [← isOld] at found
  change tables.heads.lookup next.electionId = _ at found
  have leads := continuous next.electionId
  rw [found] at leads
  refine ⟨rfl, (append_nil _).symm, forall_mem_nil _, fun old isOld => ?_, ?_⟩
  · cases found.symm.trans isOld
    exact ⟨le_rfl, rfl⟩
  · rw [append_nil]
    exact leads

theorem Moves.keeps (moves : Moves tables after next rows) : after.Continuous := by
  intro election
  rw [Tables.entriesOf, moves.heads, moves.entries, Keyed.lookup_put]
  split_ifs with same
  · subst same
    have added := filter_eq_self.mpr fun row listed => beq_iff_eq.mpr (moves.ofElection row listed)
    rw [filter_append, added]
    exact moves.leads
  · rw [Table.filter_append_of_none fun row listed =>
      beq_false_of_ne (moves.ofElection row listed ▸ Ne.symm same)]
    exact continuous election

theorem Tables.transact_continuous (call : Call) :
    (tables.transact call).Continuous ∧ tables.Advances (tables.transact call) := by
  unfold transact
  cases isDone : call.perform tables with
  | error failure => exact ⟨continuous, .refl tables⟩
  | ok after =>
    obtain ⟨next, rows, moves⟩ : ∃ next rows, Moves tables after next rows := by
      cases call with
      | append old next rows ramCurrent => exact ⟨next, rows, append_moves continuous isDone⟩
      | readback old next receipt ramCurrent => exact ⟨next, [], readback_moves continuous isDone⟩
    refine ⟨moves.keeps continuous, fun election head found => ?_⟩
    change ∃ later, after.heads.lookup election = some later ∧ _
    rw [moves.heads, Keyed.lookup_put]
    split_ifs with same
    · subst same
      exact ⟨next, rfl, moves.precedes head found⟩
    · exact ⟨head, found, le_rfl, rfl⟩

theorem Tables.run_continuous (calls : List Call) :
    (tables.run calls).Continuous ∧ tables.Advances (tables.run calls) := by
  induction calls generalizing tables with
  | nil => exact ⟨continuous, .refl tables⟩
  | cons call rest ih =>
    obtain ⟨continuousNext, first⟩ := transact_continuous continuous call
    obtain ⟨continuousAfter, second⟩ := ih continuousNext
    exact ⟨continuousAfter, first.trans second⟩

end Steps

/-- The history of an election never forks: after any calls its entries are
exactly the versions after the original one up to the head's, each linked to the
one before and the head to the last, and further calls move the head forward
only. -/
theorem head_history_never_forks (calls more : List Call) :
    (Tables.empty.run calls).Continuous ∧
      (Tables.empty.run calls).Advances (Tables.empty.run (calls ++ more)) := by
  have initial : Tables.empty.Continuous := fun _ => rfl
  have continuous := (Tables.run_continuous initial calls).1
  refine ⟨continuous, ?_⟩
  rw [Tables.run, Tables.run, foldl_append]
  exact (Tables.run_continuous continuous more).2

end Zrotext.Phone.ManifestJournal
