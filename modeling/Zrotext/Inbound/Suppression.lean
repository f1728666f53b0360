import Zrotext.Delivery.Schema
import Zrotext.Foundation.Fallible
import Zrotext.Foundation.Keyed

/-!
# Suppressed recipients

The table of suppressed recipients with its checks, its foreign keys and the
trigger that keeps unsolicited withdrawals, and the three statements that write
it.
-/

namespace Zrotext.Inbound

open Foundation Delivery Fallible

inductive SuppressionSource
  | smsKeyword | smsReview | smsResume | smsUnsolicitedKeyword | smsUnsolicitedReview
deriving DecidableEq

/-- The sources that no outbound attempt stands behind. -/
def SuppressionSource.isUnsolicited : SuppressionSource → Bool
  | .smsKeyword | .smsReview | .smsResume => false
  | .smsUnsolicitedKeyword | .smsUnsolicitedReview => true

/-- A row of recipient_suppressions. -/
structure Suppression where
  accountId : Uuid
  recipientE164 : Text
  active : Bool
  (sourceEventId sourceAttemptId sourceUnsolicitedEventId : Option Uuid)
  sourceObservedAt : Time
  source : SuppressionSource
  changedAt : Time
deriving DecidableEq

namespace Suppression

def key (row : Suppression) : Uuid × Text := (row.accountId, row.recipientE164)

/-- An active row with an unsolicited source. -/
def isFinal (row : Suppression) : Bool := row.active && row.source.isUnsolicited

end Suppression

abbrev Suppressions := Keyed Suppression.key

/-- The constraints of the table. -/
inductive SuppressionConstraint
  | recipientCheck | sourceShape | sourceEvent | sourceAttempt | unsolicitedSource
deriving DecidableEq

/-- The numbers that the tables take: a plus sign and two to fifteen digits, the
first of them not a zero. -/
def e164Pattern : Text → Bool
  | '+' :: first :: rest =>
    decide ('1' ≤ first ∧ first ≤ '9') &&
      decide (1 ≤ rest.length ∧ rest.length ≤ 14) && rest.all Char.isDigit
  | _ => false

/-- The rows that the foreign keys may refer to. -/
structure References where
  event : Uuid → Uuid → Bool
  attempt : Uuid → Bool
  lineOptOut : Uuid → Text → Uuid → Bool

namespace Suppression

variable (references : References) (old row : Suppression)

/-- Which columns may be set together. -/
def fitsShape : Bool := (!row.source.isUnsolicited && row.sourceEventId.isSome &&
      row.sourceAttemptId.isSome && row.sourceUnsolicitedEventId.isNone) ||
    (row.source.isUnsolicited && row.sourceEventId.isNone &&
      row.sourceAttemptId.isNone && row.sourceUnsolicitedEventId.isSome && row.active)

def check : Except SuppressionConstraint Unit := do
  require .recipientCheck (e164Pattern row.recipientE164)
  require .sourceShape row.fitsShape

/-- The foreign keys of a new row. -/
def refer : Except SuppressionConstraint Unit := do
  require .sourceEvent
    (row.sourceEventId.all (references.event row.accountId))
  require .sourceAttempt (row.sourceAttemptId.all references.attempt)
  require .unsolicitedSource (row.sourceUnsolicitedEventId.all
    (references.lineOptOut row.accountId row.recipientE164))

/-- The foreign keys of a changed row: only those whose columns have
changed. -/
def referAgain : Except SuppressionConstraint Unit := do
  require .sourceEvent (decide (row.sourceEventId = old.sourceEventId) ||
    row.sourceEventId.all (references.event row.accountId))
  require .sourceAttempt (decide (row.sourceAttemptId = old.sourceAttemptId) ||
    row.sourceAttemptId.all references.attempt)
  require .unsolicitedSource
    (decide (row.sourceUnsolicitedEventId = old.sourceUnsolicitedEventId) ||
      row.sourceUnsolicitedEventId.all (references.lineOptOut row.accountId row.recipientE164))

/-- The trigger before an update: a row with an unsolicited source is not
changed to one with another source. -/
def preserveUnsolicited (new : Suppression) : Suppression :=
  if old.active && old.source.isUnsolicited && !new.source.isUnsolicited then
    { new with
      active := old.active, sourceEventId := old.sourceEventId
      sourceAttemptId := old.sourceAttemptId
      sourceUnsolicitedEventId := old.sourceUnsolicitedEventId
      sourceObservedAt := old.sourceObservedAt, source := old.source, changedAt := old.changedAt }
  else new

/-- The row that an update stores. -/
def updated (new : Suppression) : Except SuppressionConstraint Suppression := do
  let row := preserveUnsolicited old new
  row.check
  referAgain references old row
  return row

end Suppression

/-- Insert a row, or change the row that is there. -/
def upsert (references : References) (proposed : Suppression) (change : Suppression → Suppression)
    (suppressions : Suppressions) : Except SuppressionConstraint Suppressions := do
  proposed.check
  match suppressions.lookup proposed.key with
  | none =>
    proposed.refer references
    return suppressions.put proposed
  | some old =>
    let row ← Suppression.updated references old (change old)
    return suppressions.put row

/-- What a reply to an attempt says about a recipient. -/
structure Reply where
  accountId : Uuid
  recipientE164 : Text
  (eventId attemptId : Uuid)
  observedAt : Time
deriving DecidableEq

namespace Reply

variable (reply : Reply)

def key : Uuid × Text := (reply.accountId, reply.recipientE164)

/-- The row that a withdrawal inserts. -/
def suppression (source : SuppressionSource) (now : Time) : Suppression :=
  { accountId := reply.accountId, recipientE164 := reply.recipientE164, active := true
    sourceEventId := some reply.eventId, sourceAttemptId := some reply.attemptId
    sourceUnsolicitedEventId := none, sourceObservedAt := reply.observedAt, source
    changedAt := now }

/-- The columns that a withdrawal sets. -/
def suppress (source : SuppressionSource) (now : Time) (old : Suppression) : Suppression :=
  { old with
    active := true, sourceEventId := some reply.eventId, sourceAttemptId := some reply.attemptId
    sourceObservedAt := reply.observedAt, source, changedAt := now }

/-- The recipient withdraws. -/
def withdraw (references : References) (reply : Reply) (source : SuppressionSource) (now : Time) :
    Suppressions → Except SuppressionConstraint Suppressions :=
  upsert references (reply.suppression source now) (reply.suppress source now)

/-- The rows that a resumption clears: those of a withdrawal that was a reply to
the same attempt and observed before. -/
def clears (row : Suppression) : Bool :=
  row.active && decide (row.sourceAttemptId = some reply.attemptId) &&
    decide (row.sourceObservedAt < reply.observedAt)

/-- The columns that a resumption sets. -/
def clear (now : Time) (old : Suppression) : Suppression :=
  { old with
    active := false, sourceEventId := some reply.eventId, sourceObservedAt := reply.observedAt
    source := .smsResume, changedAt := now }

/-- The recipient resumes.  The result says whether a row was cleared. -/
def resume (references : References) (reply : Reply) (now : Time) (suppressions : Suppressions) :
    Except SuppressionConstraint (Suppressions × Bool) :=
  match (suppressions.lookup reply.key).filter reply.clears with
  | none => .ok (suppressions, false)
  | some old => do
    let row ← Suppression.updated references old (reply.clear now old)
    return (suppressions.put row, true)

end Reply

/-- What a message that answers no attempt says about its sender. -/
structure LineWithdrawal where
  accountId : Uuid
  recipientE164 : Text
  id : Uuid
  observedAt : Time
deriving DecidableEq

namespace LineWithdrawal

variable (withdrawal : LineWithdrawal)

def key : Uuid × Text :=
  (withdrawal.accountId, withdrawal.recipientE164)

def suppression (source : SuppressionSource) (now : Time) : Suppression :=
  { accountId := withdrawal.accountId, recipientE164 := withdrawal.recipientE164, active := true
    sourceEventId := none, sourceAttemptId := none, sourceUnsolicitedEventId := some withdrawal.id
    sourceObservedAt := withdrawal.observedAt, source, changedAt := now }

def suppress (source : SuppressionSource) (now : Time) (old : Suppression) : Suppression :=
  { old with
    active := true, sourceEventId := none, sourceAttemptId := none
    sourceUnsolicitedEventId := some withdrawal.id, sourceObservedAt := withdrawal.observedAt
    source, changedAt := now }

/-- The sender withdraws. -/
def withdraw (references : References) (withdrawal : LineWithdrawal) (source : SuppressionSource)
    (now : Time) : Suppressions → Except SuppressionConstraint Suppressions :=
  upsert references (withdrawal.suppression source now) (withdrawal.suppress source now)

end LineWithdrawal

/-- Every stored row passes the checks. -/
def Checked (suppressions : Suppressions) : Prop := ∀ row ∈ suppressions.rows, row.check = .ok ()

theorem Checked.put {row : Suppression}
    (checked : Checked suppressions) (passes : row.check = .ok ()) :
    Checked (suppressions.put row) := by
  intro other listed
  rcases Keyed.mem_put_iff.mp listed with rfl | ⟨before, _⟩
  · exact passes
  · exact checked other before

namespace Suppression

theorem check_eq_ok {row : Suppression} : row.check = .ok () ↔
      e164Pattern row.recipientE164 ∧ row.fitsShape := by
  unfold check
  rw [bind_eq_ok]
  constructor
  · rintro ⟨_, isNumber, fits⟩
    exact ⟨require_eq_ok.mp isNumber, require_eq_ok.mp fits⟩
  · rintro ⟨isNumber, fits⟩
    exact ⟨(), require_eq_ok.mpr isNumber, require_eq_ok.mpr fits⟩

theorem of_isUnsolicited {row : Suppression} (fits : row.fitsShape)
    (unsolicited : row.source.isUnsolicited) : row.active ∧ row.sourceEventId = none ∧
      row.sourceAttemptId = none := by
  simp only [fitsShape, unsolicited, Bool.not_true, Bool.false_and,
    Bool.false_or, Bool.true_and, Bool.and_eq_true, Option.isNone_iff_eq_none]
    at fits
  exact ⟨fits.2, fits.1.1.1, fits.1.1.2⟩

@[simp]
theorem key_preserveUnsolicited (old new : Suppression) :
    (preserveUnsolicited old new).key = new.key := by
  unfold preserveUnsolicited
  split <;> rfl

/-- The trigger gives back a final row. -/
theorem preserveUnsolicited_of_final (final : old.isFinal) (sameKey : new.key = old.key)
    (bound : new.source.isUnsolicited = false) : preserveUnsolicited old new = old := by
  unfold isFinal at final
  obtain ⟨sameAccount, sameRecipient⟩ := Prod.mk.inj sameKey
  unfold preserveUnsolicited
  rw [if_pos (by rw [final, bound]; rfl), sameAccount, sameRecipient]

theorem preserveUnsolicited_of_not_final (open' : old.isFinal = false) :
    preserveUnsolicited old new = new := by
  unfold isFinal at open'
  unfold preserveUnsolicited
  rw [open', Bool.false_and, if_neg Bool.false_ne_true]

theorem preserveUnsolicited_of_unsolicited (unsolicited : new.source.isUnsolicited) :
    preserveUnsolicited old new = new := by
  unfold preserveUnsolicited
  rw [unsolicited, Bool.not_true, Bool.and_false, if_neg Bool.false_ne_true]

theorem updated_eq_ok (result : updated references old new = .ok row) :
    row = preserveUnsolicited old new ∧ row.check = .ok () := by
  simp only [updated, bind_eq_ok] at result
  obtain ⟨_, passes, _, _, ⟨⟩⟩ := result
  exact ⟨rfl, passes⟩

/-- An update that the trigger undoes is not refused. -/
theorem updated_of_final (references : References) (final : old.isFinal)
    (sameKey : new.key = old.key) (bound : new.source.isUnsolicited = false)
    (passes : old.check = .ok ()) : updated references old new = .ok old := by
  have refers : referAgain references old old = .ok () := by
    simp [referAgain, require]
    rfl
  unfold updated
  rw [preserveUnsolicited_of_final final sameKey bound]
  simp only [passes, refers]
  rfl

end Suppression

theorem upsert_eq_ok (result : upsert references proposed change suppressions = .ok after)
    (keeps : ∀ old, (change old).key = old.key) :
    ∃ row, after = suppressions.put row ∧ row.key = proposed.key ∧ row.check = .ok () ∧
      ((suppressions.lookup proposed.key = none ∧ row = proposed) ∨
        ∃ old, suppressions.lookup proposed.key = some old ∧
          row = Suppression.preserveUnsolicited old (change old)) := by
  obtain ⟨_, passes, result⟩ := bind_eq_ok.mp result
  split at result
  · rename_i absent
    obtain ⟨_, _, result⟩ := bind_eq_ok.mp result
    cases result
    exact ⟨proposed, rfl, rfl, passes, .inl ⟨absent, rfl⟩⟩
  · rename_i old found
    obtain ⟨row, isRow, result⟩ := bind_eq_ok.mp result
    cases result
    obtain ⟨rfl, rowPasses⟩ := Suppression.updated_eq_ok isRow
    refine ⟨_, rfl, ?_, rowPasses, .inr ⟨old, found, rfl⟩⟩
    rw [Suppression.key_preserveUnsolicited, keeps]
    exact (Keyed.lookup_eq_some_iff.mp found).2

section Statements

/-- The row says that the reply withdrew. -/
structure Reply.Withdrew (reply : Reply) (row : Suppression) : Prop where
  active : row.active = true
  observed : row.sourceObservedAt = reply.observedAt
  event : row.sourceEventId = some reply.eventId

variable {reply : Reply}

/-- A withdrawal is recorded, unless the row is final and stays as it is. -/
theorem Reply.withdraw_eq_ok (bound : source.isUnsolicited = false)
    (result : reply.withdraw references source now suppressions = .ok after) :
    ∃ row, after = suppressions.put row ∧ row.key = reply.key ∧ row.check = .ok () ∧
      ((suppressions.lookup reply.key = some row ∧ row.isFinal) ∨
        (∀ old, suppressions.lookup reply.key = some old →
          old.isFinal = false) ∧ reply.Withdrew row) := by
  obtain ⟨row, isAfter, isKey, passes, isRow⟩ := upsert_eq_ok result fun _ => rfl
  refine ⟨row, isAfter, isKey, passes, ?_⟩
  change (suppressions.lookup reply.key = none ∧ _) ∨ ∃ old,
    suppressions.lookup reply.key = some old ∧ _ at isRow
  rcases isRow with ⟨absent, rfl⟩ | ⟨old, found, rfl⟩
  · refine .inr ⟨?_, rfl, rfl, rfl⟩
    intro old found
    rw [absent] at found
    cases found
  · cases final : old.isFinal with
    | false =>
      rw [Suppression.preserveUnsolicited_of_not_final final]
      refine .inr ⟨?_, rfl, rfl, rfl⟩
      intro other isOther
      rw [found] at isOther
      cases isOther
      exact final
    | true =>
      have kept : Suppression.preserveUnsolicited old (reply.suppress source now old) = old :=
        Suppression.preserveUnsolicited_of_final final rfl bound
      rw [kept]
      exact .inl ⟨found, final⟩

/-- A withdrawal of a recipient whose row is final is not refused. -/
theorem Reply.withdraw_of_final (checked : Checked suppressions)
    (found : suppressions.lookup reply.key = some old) (final : old.isFinal)
    (bound : source.isUnsolicited = false) : reply.withdraw references source now suppressions =
      .ok (suppressions.put old) := by
  obtain ⟨listed, sameKey⟩ := Keyed.lookup_eq_some_iff.mp found
  have oldPasses := checked old listed
  have passes : (reply.suppression source now).check = .ok () := by
    refine Suppression.check_eq_ok.mpr ⟨?_, ?_⟩
    · have isNumber := (Suppression.check_eq_ok.mp oldPasses).1
      rw [(Prod.mk.inj sameKey).2] at isNumber
      exact isNumber
    · simp [Suppression.fitsShape, Reply.suppression, bound]
  have updated : Suppression.updated references old (reply.suppress source now old) = .ok old :=
    Suppression.updated_of_final references final rfl bound oldPasses
  unfold Reply.withdraw upsert
  rw [passes]
  change (match suppressions.lookup reply.key with
    | none => _
    | some old => _) = _
  rw [found]
  change (Suppression.updated references old _ >>= _) = _
  rw [updated]
  rfl

/-- A resumption clears a row that is not final, or leaves the table as it
is. -/
theorem Reply.resume_eq_ok (checked : Checked suppressions)
    (result : reply.resume references now suppressions = .ok (after, cleared)) :
    (after = suppressions ∧ cleared = false ∧ ∀ old, suppressions.lookup reply.key = some old →
        reply.clears old = false) ∨
    ∃ old, suppressions.lookup reply.key = some old ∧
      reply.clears old ∧ old.isFinal = false ∧ cleared ∧
      after = suppressions.put (reply.clear now old) ∧ (reply.clear now old).check = .ok () := by
  unfold Reply.resume at result
  split at result
  · rename_i absent
    cases result
    refine .inl ⟨rfl, rfl, ?_⟩
    intro old found
    rw [found] at absent
    simpa using absent
  · rename_i old selected
    obtain ⟨found, clears⟩ := Option.filter_eq_some_iff.mp selected
    obtain ⟨row, isRow, result⟩ := bind_eq_ok.mp result
    cases result
    obtain ⟨rfl, passes⟩ := Suppression.updated_eq_ok isRow
    have final : old.isFinal = false := by
      by_contra unsolicited
      have unsolicited := (Bool.and_eq_true_iff.mp (Bool.not_eq_false _ ▸ unsolicited)).2
      have fits := (Suppression.check_eq_ok.mp
        (checked old (Keyed.lookup_eq_some_iff.mp found).1)).2
      have noAttempt := (Suppression.of_isUnsolicited fits unsolicited).2.2
      simp [Reply.clears, noAttempt] at clears
    rw [Suppression.preserveUnsolicited_of_not_final final] at passes ⊢
    exact .inr ⟨old, found, clears, final, rfl, rfl, passes⟩

/-- A resumption does not touch a final row. -/
theorem Reply.resume_of_final (checked : Checked suppressions)
    (found : suppressions.lookup reply.key = some old) (final : old.isFinal) :
    reply.resume references now suppressions = .ok (suppressions, false) := by
  have fits := (Suppression.check_eq_ok.mp (checked old (Keyed.lookup_eq_some_iff.mp found).1)).2
  have noAttempt := (Suppression.of_isUnsolicited fits (Bool.and_eq_true_iff.mp final).2).2.2
  have untouched : reply.clears old = false := by
    simp [Reply.clears, noAttempt]
  unfold Reply.resume
  rw [found, Option.filter_some, if_neg (by rw [untouched]; exact Bool.false_ne_true)]

/-- The row of an unsolicited withdrawal is final. -/
theorem LineWithdrawal.withdraw_eq_ok {withdrawal : LineWithdrawal}
    (unsolicited : source.isUnsolicited)
    (result : withdrawal.withdraw references source now suppressions = .ok after) :
    ∃ row, after = suppressions.put row ∧ row.key = withdrawal.key ∧
      row.check = .ok () ∧ row.isFinal ∧ row.sourceEventId = none := by
  obtain ⟨row, isAfter, isKey, passes, isRow⟩ := upsert_eq_ok result fun _ => rfl
  have isFinal : row.isFinal := by
    rcases isRow with ⟨_, rfl⟩ | ⟨old, _, rfl⟩
    · exact unsolicited
    · rw [Suppression.preserveUnsolicited_of_unsolicited unsolicited]
      exact unsolicited
  have fits := (Suppression.check_eq_ok.mp passes).2
  exact ⟨row, isAfter, isKey, passes, isFinal, (Suppression.of_isUnsolicited
    fits (Bool.and_eq_true_iff.mp isFinal).2).2.1⟩

end Statements

end Zrotext.Inbound
