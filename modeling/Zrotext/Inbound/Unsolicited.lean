import Zrotext.Inbound.Consent

/-!
# Unsolicited withdrawals are final

Once a recipient has withdrawn without an attempt, the suppression stays in
force, and later uploads about the recipient commit as if there were no
suppression.
-/

namespace Zrotext.Inbound

open Foundation Delivery Fallible Suppression

variable {δ : Type}

/-- Any failure but that of a constraint of the suppressions. -/
def InboundError.isRefusal : InboundError → Bool
  | .database (.suppressions _) => false
  | _ => true

section Failures

theorem failsOnly_sourceReadiness (source : Source) :
    FailsOnly (·.isRefusal) (sourceReadiness source) := by
  intro failure isFailure
  unfold sourceReadiness at isFailure
  split at isFailure
  · split_ifs at isFailure
    cases isFailure
    rfl
  all_goals
    cases isFailure
    rfl

theorem failsOnly_validate (processMs : Int) (event : InboundEvent) :
    FailsOnly (·.isRefusal) (event.validate processMs) := by
  refine failsOnly_bind (failsOnly_require rfl) fun _ _ => ?_
  refine failsOnly_bind (failsOnly_require rfl) fun _ _ => ?_
  exact failsOnly_require rfl

theorem failsOnly_authorize (records : Records δ) : FailsOnly (·.isRefusal)
      (records.authorize surroundings session event) := by
  refine failsOnly_bind (failsOnly_validate _ _) fun _ _ => ?_
  refine failsOnly_bind (failsOnly_demand rfl) fun _ _ => ?_
  iterate 4 refine failsOnly_bind (failsOnly_require rfl) fun _ _ => ?_
  refine failsOnly_bind (failsOnly_demand rfl) fun _ _ => ?_
  refine failsOnly_bind (failsOnly_sourceReadiness _) fun _ _ => ?_
  exact failsOnly_ok _

theorem failsOnly_cancelPending (records : Records δ) (accountId : Uuid) (recipient : Text) :
    FailsOnly (fun failure => (InboundError.database failure).isRefusal)
      (records.cancelPending surroundings accountId recipient) := by
  intro failure isFailure
  unfold Records.cancelPending at isFailure
  simp only at isFailure
  split at isFailure
  · cases isFailure
  · cases isFailure
    rfl

section

variable (records : Records δ) (stored : StoredEvent) (recipient : Text)

include records stored recipient

theorem failsOnly_releaseHolds :
    FailsOnly (·.isRefusal) (records.releaseHolds surroundings stored recipient) := by
  refine failsOnly_bind (failsOnly_foldlM ?_ _ _) fun _ _ => failsOnly_ok _
  intro audit hold
  exact failsOnly_bind (failsOnly_require rfl) fun _ _ => failsOnly_ok _

theorem failsOnly_follow :
    FailsOnly (·.isRefusal) (records.follow surroundings stored recipient) := by
  unfold Records.follow
  split
  · exact failsOnly_mapError (failsOnly_cancelPending _ _ _)
  · exact failsOnly_mapError (failsOnly_cancelPending _ _ _)
  · exact failsOnly_releaseHolds _ _ _
  · exact failsOnly_ok _

theorem failsOnly_complete :
    FailsOnly (·.isRefusal) (records.complete surroundings session stored recipient) := by
  refine failsOnly_bind (failsOnly_follow _ _ _) fun _ _ => ?_
  refine failsOnly_bind (failsOnly_mapError fun _ _ => rfl) fun _ _ => ?_
  exact failsOnly_bind (failsOnly_require rfl) fun _ _ => failsOnly_ok _

end

theorem failsOnly_replay (tables : Tables δ) : FailsOnly (·.isRefusal)
      (tables.replay surroundings session event recipient digest stored) := by
  refine failsOnly_bind (failsOnly_require rfl) fun _ _ => ?_
  exact failsOnly_bind (failsOnly_require rfl) fun _ _ => failsOnly_ok _

variable [DecidableEq δ]

theorem failsOnly_admission (records : Records δ) (stored : StoredEvent) :
    FailsOnly (·.isRefusal) (records.admitEvent surroundings session stored) := by
  refine failsOnly_bind (failsOnly_mapError fun _ _ => rfl) fun _ _ => ?_
  refine failsOnly_bind (failsOnly_require rfl) fun _ _ => ?_
  exact failsOnly_bind (failsOnly_require rfl) fun _ _ => failsOnly_ok _

end Failures

section New

variable [DecidableEq δ] {tables : Tables δ}

/-- No constraint of the suppressions refuses a new event about the
recipient. -/
theorem failsOnly_ingestNew (checked : Checked tables.suppressions)
    (found : ∀ recipient, known = some recipient →
      tables.suppressions.lookup (stored.accountId, recipient) = some row)
    (final : row.isFinal) : FailsOnly (·.isRefusal)
      (tables.ingestNew surroundings session stored known) := by
  refine failsOnly_bind (failsOnly_require rfl) fun _ _ => ?_
  refine failsOnly_bind (failsOnly_demand (by unfold retiredSourceError; split_ifs <;> rfl))
    fun recipient isRecipient => ?_
  refine failsOnly_bind (failsOnly_admission _ _) fun records _ => ?_
  obtain ⟨after, changes⟩ := @transition_of_final _ row records.references
    stored.classification (stored.reply recipient) (surroundings.clock.reading 1) checked
    (found recipient (demand_eq_ok.mp isRecipient)) final
  refine failsOnly_bind ?_ fun _ _ => ?_
  · rw [changes]
    exact failsOnly_ok _
  · exact failsOnly_bind (failsOnly_complete _ _ _) fun _ _ => failsOnly_ok _

theorem transition_of_empty {references : References} {reply : Reply} {now : Time}
    (classification : Classification) (isNumber : e164Pattern reply.recipientE164)
    (hasEvent : references.event reply.accountId reply.eventId)
    (hasAttempt : references.attempt reply.attemptId) :
    ∃ after, transition references classification reply now .empty = .ok (after, false) := by
  have withdraw : ∀ source : SuppressionSource, source.isUnsolicited = false →
      ∃ after, reply.withdraw references source now .empty = .ok after := by
    intro source bound
    have passes : (reply.suppression source now).check = .ok () :=
      check_eq_ok.mpr ⟨isNumber, by
        simp [fitsShape, Reply.suppression, bound]⟩
    have refers : (reply.suppression source now).refer references = .ok () := by
      unfold refer Reply.suppression
      simp [hasEvent, hasAttempt, require]
      rfl
    unfold Reply.withdraw upsert
    rw [passes]
    rw [refers]
    exact ⟨_, rfl⟩
  unfold transition
  cases classification with
  | optOut =>
    obtain ⟨after, isAfter⟩ := withdraw .smsKeyword rfl
    rw [isAfter]
    exact ⟨after, rfl⟩
  | optOutReview =>
    obtain ⟨after, isAfter⟩ := withdraw .smsReview rfl
    rw [isAfter]
    exact ⟨after, rfl⟩
  | optIn | capturedLocal | simUnverified | sendUnverified | encryptionUnverified =>
    exact ⟨.empty, rfl⟩

theorem admit_delivery {records : Records δ}
    (result : records.admitEvent surroundings session stored = .ok admitted) :
    admitted.delivery = records.delivery := by
  simp only [Records.admitEvent, bind_eq_ok] at result
  obtain ⟨_, _, _, _, _, _, ⟨⟩⟩ := result
  rfl

/-- A new event about the recipient commits as if there were no
suppression. -/
theorem isOk_ingestNew {known : Option Text} (checked : Checked tables.suppressions)
    (found : ∀ recipient, known = some recipient →
      tables.suppressions.lookup (stored.accountId, recipient) = some row)
    (final : row.isFinal) (hasAttempt : tables.delivery.attempts.any
      (fun attempt => decide (attempt.id = stored.attemptId))) :
    (tables.ingestNew surroundings session stored known).isOk =
      (Tables.ingestNew surroundings session stored known
        { tables with suppressions := .empty }).isOk := by
  refine isOk_bind_congr fun _ _ => ?_
  refine isOk_bind_congr fun recipient isRecipient => ?_
  refine isOk_bind_congr fun records isAdmitted => ?_
  have isFound := found recipient (demand_eq_ok.mp isRecipient)
  obtain ⟨present, sameKey⟩ := Keyed.lookup_eq_some_iff.mp isFound
  have isNumber := (check_eq_ok.mp (checked row present)).1
  rw [(Prod.mk.inj sameKey).2] at isNumber
  obtain ⟨after, changes⟩ := @transition_of_final _ row records.references
    stored.classification (stored.reply recipient)
    (surroundings.clock.reading 1) checked isFound final
  have hasEvent : records.references.event stored.accountId stored.id =
      true := by
    change (records.events.lookup stored.id).any _
    rw [admit_eq_ok isAdmitted, Keyed.lookup_put_self]
    exact decide_eq_true rfl
  have stillHasAttempt : records.references.attempt stored.attemptId =
      true := by
    change records.delivery.attempts.any _
    rw [admit_delivery isAdmitted]
    exact hasAttempt
  obtain ⟨fresh, freshly⟩ := @transition_of_empty records.references
    (stored.reply recipient) (surroundings.clock.reading 1)
    stored.classification isNumber hasEvent stillHasAttempt
  rw [changes]
  rw [freshly]
  change (records.complete surroundings session stored recipient >>= _).isOk =
    (records.complete surroundings session stored recipient >>= _).isOk
  exact isOk_bind_congr fun _ _ => rfl

end New

namespace System

variable [DecidableEq δ] {upload : Upload δ}

omit [DecidableEq δ] in
theorem hasAttempt_of_authorize {records : Records δ}
    (authorized : records.authorize surroundings session event = .ok answer) :
    records.delivery.attempts.any
      (fun attempt => decide (attempt.id = event.attemptId)) := by
  simp only [Records.authorize, bind_eq_ok] at authorized
  obtain ⟨_, _, _, _, _, _, _, _, _, _, _, _, source, isSource, _⟩ := authorized
  obtain ⟨attempt, isAttempt, _⟩ := Option.bind_eq_some_iff.mp (demand_eq_ok.mp isSource)
  have isId := List.find?_some isAttempt
  simp only [Bool.and_eq_true, beq_iff_eq] at isId
  exact List.any_eq_true.mpr ⟨attempt, List.mem_of_find?_eq_some isAttempt,
    decide_eq_true isId.1.1.1⟩

section

variable {system : System δ} (faithful : Faithful system)
  (concerns : Concerns system upload recipient)
  (found : system.tables.suppressions.lookup (upload.session.accountId, recipient) = some row)

include faithful concerns found

omit [DecidableEq δ] in
/-- If the event is new, the suppression of its recipient is the final one. -/
theorem Faithful.found_of_new
    (authorized : system.tables.authorize upload.surroundings upload.session upload.event =
      .ok (known, digest))
    (isNew : system.tables.events.lookup upload.event.eventId = none) :
    ∀ receiver, known = some receiver → system.tables.suppressions.lookup
      (upload.session.accountId, receiver) = some row := by
  intro receiver isKnown
  rcases concerns with isRecipient | ⟨consent, accepted, isEvent, _⟩
  · rw [authorize_eq_ok authorized, isRecipient] at isKnown
    cases isKnown
    exact found
  · have stored := faithful.stored consent accepted
    rw [isEvent] at stored
    exact absurd isNew stored

/-- No constraint of the suppressions refuses the upload. -/
theorem Faithful.failsOnly_perform (final : row.isFinal) :
    FailsOnly (·.isRefusal) (upload.perform system.tables) := by
  refine failsOnly_bind (failsOnly_authorize _) fun ⟨known, digest⟩ authorized => ?_
  simp only
  split
  · exact failsOnly_bind (failsOnly_replay _) fun _ _ => failsOnly_ok _
  · rename_i isNew
    exact failsOnly_ingestNew faithful.checked
      (faithful.found_of_new concerns found authorized isNew) final

/-- The upload commits as if there were no suppression. -/
theorem Faithful.isOk_perform (final : row.isFinal) : (upload.perform system.tables).isOk =
      (upload.perform { system.tables with suppressions := .empty }).isOk := by
  refine isOk_bind_congr fun ⟨known, digest⟩ authorized => ?_
  simp only
  split
  · rename_i stored isStored
    rw [isOk_bind_of_isOk fun _ => rfl, isOk_bind_of_isOk fun _ => rfl]
    refine isOk_bind_congr fun _ _ => ?_
    exact isOk_bind_congr fun _ _ => rfl
  · rename_i isNew
    exact isOk_ingestNew faithful.checked
      (faithful.found_of_new concerns found authorized isNew) final
      (hasAttempt_of_authorize authorized)

end

/-- An unsolicited withdrawal is final. -/
theorem unsolicited_withdrawal_final (tables : Tables δ) (fresh : IsFresh tables)
    (earlier later : List (Action δ)) (accountId : Uuid) (recipient : Text)
    (withdrawn : (accountId, recipient) ∈ (run earlier (start tables)).withdrawnOnLine) :
    let system := run (earlier ++ later) (start tables)
    (∃ row, system.tables.suppressions.lookup (accountId, recipient) =
      some row ∧ row.active = true ∧ row.source.isUnsolicited = true) ∧
    ∀ upload : Upload δ, upload.session.accountId = accountId → Concerns system upload recipient →
      (∀ constraint, upload.perform system.tables ≠ .error (.database (.suppressions constraint))) ∧
      (upload.perform system.tables).isOk = (upload.perform
        { system.tables with suppressions := .empty }).isOk ∧
      ∀ outcome after, upload.perform system.tables = .ok (outcome, after) →
        outcome.suppressionCleared = false := by
  intro system
  have faithful : Faithful system := faithful_run fresh _
  have listed : (accountId, recipient) ∈ system.withdrawnOnLine := by
    have listed := withdrawnOnLine_run withdrawn later
    unfold run at listed
    rw [← List.foldl_append] at listed
    exact listed
  obtain ⟨row, found, final⟩ := faithful.final _ listed
  refine ⟨⟨row, found, Bool.and_eq_true_iff.mp final⟩, ?_⟩
  rintro upload rfl concerns
  refine ⟨?_, faithful.isOk_perform concerns found final, ?_⟩
  · intro constraint refused
    exact absurd (faithful.failsOnly_perform concerns found final _ refused) Bool.false_ne_true
  · intro outcome after result
    exact faithful.not_cleared concerns found final result

/-- A recipient withdraws with a reply and without one, and resumes. -/
theorem unsolicited_withdrawal_final_resumed :
    let system := run ([.upload (Drill.reply 21 .optOut 10 20),
      Drill.stop 9 21] ++ [.upload (Drill.reply 23 .optIn 22 23)]) (start Drill.tables)
    (∃ row, system.tables.suppressions.lookup (1, "+15550001111".toList) =
      some row ∧ row.active = true ∧ row.source.isUnsolicited = true) ∧
    ((Drill.reply 24 .optIn 23 24).perform system.tables).isOk = true ∧
    ∀ outcome after, (Drill.reply 24 .optIn 23 24).perform system.tables =
      .ok (outcome, after) → outcome.suppressionCleared = false := by
  have final := unsolicited_withdrawal_final Drill.tables ⟨rfl, rfl⟩
    [.upload (Drill.reply 21 .optOut 10 20), Drill.stop 9 21]
    [.upload (Drill.reply 23 .optIn 22 23)] 1 "+15550001111".toList
    (by decide +kernel)
  have upload := final.2 (Drill.reply 24 .optIn 23 24) rfl (.inl (by decide +kernel))
  exact ⟨final.1, by decide +kernel, upload.2.2⟩

end System
end Zrotext.Inbound
