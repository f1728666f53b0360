import Zrotext.Inbound.System

/-!
# Withdrawals and resumptions

What the suppressions say after any run of uploads.  A withdrawal without an
attempt is final.  Among the replies to attempts the latest withdrawal stays in
force, as long as no withdrawal arrives after a later one that is in force.
-/

namespace Zrotext.Inbound

open Foundation Delivery Fallible List Keyed

variable {δ : Type} [DecidableEq δ]

namespace System

/-- What a step can do. -/
inductive Moves (before after : System δ) : Action δ → Prop
  | quiet {action : Action δ} (sameEvents : after.tables.events = before.tables.events)
      (sameSuppressions : after.tables.suppressions = before.tables.suppressions)
      (sameAccepted : after.accepted = before.accepted)
      (sameLines : after.withdrawnOnLine = before.withdrawnOnLine) : Moves before after action
  | ingests (upload : Upload δ) (recipient : Text) (cleared : Bool)
      (ingests : Ingests upload.session upload.event before.tables cleared after.tables recipient)
      (isAccepted : after.accepted = before.accepted ++
        if upload.event.classification.changesConsent then
          [upload.consent recipient] else [])
      (sameLines : after.withdrawnOnLine = before.withdrawnOnLine) :
      Moves before after (.upload upload)
  | suppresses (surroundings : Surroundings δ) (session : InboundSession) (event : LineOptOut)
      (suppresses : Suppresses session event before.tables after.tables)
      (sameAccepted : after.accepted = before.accepted)
      (isLines : after.withdrawnOnLine = before.withdrawnOnLine ++
        [(session.accountId, event.recipientE164)]) :
      Moves before after (.lineOptOut surroundings session event)

theorem moves_upload {system : System δ} {upload : Upload δ} {after : Tables δ}
    (result : upload.perform system.tables = .ok (outcome, after)) :
    Moves system { system with
      tables := after, accepted := system.accepted ++
        upload.accepted outcome system.tables } (.upload upload) := by
  rcases ingestWithClock_eq_ok result with
    ⟨isOld, rfl, _⟩ | ⟨isNew, recipient, ingests⟩
  · refine .quiet rfl rfl ?_ rfl
    simp [Upload.accepted, isOld]
  · refine .ingests upload recipient outcome.suppressionCleared ingests ?_ rfl
    simp [Upload.accepted, isNew, ingests.isRecipient]

theorem moves_step (system : System δ) (action : Action δ) :
    Moves system (system.step action) action := by
  cases action with
  | upload upload =>
    unfold step
    simp only
    split
    · rename_i result
      exact moves_upload result
    · exact .quiet rfl rfl rfl rfl
  | lineOptOut surroundings session event =>
    unfold step
    simp only
    split
    · rename_i result
      rcases ingestLineOptOut_eq_ok result with
        ⟨impossible, _⟩ | ⟨_, suppresses⟩
      · cases impossible
      · exact .suppresses surroundings session event suppresses rfl rfl
    · rename_i result
      rcases ingestLineOptOut_eq_ok result with
        ⟨_, rfl⟩ | ⟨impossible, _⟩
      · exact .quiet rfl rfl rfl rfl
      · cases impossible
    · exact .quiet rfl rfl rfl rfl
  | elsewhere delivery holds audit counters outbox =>
    exact .quiet rfl rfl rfl rfl

theorem run_concat (actions : List (Action δ)) (action : Action δ) (system : System δ) :
    run (actions ++ [action]) system = (run actions system).step action :=
  foldl_concat _ _ _ _

/-- The suppressions agree with what was accepted. -/
structure Faithful (system : System δ) : Prop where
  checked : Checked system.tables.suppressions
  sourced : ∀ row ∈ system.tables.suppressions.rows, ∀ eventId, row.sourceEventId = some eventId →
      ∃ consent ∈ system.accepted, consent.eventId = eventId ∧ consent.key = row.key
  stored : ∀ consent ∈ system.accepted, system.tables.events.lookup consent.eventId ≠ none
  distinct : (system.accepted.map Consent.eventId).Nodup
  final : ∀ key ∈ system.withdrawnOnLine, ∃ row,
    system.tables.suppressions.lookup key = some row ∧ row.isFinal = true

end System

theorem changesConsent_of_isWithdrawal {classification : Classification}
    (withdraws : classification.isWithdrawal) : classification.changesConsent := by
  cases classification with
  | optOut | optOutReview => rfl
  | _ => cases withdraws

section Transition

variable {after : Suppressions} {cleared : Bool}

section

variable (transition : Transition reply before classification after cleared)

include transition

theorem Transition.checked (checked : Checked before) : Checked after := by
  cases transition with
  | preserved _ _ _ passes | withdrawn _ _ _ passes | cleared _ _ _ _ passes =>
    exact checked.put passes
  | unchanged => exact checked

/-- Every row was there before, or names the event of the reply. -/
theorem Transition.mem_cases (listed : row ∈ after.rows) : row ∈ before.rows ∨
      (row.sourceEventId = some reply.eventId ∧ row.key = reply.key ∧
        classification.changesConsent) := by
  cases transition with
  | preserved withdraws found _ _ =>
    rcases mem_put_iff.mp listed with rfl | ⟨known, _⟩
    · exact .inl (lookup_eq_some_iff.mp found).1
    · exact .inl known
  | withdrawn withdraws _ sameKey _ withdrew =>
    rcases mem_put_iff.mp listed with rfl | ⟨known, _⟩
    · exact .inr ⟨withdrew.event, sameKey, changesConsent_of_isWithdrawal withdraws⟩
    · exact .inl known
  | cleared _ _ _ sameKey _ _ event =>
    rcases mem_put_iff.mp listed with rfl | ⟨known, _⟩
    · exact .inr ⟨event, sameKey, rfl⟩
    · exact .inl known
  | unchanged => exact .inl listed

theorem Transition.final (found : before.lookup key = some row) (final : row.isFinal) :
    ∃ row, after.lookup key = some row ∧ row.isFinal := by
  cases transition with
  | @preserved _ kept _ isKept keptFinal _ =>
    rw [lookup_put]
    split_ifs
    · exact ⟨kept, rfl, keptFinal⟩
    · exact ⟨row, found, final⟩
  | @withdrawn _ stored _ open' sameKey _ _ =>
    rw [lookup_put]
    split_ifs with isKey
    · rw [isKey, sameKey] at found
      cases final.symm.trans (open' row found)
    · exact ⟨row, found, final⟩
  | @cleared old stored isOld _ open' sameKey =>
    rw [lookup_put]
    split_ifs with isKey
    · rw [isKey, sameKey, isOld] at found
      cases found
      cases final.symm.trans open'
    · exact ⟨row, found, final⟩
  | unchanged => exact ⟨row, found, final⟩

end

/-- What is cleared is a row that is not final. -/
theorem Transition.of_cleared (transition : Transition reply before classification after true) :
    ∃ old, before.lookup reply.key = some old ∧ reply.clears old ∧ old.isFinal = false := by
  cases transition with
  | cleared found clears open' => exact ⟨_, found, clears, open'⟩

theorem Transition.not_cleared (transition : Transition reply before classification after cleared)
    (found : before.lookup reply.key = some row) (final : row.isFinal) :
    cleared = false := by
  cases cleared with
  | false => rfl
  | true =>
    obtain ⟨old, isOld, _, open'⟩ := transition.of_cleared
    cases found.symm.trans isOld
    cases final.symm.trans open'

end Transition

namespace System

variable {after : System δ}

omit [DecidableEq δ] in
theorem Faithful.step (faithful : Faithful before)
    (moves : Moves before after action) : Faithful after := by
  cases moves with
  | quiet sameEvents sameSuppressions sameAccepted sameLines =>
    exact ⟨sameSuppressions ▸ faithful.checked, sameSuppressions ▸ sameAccepted ▸ faithful.sourced,
      sameEvents ▸ sameAccepted ▸ faithful.stored, sameAccepted ▸ faithful.distinct,
      sameSuppressions ▸ sameLines ▸ faithful.final⟩
  | ingests upload recipient cleared ingests isAccepted sameLines =>
    have transition := ingests.suppressions faithful.checked
    obtain ⟨stored, isEvents, isStored⟩ := ingests.events
    have isNew := ingests.new
    have kept : ∀ consent ∈ before.accepted, after.tables.events.lookup consent.eventId ≠ none := by
      intro consent listed
      have known := faithful.stored consent listed
      rw [isEvents, lookup_put]
      split_ifs
      · exact Option.some_ne_none stored
      · exact known
    refine ⟨transition.checked faithful.checked, ?_, ?_, ?_, ?_⟩
    · intro row listed eventId isSource
      rw [isAccepted]
      rcases transition.mem_cases listed with
        known | ⟨isEvent, sameKey, changes⟩
      · obtain ⟨consent, consentListed, facts⟩ := faithful.sourced row known eventId isSource
        exact ⟨consent, mem_append_left _ consentListed, facts⟩
      · rw [isSource] at isEvent
        cases isEvent
        rw [if_pos changes]
        exact ⟨upload.consent recipient, mem_append_right _ mem_cons_self, rfl, sameKey.symm⟩
    · rw [isAccepted]
      split_ifs
      · refine Table.forall_mem_concat kept ?_
        rw [isEvents, lookup_put]
        change (if upload.event.eventId = stored.id then _ else _) ≠ none
        rw [if_pos isStored.symm]
        exact Option.some_ne_none stored
      · rwa [append_nil]
    · rw [isAccepted]
      split_ifs
      · exact Table.nodup_map_concat faithful.distinct fun consent listed same =>
          faithful.stored consent listed (same ▸ isNew)
      · rw [append_nil]
        exact faithful.distinct
    · rw [sameLines]
      intro key listed
      obtain ⟨row, found, final⟩ := faithful.final key listed
      exact transition.final found final
  | suppresses _ session event suppresses sameAccepted isLines =>
    obtain ⟨row, isSuppressions, isKey, passes, final, noEvent⟩ := suppresses.suppressions
    refine ⟨isSuppressions ▸ faithful.checked.put passes, ?_,
      suppresses.events ▸ sameAccepted ▸ faithful.stored, sameAccepted ▸ faithful.distinct, ?_⟩
    · intro other listed eventId isSource
      rw [isSuppressions] at listed
      rw [sameAccepted]
      rcases mem_put_iff.mp listed with rfl | ⟨known, _⟩
      · rw [noEvent] at isSource
        cases isSource
      · exact faithful.sourced other known eventId isSource
    · intro key listed
      rw [isSuppressions, lookup_put]
      split_ifs with sameKey
      · exact ⟨row, rfl, final⟩
      · rw [isLines, mem_append, mem_singleton] at listed
        rcases listed with listed | rfl
        · exact faithful.final key listed
        · exact absurd isKey.symm sameKey

/-- Tables without suppressions and events. -/
structure IsFresh (tables : Tables δ) : Prop where
  suppressions : tables.suppressions = .empty
  events : tables.events = .empty

theorem faithful_run {tables : Tables δ} (fresh : IsFresh tables) (actions : List (Action δ)) :
    Faithful (run actions (start tables)) := by
  induction actions using reverseRecOn with
  | nil =>
    refine ⟨?_, ?_, nofun, nodup_nil, nofun⟩
    · change Checked tables.suppressions
      rw [fresh.suppressions]
      exact nofun
    · change ∀ row ∈ tables.suppressions.rows, _
      rw [fresh.suppressions]
      exact nofun
  | append_singleton actions action ih =>
    rw [run_concat]
    exact ih.step (moves_step _ action)

omit [DecidableEq δ] in
theorem withdrawnOnLine_step (moves : Moves before after action)
    (listed : key ∈ before.withdrawnOnLine) :
    key ∈ after.withdrawnOnLine := by
  cases moves with
  | quiet _ _ _ sameLines | ingests _ _ _ _ _ sameLines => rwa [sameLines]
  | suppresses _ _ _ _ _ isLines =>
    rw [isLines]
    exact mem_append_left _ listed

theorem withdrawnOnLine_run {system : System δ}
    (listed : key ∈ system.withdrawnOnLine) (actions : List (Action δ)) :
    key ∈ (run actions system).withdrawnOnLine := by
  induction actions using reverseRecOn with
  | nil => exact listed
  | append_singleton actions action ih =>
    rw [run_concat]
    exact withdrawnOnLine_step (moves_step _ action) ih

/-- An upload is about a recipient: the message that it answers went there, or
its event was accepted for the recipient. -/
def Concerns (system : System δ) (upload : Upload δ) (recipient : Text) : Prop :=
  system.tables.recipientOf upload.session upload.event = some recipient ∨
    ∃ consent ∈ system.accepted, consent.eventId = upload.event.eventId ∧
      consent.key = (upload.session.accountId, recipient)

section Final

omit [DecidableEq δ] in
/-- The row of an event that was accepted for a recipient is the row of the
recipient. -/
theorem Faithful.eq_of_source (faithful : Faithful system)
    (concerns : Concerns system upload recipient) (found : system.tables.suppressions.lookup
      (upload.session.accountId, recipient) = some row)
    (listed : other ∈ system.tables.suppressions.rows)
    (sameAccount : other.accountId = upload.session.accountId) (sameRecipient : ∀ known,
      system.tables.recipientOf upload.session upload.event = some known →
        other.recipientE164 = known)
    (isSource : other.sourceEventId = some upload.event.eventId) : other = row := by
  obtain ⟨present, isKey⟩ := lookup_eq_some_iff.mp found
  refine eq_of_key listed present ?_
  rw [isKey]
  rcases concerns with isRecipient | ⟨consent, accepted, isEvent, consentKey⟩
  · exact Prod.ext sameAccount (sameRecipient recipient isRecipient)
  · obtain ⟨source, sourceListed, sourceEvent, sourceKey⟩ :=
      faithful.sourced other listed _ isSource
    have same : source = consent := inj_on_of_nodup_map faithful.distinct
      sourceListed accepted (sourceEvent.trans isEvent.symm)
    rw [← sourceKey, same]
    exact consentKey

theorem Faithful.not_cleared {after : Tables δ}
    (faithful : Faithful system) (concerns : Concerns system upload recipient)
    (found : system.tables.suppressions.lookup (upload.session.accountId, recipient) = some row)
    (final : row.isFinal) (result : upload.perform system.tables = .ok (outcome, after)) :
    outcome.suppressionCleared = false := by
  rcases ingestWithClock_eq_ok result with
    ⟨_, _, isCleared⟩ | ⟨_, receiver, ingests⟩
  · rw [isCleared]
    by_contra cleared
    obtain ⟨other, listed, facts⟩ := any_eq_true.mp (Bool.not_eq_false _ ▸ cleared)
    simp only [Bool.and_eq_true, decide_eq_true_eq, Bool.not_eq_true', Option.all_eq_true] at facts
    obtain ⟨⟨⟨sameAccount, sameRecipient⟩, inactive⟩, isSource⟩ := facts
    have same := faithful.eq_of_source concerns found listed sameAccount sameRecipient isSource
    rw [same] at inactive
    unfold Suppression.isFinal at final
    rw [inactive] at final
    cases final
  · rcases concerns with isRecipient | ⟨consent, accepted, isEvent, _⟩
    · cases isRecipient.symm.trans ingests.isRecipient
      exact (ingests.suppressions faithful.checked).not_cleared found final
    · exact absurd ingests.new (isEvent ▸ faithful.stored consent accepted)

end Final

end System
end Zrotext.Inbound
