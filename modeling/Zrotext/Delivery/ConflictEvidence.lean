import Zrotext.Delivery.Upload

/-!
# Conflicts between callbacks

A device that sees contradictory callbacks of an attempt reports a conflict,
and the message becomes unknown.  Its fence becomes active again, which the
index of active devices refuses while another message is out on the device.
-/

namespace Zrotext.Delivery

open Domain Foundation Transaction

/-- A new report of a conflict between the callbacks of an attempt whose intent
is recorded. -/
structure FreshConflict (clock : Clock) (tables : Tables) (event : RadioEvent) : Prop where
  isConflict : event.evidence = .callbackConflict
  report : FreshReport clock tables event
  intended : ∃ intent ∈ tables.events,
    intent.attemptId = event.attemptId ∧ intent.evidenceCode = .durableIntent

theorem apply_callbackConflict (fenced : Record.fencedOutcome state = some outcome) :
    state.apply .callbackConflict = .ok .unknown := by
  cases state <;> first | rfl | cases fenced

theorem FreshConflict.transition (conflict : FreshConflict clock tables event)
    (coherent : tables.Coherent) (holds : tables.Holds event.messageId record)
    (sound : record.Coherent) (isFence : record.fence = some fence)
    (isHolder : fence.attemptId = event.attemptId) : radioState record.message.state event
      (record.evidence event.attemptId event.segmentCount) = .ok .unknown := by
  obtain ⟨intent, recorded, isAttempt, isIntent⟩ := conflict.intended
  have isEvidence := conflict.isConflict
  refine radioState_eq_ok_iff.mpr ⟨⟨?_, ?_, ?_⟩, .applied ?_ ?_⟩
  · exact fun notConflict => absurd isEvidence notConflict
  · intro isProof
    rw [isEvidence] at isProof
    cases isProof
  · intro _
    refine List.any_eq_true.mpr ⟨intent, ?_, by simpa using isIntent⟩
    rw [← isHolder, ← coherent.fence_events holds sound isFence]
    exact List.mem_filter.mpr ⟨recorded, by simpa [isHolder] using isAttempt⟩
  · rw [isEvidence]
    rfl
  · rw [isEvidence]
    exact apply_callbackConflict (sound.fenced fence isFence)

/-- A conflict is recorded while no other attempt keeps the device busy, and
refused by the index of active devices otherwise. -/
theorem FreshConflict.leads (conflict : FreshConflict clock tables event)
    (coherent : tables.Coherent) (attended : tables.Attended deployment) :
    Leads (recordRadioEvent deployment directory clock event) (fun value after => value = .unknown ∧
        tables.DeviceFree event.deviceId event.attemptId ∧
        ∃ message ∈ after.messages, message.id = event.messageId ∧ message.state = .unknown)
      (fun _ _ => ¬ tables.DeviceFree event.deviceId event.attemptId) tables := by
  obtain ⟨fence, present, isHolder, owner, isMessage, device⟩ := conflict.report.fenced
  obtain ⟨record, holds, sound, isFence⟩ := coherent.record_of_fence present
  rw [isMessage] at holds
  have unique : (∀ index ∈ fenceIndexes, Table.Unique index
      (Table.update (·.attemptId == event.attemptId)
        (DispatchFence.record .unknown) tables.fences)) ↔
      tables.DeviceFree event.deviceId event.attemptId := by
    rw [← isHolder, ← device, coherent.fences_record_iff present]
    exact forall_prop_of_true rfl
  refine (conflict.report.leads coherent attended holds (by rw [conflict.isConflict]; rfl)
    (conflict.transition coherent holds sound isFence isHolder)
    (by rw [conflict.isConflict]; rintro ⟨⟩) rfl (by rintro ⟨⟩)).mono ?_ ?_
  · rintro _ after ⟨rfl, rfl, allowed⟩
    obtain ⟨stored, isId⟩ := holds.message_mem
    refine ⟨rfl, unique.mp allowed, record.message.moveTo .unknown clock.now,
      Table.mem_update_iff.mpr (.inr ⟨record.message, stored, ?_, rfl⟩), isId,
      rfl⟩
    rw [isId, ← (sound.fenceOwner fence isFence).1, owner]
    simp
  · rintro _ _ ⟨index, broken, _⟩ free
    have isOk := Table.rewrite_eq_ok_iff.mpr ⟨rfl, unique.mpr free⟩
    rw [isOk] at broken
    cases broken

/-- After every run, a new report of a conflict is accepted and leaves its
message unknown if and only if no other attempt keeps the device busy. -/
theorem conflict_recorded_iff_deviceFree (deployment : Deployment) (directory : Directory)
    (steps : List Step) (clock : Clock) (event : RadioEvent) (conflict : FreshConflict clock
      ((World.start directory).run deployment steps).tables event) :
    let world := (World.start directory).run deployment steps
    let outcome := (recordRadioEvent deployment world.directory clock event).commit world.tables
    (outcome.1 = .ok .unknown ∧ ∃ message ∈ outcome.2.messages, message.id = event.messageId ∧
        message.state = .unknown) ↔
      world.tables.DeviceFree event.deviceId event.attemptId := by
  intro world outcome
  have leads : Leads (recordRadioEvent deployment world.directory clock event)
      _ _ world.tables := conflict.leads
    (World.run_coherent deployment directory steps)
    (World.run_attended deployment directory steps)
  constructor
  · rintro ⟨recorded, _⟩
    exact (leads.of_result recorded).2.1
  · intro free
    obtain ⟨value, recorded, rfl, _, unknown⟩ := leads.succeeds fun _ _ busy => busy free
    exact ⟨recorded, unknown⟩

/-- The device reports a conflict between the callbacks of the first message
while the second one is out. -/
def Drill.conflict : RadioEvent := report 32 10 20 .callbackConflict

/-- What comes of the conflict after some steps. -/
def Drill.conflicting (steps : List Step) : Except StoreError MessageState :=
  ((recordRadioEvent deployment directory (clock 106) conflict).commit (tablesAfter steps)).1

/-- The second message keeps the device busy. -/
theorem conflict_refused_by_another_message :
    FreshConflict (Drill.clock 106) (Drill.tablesAfter Drill.sendingTwo) Drill.conflict ∧
    Drill.conflicting Drill.sendingTwo =
      .error (.database (.uniqueViolation .dispatchFencesActiveDevice)) := by
  refine ⟨⟨by decide +kernel, ⟨by decide +kernel, by decide +kernel,
    by decide +kernel, by decide +kernel⟩, by decide +kernel⟩, ?_⟩
  decide +kernel

/-- Without the second message the conflict is recorded. -/
theorem conflict_recorded_iff_deviceFree_drill :
    FreshConflict (Drill.clock 106) (Drill.tablesAfter Drill.sending) Drill.conflict ∧
      Drill.conflicting Drill.sending = .ok .unknown := by
  have conflict : FreshConflict (Drill.clock 106) (Drill.tablesAfter Drill.sending)
      Drill.conflict := by
    refine ⟨by decide +kernel, ⟨by decide +kernel, by decide +kernel,
      by decide +kernel, by decide +kernel⟩, by decide +kernel⟩
  have recorded := (conflict_recorded_iff_deviceFree Drill.deployment Drill.directory
    Drill.sending (Drill.clock 106) Drill.conflict conflict).mpr (by decide +kernel)
  exact ⟨conflict, recorded.1⟩

end Zrotext.Delivery
