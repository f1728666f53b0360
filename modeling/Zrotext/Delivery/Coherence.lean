import Zrotext.Delivery.Run

/-!
# Coherence of the delivery store

In every reachable state the jobs, the fences, the attempts and the states of
the messages agree.
-/

namespace Zrotext.Delivery

open Domain Foundation World

/-- A message and its job agree with its fence and with its attempts. -/
structure Tables.Consistent (tables : Tables) (message : Message) (job : DispatchJob) : Prop where
  fence_iff_granted : (∃ fence ∈ tables.fences, fence.messageId = message.id) ↔
    job.grantIssuedAt ≠ none
  holder : ∀ fence ∈ tables.fences, fence.messageId = message.id →
    ∃ attempt ∈ tables.attempts, attempt.id = fence.attemptId ∧ attempt.messageId = message.id
  outcome : ∀ fence ∈ tables.fences, fence.messageId = message.id →
    ∀ attempt ∈ tables.attempts, attempt.id = fence.attemptId → attempt.status = fence.outcome
  state : ∀ fence ∈ tables.fences, fence.messageId = message.id →
    Record.fencedOutcome message.state = some fence.outcome
  unfenced : message.state = .queued ∨ message.state = .cancelled ∨ message.state = .expired →
      ∀ fence ∈ tables.fences, fence.messageId ≠ message.id
  retired : ∀ attempt ∈ tables.attempts, attempt.messageId = message.id →
    (∀ fence ∈ tables.fences, fence.messageId = message.id → fence.attemptId ≠ attempt.id) →
    attempt.status = .provedNoSubmit

theorem Tables.Coherent.consistent {tables : Tables} (coherent : tables.Coherent)
    {message : Message} (holds : tables.Holds message.id record)
    (sound : record.Coherent) (isMessage : record.message = message) :
    tables.Consistent message record.job where
  fence_iff_granted := by
    rw [← Option.isSome_iff_ne_none, ← sound.granted]
    constructor
    · rintro ⟨fence, present, isId⟩
      rw [holds.fence_eq present isId]
      rfl
    · intro isSome
      obtain ⟨fence, isFence⟩ := Option.isSome_iff_exists.mp isSome
      exact ⟨fence, holds.mem_fence isFence⟩
  holder := by
    intro fence present isId
    obtain ⟨attempt, own, isAttempt⟩ := sound.holder fence (holds.fence_eq present isId)
    obtain ⟨listed, ofMessage⟩ := holds.mem_attempts.mp own
    exact ⟨attempt, listed, isAttempt, ofMessage⟩
  outcome := by
    intro fence present isId attempt listed isAttempt
    have isFence := holds.fence_eq present isId
    obtain ⟨own, ownListed, isOwn⟩ := sound.holder fence isFence
    have same := coherent.attempt_eq listed (holds.mem_attempts.mp ownListed).1
      (isAttempt.trans isOwn.symm)
    exact sound.holderStatus fence isFence attempt (same ▸ ownListed) isAttempt
  state := by
    intro fence present isId
    rw [← isMessage]
    exact sound.fenced fence (holds.fence_eq present isId)
  unfenced := by
    intro isState fence present isId
    have outcome := sound.fenced fence (holds.fence_eq present isId)
    rw [isMessage] at outcome
    rcases isState with isState | isState | isState <;>
      rw [isState] at outcome <;> cases outcome
  retired := by
    intro attempt listed isId unheld
    refine sound.retired attempt (holds.mem_attempts.mpr ⟨listed, isId⟩) ?_
    intro fence isFence
    obtain ⟨present, ofMessage⟩ := holds.mem_fence isFence
    exact unheld fence present ofMessage

/-- After every run, each message has one job, and the two agree with the fence
and with the attempts of the message. -/
theorem delivery_store_consistent (deployment : Deployment) (directory : Directory)
    (steps : List Step) (message : Message) (stored : message ∈
      ((start directory).run deployment steps).tables.messages) :
    ∃ job, ((start directory).run deployment steps).tables.jobs.filter
        (·.messageId == message.id) = [job] ∧
      ((start directory).run deployment steps).tables.Consistent message job := by
  have coherent := run_coherent deployment directory steps
  obtain ⟨record, holds, sound, isMessage⟩ := coherent.record_of_message stored
  exact ⟨record.job, holds.jobs, coherent.consistent holds sound isMessage⟩

/-- The sent message of a run is submitted. -/
theorem delivery_store_consistent_drill :
    ∃ message ∈ (Drill.tablesAfter Drill.sending).messages, message.state = .submitted ∧
      ∃ job, (Drill.tablesAfter Drill.sending).jobs.filter (·.messageId == message.id) = [job] ∧
        (Drill.tablesAfter Drill.sending).Consistent message job := by
  have stored : ∃ message ∈ (Drill.tablesAfter Drill.sending).messages,
      message.state = .submitted := by
    decide +kernel
  obtain ⟨message, present, isState⟩ := stored
  exact ⟨message, present, isState,
    delivery_store_consistent Drill.deployment Drill.directory Drill.sending message present⟩

open List

/-- What was recorded about a message stays, and only new rows follow. -/
structure Record.Continues (record next : Record) : Prop where
  events : record.events <+: next.events
  attempts : record.attempts.map (·.id) <+: next.attempts.map (·.id)

theorem Record.Continues.step {first record next : Record} (continues : first.Continues record)
    (step : record.Step deployment next) : first.Continues next := by
  obtain ⟨events, attempts⟩ := continues
  have became : ∀ id status time, first.attempts.map (·.id) <+:
      (Table.update (·.id == id) (MessageAttempt.become status time)
        record.attempts).map (·.id) := by
    intro id status time
    rwa [Table.map_update _ (by intro row; rfl)]
  cases step with
  | claim | reserve | close => exact ⟨events, attempts⟩
  | grant => exact ⟨events, attempts.trans (by simp)⟩
  | release | follow | silence => exact ⟨events.trans (prefix_append _ _), became _ _ _⟩
  | timeOut => exact ⟨events.trans (prefix_append _ _), attempts⟩

/-- Whatever happens later, the events and the attempts of every message are only
continued. -/
theorem message_history_kept (deployment : Deployment) (directory : Directory)
    (steps later : List Step) (id : Uuid) :
    let before := ((start directory).run deployment steps).tables
    let after := ((start directory).run deployment (steps ++ later)).tables
    before.events.filter (·.messageId == id) <+: after.events.filter (·.messageId == id) ∧
      (before.attempts.filter (·.messageId == id)).map (·.id) <+:
        (after.attempts.filter (·.messageId == id)).map (·.id) := by
  intro before after
  have coherent : before.Coherent := run_coherent deployment directory steps
  rcases coherent.described id with lacks | ⟨record, holds, _⟩
  · rw [lacks.events, lacks.attempts]
    exact ⟨⟨_, rfl⟩, ⟨_, rfl⟩⟩
  · obtain ⟨_, next, isNext, ⟨events, attempts⟩⟩ := (Preserved.of_record
      (fun _ continues => Record.Continues.step continues) id).run coherent
      ⟨record, holds, prefix_rfl, prefix_rfl⟩ later
    rw [← run_append] at isNext
    rw [holds.events, holds.attempts, isNext.events, isNext.attempts]
    exact ⟨events, attempts⟩

end Zrotext.Delivery
