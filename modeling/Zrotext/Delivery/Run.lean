import Zrotext.Delivery.Transactions

/-!
# What holds in every run

A step of a run is an arrival followed by effects.  What arrivals and effects
preserve on coherent tables holds in every reachable state, and what the steps
of a record preserve holds of the record of every message.
-/

namespace Zrotext.Delivery

open Domain Foundation Transaction

/-- The idempotency key that a step brings in. -/
def Step.key (deployment : Deployment) : Step → Option (Clock × IdempotencyKey)
  | .accept clock input =>
    some (clock, newKey deployment clock input input.clientMessageId)
  | .acceptMetered clock input =>
    some (clock, newKey deployment clock input input.clientMessageId)
  | .acceptAlpha clock input _ _ =>
    some (clock, newKey deployment clock input
      (alphaMessageId deployment input.accountId input.clientMessageId))
  | _ => none

/-- Whether a step is one of the transactions. -/
def Step.isTransaction : Step → Bool
  | .administer .. => false
  | _ => true

/-- What the transaction of a step does to the tables. -/
def World.Committed (deployment : Deployment) (world : World) (next : Step)
    (after : Tables) : Prop :=
  ∃ arrived, (arrived = world.tables ∨ ∃ clock key,
      next.key deployment = some (clock, key) ∧ Arrival clock key world.tables arrived) ∧
    Effects deployment world.directory arrived after

namespace World

variable {world : World}

theorem Committed.effects (effects : Effects deployment world.directory world.tables after) :
    world.Committed deployment next after :=
  ⟨_, .inl rfl, effects⟩

theorem Committed.admitted (isKey : next.key deployment = some (clock, key))
    (admitted : Admitted deployment world.directory clock key world.tables after) :
    world.Committed deployment next after := by
  obtain ⟨arrived, arrival, effects⟩ := admitted
  exact ⟨arrived, arrival.imp_right fun new => ⟨clock, key, isKey, new⟩, effects⟩

/-- A transaction that is rolled back when it fails. -/
theorem Committed.commit {α : Type} {transaction : StoreTransaction α} (leads : Finishes transaction
      (fun _ after => Effects deployment world.directory world.tables after) world.tables) :
    world.Committed deployment next (transaction.commit world.tables).2 :=
  .effects (leads.commit .refl)

theorem committed (coherent : world.tables.Coherent) (isTransaction : next.isTransaction) :
    world.Committed deployment next (world.tablesAfter deployment next) := by
  cases next with
  | accept clock input | acceptMetered clock input
  | acceptAlpha clock input =>
    refine Leads.commit ((acceptInner_leads _ _ _ _).imp ?_) (.effects .refl)
    exact fun _ _ => .admitted rfl
  | connectSession => exact .commit (connectSession_leads _ _ _ _ _)
  | claimDue => exact .commit (claimDueWithContent_leads _ _)
  | cancel => exact .commit (cancel_leads coherent _ _)
  | cancelPendingRecipient =>
    exact .commit (cancelPendingRecipient_leads coherent _ _)
  | expireDue => exact .commit (expireDue_leads _ _)
  | reconcileSilentAttempts =>
    exact .commit ((reconcileSilentAttempts_leads coherent _ _ _).imp fun _ _ => Swept.effects)
  | reconcileDeliveryTimeouts =>
    exact .commit ((reconcileDeliveryTimeouts_leads coherent _ _ _).imp fun _ _ => Swept.effects)
  | issueGrant =>
    refine .effects (Leads.commitWhen ((issueGrant_leads coherent _ _ _).mono ?_ ?_) .refl)
    · exact fun _ _ effects _ => effects
    · exact fun _ _ effects => effects
  | recordRadioEvent => exact .commit (recordRadioEvent_leads _)
  | administer => cases isTransaction

end World

/-- A property of the tables that arrivals, effects and administration
preserve. -/
structure Preserved (deployment : Deployment) (holds : Tables → Prop) : Prop where
  arrival : ∀ {clock key tables after}, tables.Coherent → holds tables →
    Arrival clock key tables after → holds after
  effect : ∀ {directory tables after}, tables.Coherent → holds tables →
    Effect deployment directory tables after → holds after
  administered : ∀ {tables : Tables} (sites limits), holds tables →
    holds { tables with
      sites, periods := setLimits limits tables.periods }

theorem Preserved.effects (preserved : Preserved deployment holds)
    (effects : Effects deployment directory tables after)
    (before : tables.Coherent ∧ holds tables) : after.Coherent ∧ holds after := by
  induction effects with
  | refl => exact before
  | tail _ effect ih =>
    exact ⟨effect.coherent ih.1, preserved.effect ih.1 ih.2 effect⟩

theorem agrees_administered {tables : Tables} {id : Uuid} :
    tables.Agrees { tables with sites, periods } id :=
  ⟨rfl, rfl, rfl, rfl, rfl, rfl⟩

theorem Tables.Coherent.administered {tables : Tables} (coherent : tables.Coherent)
    (sites : List Site) (periods : List UsagePeriod) :
    Tables.Coherent { tables with sites, periods } where
  described := fun _ => agrees_administered.described coherent
  attemptsUnique := coherent.attemptsUnique
  fencesUnique := coherent.fencesUnique
  eventsUnique := coherent.eventsUnique

theorem Preserved.step (preserved : Preserved deployment holds)
    (world : World) (next : Step) (before : world.tables.Coherent ∧ holds world.tables) :
    (world.tablesAfter deployment next).Coherent ∧ holds (world.tablesAfter deployment next) := by
  cases isTransaction : next.isTransaction with
  | true =>
    have committed : world.Committed deployment next (world.tablesAfter deployment next) :=
      World.committed before.1 isTransaction
    obtain ⟨arrived, arrival, effects⟩ := committed
    refine preserved.effects effects ?_
    rcases arrival with rfl | ⟨clock, key, _, new⟩
    · exact before
    · exact ⟨new.coherent before.1, preserved.arrival before.1 before.2 new⟩
  | false =>
    cases next with
    | administer directory sites limits =>
      exact ⟨before.1.administered sites _, preserved.administered sites limits before.2⟩
    | _ => cases isTransaction

theorem Preserved.nothing : Preserved deployment fun _ => True :=
  ⟨fun _ _ _ => trivial, fun _ _ _ => trivial, fun _ _ _ => trivial⟩

theorem World.step_coherent {world : World} (coherent : world.tables.Coherent) (next : Step) :
    (world.tablesAfter deployment next).Coherent :=
  (Preserved.nothing.step world next ⟨coherent, trivial⟩).1

theorem Preserved.run (preserved : Preserved deployment holds)
    {world : World} (coherent : world.tables.Coherent) (initially : holds world.tables)
    (steps : List Step) : (world.run deployment steps).tables.Coherent ∧
      holds (world.run deployment steps).tables := by
  induction steps generalizing world with
  | nil => exact ⟨coherent, initially⟩
  | cons next rest ih =>
    obtain ⟨nextCoherent, nextHolds⟩ := preserved.step world next ⟨coherent, initially⟩
    exact ih nextCoherent nextHolds

theorem Tables.empty_coherent : Tables.empty.Coherent where
  described := fun _ => .inl ⟨rfl, rfl, rfl, rfl, rfl, rfl⟩
  attemptsUnique := fun _ _ => List.Pairwise.nil
  fencesUnique := fun _ _ => List.Pairwise.nil
  eventsUnique := fun _ _ => List.Pairwise.nil

theorem World.run_coherent (deployment : Deployment) (directory : Directory) (steps : List Step) :
    ((World.start directory).run deployment steps).tables.Coherent :=
  (Preserved.nothing.run Tables.empty_coherent trivial steps).1

/-- A property of one record, once it holds. -/
theorem Preserved.of_record {holds : Record → Prop}
    (keeps : ∀ {record next : Record}, record.Coherent → holds record →
      record.Step deployment next → holds next)
    (id : Uuid) : Preserved deployment fun tables =>
      ∃ record, tables.Holds id record ∧ holds record where
  arrival := by
    rintro clock key tables after coherent ⟨record, isRecord, held⟩ arrival
    rcases arrival.touches coherent id with agrees | ⟨lacks, _⟩
    · exact ⟨record, agrees.holds isRecord, held⟩
    · cases lacks.messages.symm.trans isRecord.messages
  effect := by
    rintro directory tables after coherent ⟨record, isRecord, held⟩ effect
    rcases effect.touches coherent id with
      agrees | ⟨other, next, isOther, sound, isNext, step⟩
    · exact ⟨record, agrees.holds isRecord, held⟩
    · rw [isRecord.eq isOther] at held
      exact ⟨next, isNext, keeps sound held step⟩
  administered := by
    rintro tables sites limits ⟨record, isRecord, held⟩
    exact ⟨record, agrees_administered.holds isRecord, held⟩

theorem Preserved.of_records {holds : Record → Prop}
    (new : ∀ clock row, row.state = .queued → holds (Record.new clock row))
    (keeps : ∀ {record next : Record}, record.Coherent → holds record →
      record.Step deployment next → holds next) :
    Preserved deployment fun tables =>
      ∀ id record, tables.Holds id record → holds record where
  arrival := by
    intro clock key tables after coherent before arrival id record isRecord
    rcases arrival.touches coherent id with
      agrees | ⟨_, row, accepting, isNew⟩
    · exact before id record (agrees.symm.holds isRecord)
    · rw [isRecord.eq isNew]
      exact new clock row accepting.queued
  effect := by
    intro directory tables after coherent before effect id record isRecord
    rcases effect.touches coherent id with
      agrees | ⟨old, next, isOld, sound, isNext, step⟩
    · exact before id record (agrees.symm.holds isRecord)
    · rw [isRecord.eq isNext]
      exact keeps sound (before id old isOld) step
  administered := by
    intro tables sites limits before id record isRecord
    exact before id record (agrees_administered.symm.holds isRecord)

/-- What holds of new records and is kept by steps holds of all records. -/
theorem World.run_records {directory : Directory} {id : Uuid} {holds : Record → Prop}
    (new : ∀ clock row, row.state = .queued → holds (Record.new clock row))
    (keeps : ∀ {record next : Record}, record.Coherent → holds record →
      record.Step deployment next → holds next)
    (isRecord : ((World.start directory).run deployment steps).tables.Holds id record) :
    holds record := by
  refine ((Preserved.of_records new keeps).run Tables.empty_coherent ?_ steps).2 id record isRecord
  intro id record isRecord
  cases isRecord.messages

end Zrotext.Delivery
