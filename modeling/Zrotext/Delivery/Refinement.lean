import Zrotext.Delivery.AuthorityView
import Zrotext.Delivery.Upload

/-!
# The store as a run of the authority

Every committed transaction is matched by calls of the domain's authority, none
of which is refused.
-/

namespace Zrotext.Delivery

open Domain Foundation Transaction List Table Tables

/-! ## Effects -/

section Effects

variable {tables after : Tables}

/-- What the transactions that neither connect a device nor issue a grant leave
alone. -/
structure Grantless (tables after : Tables) : Prop where
  sessions : after.sessions = tables.sessions
  keys : after.keys = tables.keys
  attempts : ∀ id, (after.attempts.filter (·.messageId == id)).length =
    (tables.attempts.filter (·.messageId == id)).length

/-- A transaction that issues no grant is matched by events. -/
theorem Represents.grantless (represents : Represents directory tables authority)
    (coherent : tables.Coherent) (effect : Effect deployment directory tables after)
    (grantless : Grantless tables after) : Matched directory authority after := by
  refine represents.reach coherent grantless.sessions grantless.keys ?_
  intro id
  rcases effect.touches coherent id with
    agrees | ⟨record, next, holds, sound, nextHolds, step⟩
  · exact .inl agrees
  · refine .inr ⟨record, next, holds, nextHolds, step.reaches sound ?_⟩
    rw [← nextHolds.attempts, ← holds.attempts]
    exact grantless.attempts id

theorem find?_upsertSession (session : DeviceSession) (sessions : List DeviceSession) (id : Uuid) :
    (upsertSession session sessions).1.find? (·.deviceId == id) =
      if session.deviceId = id then
        some { session with
          connectionEpoch := (upsertSession session sessions).2 }
      else
        sessions.find? (·.deviceId == id) := by
  unfold upsertSession
  cases found : sessions.find? (·.deviceId == session.deviceId) with
  | none =>
    simp only [find?_append]
    split_ifs with isDevice
    · rw [← isDevice, found]
      simp
    · simp [isDevice]
  | some prior =>
    have isPrior := find?_some found
    simp only [update, find?_map]
    have keeps : ((fun row : DeviceSession => row.deviceId == id) ∘ fun row : DeviceSession =>
          if row.deviceId == session.deviceId then
            { session with connectionEpoch := prior.connectionEpoch + 1 }
          else row) = fun row => row.deviceId == id := by
      funext row
      simp only [Function.comp_apply]
      split_ifs with selected
      · rw [← beq_iff_eq.mp selected]
      · rfl
    rw [keeps]
    split_ifs with isDevice
    · rw [← isDevice, found]
      simp [beq_iff_eq.mp isPrior]
    · cases other : sessions.find? (·.deviceId == id) with
      | none => rfl
      | some row =>
        have isRow := find?_some other
        rw [Option.map_some, if_neg]
        rw [beq_iff_eq.mp isRow, beq_iff_eq]
        exact fun same => isDevice same.symm

theorem checkedAdd_word {count : Nat} (inRange : count + 1 ≤ bigintMax) :
    Word.checkedAdd (word count) 1 = some (word (count + 1)) := by
  rw [Word.checkedAdd_eq_some_iff]
  unfold bigintMax at inRange
  change (count + 1) % 2 ^ 64 = count % 2 ^ 64 + 1
  omega

theorem Represents.connect (represents : Represents directory tables authority)
    {session : DeviceSession} (isFirst : session.connectionEpoch = 1)
    (inRange : (upsertSession session tables.sessions).2 ≤ bigintMax) :
    Matched directory authority
        { tables with
          sites := insertSite siteId tables.sites
          sessions := (upsertSession session tables.sessions).1 } := by
  have isLease : Word.checkedAdd 0 (instant session.leaseUntil) =
      some (instant session.leaseUntil) := by
    rw [Word.checkedAdd_eq_some_iff]
    exact (Nat.zero_add _).symm
  refine ⟨[.connect session.deviceId session.siteId session.instanceId 0
      (instant session.leaseUntil)], _,
    Authority.performAll_single (Authority.perform_connect
      represents.available session.siteId session.instanceId
      (?_ : _ = some (word (upsertSession session tables.sessions).2)) isLease),
    { represents with sessions := fun id => ?_ }⟩
  · rw [Authority.nextEpoch, represents.sessions]
    unfold sessionSeen
    unfold upsertSession at inRange ⊢
    cases found : tables.sessions.find? (·.deviceId == session.deviceId) with
    | none =>
      simp only [Option.map_none, isFirst]
      rfl
    | some prior =>
      rw [found] at inRange
      exact checkedAdd_word inRange
  · unfold sessionSeen
    rw [find?_upsertSession]
    split_ifs with isDevice
    · rw [← isDevice, Finmap.lookup_insert]
      rfl
    · rw [Finmap.lookup_insert_of_ne _ (fun same => isDevice same.symm), represents.sessions]
      rfl

theorem instant_pos (time : Time) : 0 < instant time := by
  change 0 < (instant time).val
  unfold instant
  simp only
  omega

theorem isActive_of_isBusy (busy : Authority.isBusy state)
    (fenced : Record.fencedOutcome state = some outcome) :
    outcome.isActive := by
  cases state <;> cases busy <;> cases fenced <;> rfl

theorem Represents.not_deviceBusy (represents : Represents directory tables authority)
    (coherent : tables.Coherent) (free : ∀ fence ∈ tables.fences, fence.deviceId = deviceId →
    fence.outcome.isActive = false) :
    ¬ authority.DeviceBusy deviceId := by
  rintro ⟨⟨id, grant⟩, granted, isDevice, busy⟩
  have isGrant : authority.grants.lookup id = some grant := Finmap.mem_lookup_iff.mpr granted
  rw [represents.grants] at isGrant
  obtain ⟨fence, found, rfl⟩ := Option.map_eq_some_iff.mp isGrant
  have present := mem_of_find?_eq_some found
  obtain ⟨record, holds, sound, isFence⟩ := coherent.record_of_fence present
  change (authority.messages.lookup fence.messageId).any _ = true at busy
  rw [represents.messages, holds.stateSeen, Record.modelState_of_fence isFence] at busy
  have active := isActive_of_isBusy busy (sound.fenced fence isFence)
  rw [free fence present isDevice] at active
  cases active

theorem find?_of_nodup {sessions : List DeviceSession}
    (distinct : (sessions.map (·.deviceId)).Nodup) (present : row ∈ sessions) :
    sessions.find? (·.deviceId == row.deviceId) = some row := by
  cases found : sessions.find? (·.deviceId == row.deviceId) with
  | none =>
    exact absurd (find?_eq_none.mp found row present) (by simp)
  | some other =>
    have isOther := find?_some found
    exact congrArg some (inj_on_of_nodup_map distinct
      (mem_of_find?_eq_some found) present (beq_iff_eq.mp isOther))

/-- What the authority sees of a message after another message was granted, and
of the granted one. -/
theorem seen_granted (holds : tables.Holds claim.messageId record) (noFence : record.fence = none)
    (id : Uuid) :
    let fence := grantedFence directory claim session attemptId recipientDigest grantExpiresAt
    let after := tables.grant directory clock claim session attemptId recipientDigest grantExpiresAt
    after.stateSeen id =
      (if id = fence.messageId then some record.message.state else tables.stateSeen id) ∧
    after.grantSeen id =
      (if id = fence.messageId then some fence.modelGrant else tables.grantSeen id) := by
  intro fence after
  have isMessage : tables.messages.find? (·.id == fence.messageId) = some record.message := by
    rw [← head?_filter]
    exact congrArg head? holds.messages
  have isNone : tables.fences.find? (·.messageId == fence.messageId) = none := by
    rw [← head?_filter]
    refine (congrArg head? holds.fences).trans ?_
    rw [noFence]
    rfl
  have fences : after.fences = tables.fences ++ [fence] := rfl
  have messages : after.messages = tables.messages := rfl
  have isId : record.message.id = fence.messageId := holds.message_mem.2
  unfold stateSeen grantSeen modelState
  rw [messages, fences]
  by_cases isTarget : id = fence.messageId
  · rw [if_pos isTarget, if_pos isTarget, isTarget, isMessage]
    simp [isNone, isId]
  · rw [if_neg isTarget, if_neg isTarget]
    have different : fence.messageId ≠ id := Ne.symm isTarget
    refine ⟨?_, by simp [different]⟩
    cases found : tables.messages.find? (·.id == id) with
    | none => rfl
    | some message =>
      have isId := find?_some found
      simp [beq_iff_eq.mp isId, different]

section

variable (represents : Represents directory tables authority) (coherent : tables.Coherent)
  (distinct : (tables.sessions.map (·.deviceId)).Nodup)

include represents coherent distinct

theorem Represents.grant
    (granting : Granting deployment directory clock tables claim session attemptId recipientDigest
      grantExpiresAt) :
    Matched directory authority
      (tables.grant directory clock claim session attemptId recipientDigest grantExpiresAt) := by
  obtain ⟨row, listed, isDevice, isEpoch⟩ := granting.live
  obtain ⟨job, jobListed, _, isJobId, _, ungranted⟩ := granting.job
  obtain ⟨message, stored, named, claimed⟩ := granting.message
  obtain ⟨record, holds, sound, rfl⟩ := coherent.record_of_message stored
  rw [named] at holds
  have noFence : record.fence = none := by
    refine sound.fence_eq_none ?_
    rw [holds.job_eq jobListed isJobId]
    exact ungranted
  have isSession : authority.sessions.lookup row.modelSession.deviceId = some row.modelSession := by
    rw [represents.sessions]
    exact congrArg (Option.map _) (find?_of_nodup distinct listed)
  have isGrant : authority.grants.lookup claim.messageId = none := by
    rw [represents.grants, holds.grantSeen, Record.modelGrant, noFence]
    rfl
  have queued : authority.messages.lookup claim.messageId = some .queued := by
    rw [represents.messages, holds.stateSeen,
      Record.modelState_of_pending (by rw [claimed]; rfl) noFence]
  have free : ¬ authority.DeviceBusy row.modelSession.deviceId := by
    refine represents.not_deviceBusy coherent ?_
    intro fence present sameDevice
    have unclashing := granting.fenceFree activeDeviceIndex (by
      exact mem_cons_of_mem _ (mem_cons_of_mem _ (mem_singleton_self _))) fence present
    by_contra busy
    refine Table.Index.on_free_iff.mp unclashing claim.deviceId rfl
      (activeDevice_key_iff.mpr ⟨by simpa using busy, ?_⟩)
    exact sameDevice.trans (isDevice.trans granting.device.symm)
  have performed := Authority.perform_grant represents.available attemptId
    (word claim.generation) (digestText recipientDigest)
    (represents.dispatch.trans granting.enabled) isSession
    (instant_pos row.leaseUntil) (instant_pos grantExpiresAt) isGrant free
    queued
  refine ⟨_, _, Authority.performAll_single performed,
    { represents with messages := ?_, grants := ?_ }⟩
  · intro id
    refine .trans ?_ (seen_granted holds noFence id).1.symm
    split_ifs with isTarget
    · rw [isTarget, claimed]
      exact Finmap.lookup_insert _
    · exact (Finmap.lookup_insert_of_ne _ isTarget).trans (represents.messages id)
  · intro id
    refine .trans ?_ (seen_granted holds noFence id).2.symm
    split_ifs with isTarget
    · rw [isTarget]
      refine (Finmap.lookup_insert _).trans (congrArg some ?_)
      simp only [Authority.issue, DispatchFence.modelGrant, grantedFence,
        DeviceSession.modelSession, represents.epoch, isEpoch, isDevice,
        granting.device]
    · exact (Finmap.lookup_insert_of_ne _ isTarget).trans (represents.grants id)

theorem Represents.effect (effect : Effect deployment directory tables after) :
    Matched directory authority after := by
  have whole := effect
  cases effect with
  | connected isFirst inRange => exact represents.connect isFirst inRange
  | granted granting => exact represents.grant coherent distinct granting
  | reserved | claimed | closed | timedOut =>
    exact represents.grantless coherent whole ⟨rfl, rfl, fun _ => rfl⟩
  | released | followed | silenced =>
    refine represents.grantless coherent whole ⟨rfl, rfl, fun _ => ?_⟩
    change (filter _ (update _ _ tables.attempts)).length = _
    rw [filter_update (by intro row; rfl), update, length_map]

end

end Effects

/-- Every message has a key. -/
def Tables.Keyed (tables : Tables) : Prop :=
  ∀ message ∈ tables.messages, ∃ key ∈ tables.keys, key.messageId = message.id

/-- Keys of the same name have not expired. -/
def Unexpired (clock : Clock) (tables : Tables) (key : IdempotencyKey) : Prop :=
  ∀ old ∈ tables.keys, old.accountId = key.accountId → old.key = key.key → clock.now < old.expiresAt

/-- A key that is inserted without replacing one has a new name and a new
message. -/
theorem Unexpired.inserted (unexpired : Unexpired clock tables key) {keys : List IdempotencyKey}
    (inserted : insertedKeys clock key tables.keys = (.inserted, keys)) :
    keys = tables.keys ++ [key] ∧ tables.keySeen key.accountId key.key = none ∧
      ∀ old ∈ tables.keys, old.messageId ≠ key.messageId := by
  unfold insertedKeys at inserted
  simp only at inserted
  cases found : tables.keys.find? fun row =>
      row.accountId == key.accountId && row.key == key.key with
  | some old =>
    have isOld := find?_some found
    rw [Bool.and_eq_true, beq_iff_eq, beq_iff_eq] at isOld
    rw [found] at inserted
    simp only [unexpired old (mem_of_find?_eq_some found) isOld.1 isOld.2, if_true] at inserted
    cases (Prod.mk.inj inserted).1
  | none =>
    rw [found] at inserted
    split_ifs at inserted with taken
    · cases (Prod.mk.inj inserted).1
    · refine ⟨(Prod.mk.inj inserted).2.symm, ?_, ?_⟩
      · unfold keySeen
        rw [found]
        rfl
      · intro old present same
        refine taken (any_eq_true.mpr ⟨old, present, ?_⟩)
        have different := find?_eq_none.mp found old present
        simp [different, same]

theorem Represents.arrive (represents : Represents directory tables authority)
    (unexpired : Unexpired clock tables key) {keys : List IdempotencyKey}
    (inserted : insertedKeys clock key tables.keys = (.inserted, keys))
    (accepting : Accepting tables key row) : Matched directory authority
        { tables with
          keys, messages := tables.messages ++ [row]
          jobs := tables.jobs ++
            [newJob clock row.accountId row.deviceId row.id] } := by
  obtain ⟨rfl, freshKey, _⟩ := unexpired.inserted inserted
  have isFresh : tables.messages.find? (·.id == key.messageId) = none := by
    refine find?_eq_none.mpr fun other present => ?_
    rw [accepting.named, beq_iff_eq]
    exact accepting.fresh other present
  have freshMessage : authority.messages.lookup key.messageId = none := by
    rw [represents.messages]
    unfold stateSeen
    rw [isFresh]
    rfl
  have performed := Authority.perform_accept represents.available (digestText key.requestDigest)
    ((represents.keys key.accountId key.key).trans freshKey) freshMessage
  refine ⟨_, _, Authority.performAll_single performed,
    { represents with messages := ?_, keys := ?_ }⟩
  · intro id
    unfold stateSeen
    simp only [find?_append]
    by_cases isTarget : id = key.messageId
    · rw [isTarget, Finmap.lookup_insert, isFresh]
      simp [accepting.named, modelState, accepting.queued]
    · rw [Finmap.lookup_insert_of_ne _ isTarget, represents.messages]
      have different : (row.id == id) = false := by
        rw [beq_eq_false_iff_ne, ← accepting.named]
        exact fun same => isTarget same.symm
      simp only [find?_singleton, different, Bool.false_eq_true, if_false, Option.or_none]
      rfl
  · intro accountId name
    unfold keySeen at freshKey ⊢
    simp only [find?_append]
    by_cases isTarget : (accountId, name) = (key.accountId, key.key)
    · obtain ⟨rfl, rfl⟩ := Prod.mk.inj isTarget
      rw [Finmap.lookup_insert, Option.map_eq_none_iff.mp freshKey]
      simp
    · rw [Finmap.lookup_insert_of_ne _ isTarget, represents.keys]
      have different : (key.accountId == accountId && key.key == name) =
          false := by
        rw [Bool.eq_false_iff, ne_eq, Bool.and_eq_true, beq_iff_eq, beq_iff_eq]
        rintro ⟨rfl, rfl⟩
        exact isTarget rfl
      simp only [find?_singleton, different, Bool.false_eq_true, if_false, Option.or_none]
      rfl

/-- Under fresh keys an arrival brings in a message. -/
theorem Represents.arrival {after : Tables} (represents : Represents directory tables authority)
    (keyed : tables.Keyed) (unexpired : Unexpired clock tables key)
    (arrival : Arrival clock key tables after) : after.Keyed ∧ after.sessions = tables.sessions ∧
      Matched directory authority after := by
  cases arrival with
  | known inserted isKnown =>
    obtain ⟨message, present, isId⟩ := isKnown
    obtain ⟨old, listed, isOld⟩ := keyed message present
    exact absurd (isOld.trans isId) ((unexpired.inserted inserted).2.2 old listed)
  | created inserted accepting =>
    refine ⟨?_, rfl, represents.arrive unexpired inserted accepting⟩
    obtain ⟨rfl, _⟩ := unexpired.inserted inserted
    intro message present
    rcases mem_append.mp present with old | isNew
    · obtain ⟨own, listed, isOwn⟩ := keyed message old
      exact ⟨own, mem_append_left _ listed, isOwn⟩
    · rw [mem_singleton.mp isNew]
      exact ⟨key, mem_append_right _ (mem_singleton_self _), accepting.named⟩

/-! ## Runs -/

section Runs

variable {after : Tables}

/-- What the match with the authority rests on. -/
structure Refinable (tables : Tables) : Prop where
  coherent : tables.Coherent
  distinct : (tables.sessions.map (·.deviceId)).Nodup
  keyed : tables.Keyed

theorem map_deviceId_upsertSession {sessions : List DeviceSession}
    (distinct : (sessions.map (·.deviceId)).Nodup) :
    ((upsertSession session sessions).1.map (·.deviceId)).Nodup := by
  unfold upsertSession
  cases found : sessions.find? (·.deviceId == session.deviceId) with
  | none =>
    simp only [map_append, map_cons, map_nil]
    refine nodup_append.mpr ⟨distinct, nodup_singleton _, ?_⟩
    intro id listed _ isNew
    rw [mem_singleton.mp isNew]
    obtain ⟨row, present, rfl⟩ := mem_map.mp listed
    exact fun same => find?_eq_none.mp found row present (by simp [same])
  | some prior =>
    have keeps : (update (·.deviceId == session.deviceId) (fun _ => { session with
          connectionEpoch := prior.connectionEpoch + 1 }) sessions).map
            (·.deviceId) = sessions.map (·.deviceId) := by
      unfold update
      rw [map_map]
      refine map_congr_left fun row _ => ?_
      simp only [Function.comp_apply]
      split_ifs with selected
      · exact (beq_iff_eq.mp selected).symm
      · rfl
    simp only [keeps]
    exact distinct

theorem Effect.refinable (effect : Effect deployment directory tables after)
    (refinable : Refinable tables) : Refinable after := by
  refine ⟨effect.coherent refinable.coherent, ?_, ?_⟩
  · cases effect with
    | connected => exact map_deviceId_upsertSession refinable.distinct
    | _ => exact refinable.distinct
  · have kept : ∀ selects : Message → Bool, ∀ state time,
        ∀ message ∈ update selects (Message.moveTo state time)
          tables.messages, ∃ key ∈ tables.keys, key.messageId = message.id := by
      intro selects state time message present
      have keeps : ∀ row : Message, (row.moveTo state time).id = row.id := fun _ => rfl
      obtain ⟨old, listed, isOld⟩ := (exists_update_iff keeps).mp ⟨message, present, rfl⟩
      rw [← isOld]
      exact refinable.keyed old listed
    cases effect with
    | reserved | connected | granted => exact refinable.keyed
    | claimed | closed | released | followed | silenced | timedOut =>
      exact kept _ _ _

theorem Effects.refinable (effects : Effects deployment directory tables after)
    (refinable : Refinable tables) : Refinable after := by
  induction effects with
  | refl => exact refinable
  | tail _ effect ih => exact effect.refinable ih

/-- Keys that a step brings in do not replace expired ones. -/
def Step.KeysFresh (deployment : Deployment) (tables : Tables) (next : Step) : Prop :=
  match next.key deployment with
  | none => True
  | some (clock, key) => Unexpired clock tables key

/-- A run in which no key replaces an expired one. -/
def World.FreshKeys (deployment : Deployment) (world : World) : List Step → Prop
  | [] => True
  | next :: rest =>
    next.KeysFresh deployment world.tables ∧ (world.step deployment next).FreshKeys deployment rest

/-- The authority follows a step by calls that are not refused; where the
deployment is administered, its public fields are set. -/
def Follows (authority : Authority) (next : Step) (after : Authority) : Prop :=
  match next with
  | .administer directory _ _ => after =
      { authority with
        dispatchEnabled := directory.dispatchEnabled
        deploymentEpoch := word directory.deploymentEpoch }
  | _ => ∃ calls, authority.performAll calls = .ok after

/-- Along a run the authority is what the tables stand for, and it follows
every step. -/
inductive Simulates (deployment : Deployment) : World → Authority → List Step → Prop
  | done {world : World} {authority : Authority} :
      Represents world.directory world.tables authority → Simulates deployment world authority []
  | step {world : World} {authority after : Authority} {next : Step} {rest : List Step} :
      Represents world.directory world.tables authority → Follows authority next after →
      Simulates deployment (world.step deployment next) after rest →
      Simulates deployment world authority (next :: rest)

variable {world : World}

theorem Represents.effects (represents : Represents directory tables authority)
    (refinable : Refinable tables) (effects : Effects deployment directory tables after) :
    Matched directory authority after := by
  induction effects with
  | refl => exact ⟨[], authority, rfl, represents⟩
  | tail earlier effect ih =>
    have middle := Effects.refinable earlier refinable
    exact ih.bind fun _ isNext => isNext.effect middle.coherent middle.distinct effect

section

variable (represents : Represents world.directory world.tables authority)
  (refinable : Refinable world.tables)

include represents refinable

/-- A committed transaction is matched by calls. -/
theorem Represents.committed {next : Step} (fresh : next.KeysFresh deployment world.tables)
    (committed : world.Committed deployment next after) :
    Refinable after ∧ Matched world.directory authority after := by
  obtain ⟨arrived, arrival, effects⟩ := committed
  rcases arrival with rfl | ⟨clock, key, isKey, arrival⟩
  · exact ⟨effects.refinable refinable, represents.effects refinable effects⟩
  · unfold Step.KeysFresh at fresh
    rw [isKey] at fresh
    obtain ⟨keyed, sessions, isMatched⟩ := represents.arrival refinable.keyed fresh arrival
    have middleRefinable : Refinable arrived :=
      ⟨arrival.coherent refinable.coherent, sessions ▸ refinable.distinct, keyed⟩
    refine ⟨effects.refinable middleRefinable, isMatched.bind fun _ middleRepresents => ?_⟩
    exact middleRepresents.effects middleRefinable effects

theorem Represents.step {next : Step} (fresh : next.KeysFresh deployment world.tables) :
    Refinable (world.step deployment next).tables ∧ ∃ final, Follows authority next final ∧
        Represents (world.step deployment next).directory
          (world.step deployment next).tables final := by
  cases isTransaction : next.isTransaction with
  | true =>
    obtain ⟨afterRefinable, calls, final, performs, finalRepresents⟩ :=
      represents.committed refinable fresh (World.committed refinable.coherent isTransaction)
    refine ⟨afterRefinable, final, ?_, ?_⟩
    · cases next <;> first | exact ⟨calls, performs⟩ | cases isTransaction
    · cases next <;> first | exact finalRepresents | cases isTransaction
  | false =>
    cases next with
    | administer directory sites limits =>
      refine ⟨⟨refinable.coherent.administered sites _,
        refinable.distinct, refinable.keyed⟩, _, rfl,
        { represents with dispatch := rfl, epoch := rfl }⟩
    | _ => cases isTransaction

theorem Represents.run (fresh : world.FreshKeys deployment steps) :
    Simulates deployment world authority steps := by
  induction steps generalizing world authority with
  | nil => exact .done represents
  | cons next rest ih =>
    obtain ⟨nextRefinable, final, follows, nextRepresents⟩ := represents.step refinable fresh.1
    exact .step represents follows (ih nextRepresents nextRefinable fresh.2)

end

end Runs

/-- Every run of the store in which no key replaces an expired one is a run of
the authority: each committed transaction is matched by calls that are not
refused, and they end in what the tables then stand for. -/
theorem delivery_store_refines_authority (deployment : Deployment) (directory : Directory)
    (steps : List Step) (fresh : (World.start directory).FreshKeys deployment steps) :
    Simulates deployment (World.start directory)
      { Authority.new (word directory.deploymentEpoch) with
        dispatchEnabled := directory.dispatchEnabled } steps := by
  have refinable : Refinable (World.start directory).tables := by
    refine ⟨empty_coherent, nodup_nil, ?_⟩
    rintro _ ⟨⟩
  refine Represents.run ?_ refinable fresh
  exact
    { available := rfl, dispatch := rfl, epoch := rfl
      messages := fun _ => rfl
      grants := fun _ => rfl
      sessions := fun _ => rfl
      keys := fun _ _ => rfl }

/-- The authority follows a message from its acceptance to its report. -/
theorem delivery_store_refines_authority_drill :
    Simulates Drill.deployment (World.start Drill.directory)
      { Authority.new (word Drill.directory.deploymentEpoch) with
        dispatchEnabled := Drill.directory.dispatchEnabled } Drill.sending := by
  refine delivery_store_refines_authority Drill.deployment Drill.directory
    Drill.sending ⟨?_, trivial, trivial, trivial, trivial, trivial, trivial⟩
  rintro _ ⟨⟩

end Zrotext.Delivery
