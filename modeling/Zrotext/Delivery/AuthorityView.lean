import Zrotext.Delivery.Transactions
import Zrotext.Domain.Authority

/-!
# What the authority sees of the store

The tables stand for a state of the domain's authority.  A claim is a
preparation that the authority does not see: a claimed message without a fence
is still queued there.
-/

namespace Zrotext.Delivery

open Domain Foundation Transaction List

/-- A number of the store as a word. -/
def word (count : Nat) : U64 := Fin.ofNat (2 ^ 64) count

/-- A moment as a word, in milliseconds and never zero. -/
def instant (time : Time) : U64 := ⟨max 1 (min (toMillis time).toNat (2 ^ 64 - 1)), by omega⟩

/-- A digest as a text. -/
def digestText (bytes : Bytes) : Text := bytes.flatMap fun byte => Text.hexadecimal 2 byte.toNat

/-- A fence is a grant. -/
def DispatchFence.modelGrant (fence : DispatchFence) : Grant :=
  { messageId := fence.messageId, attemptId := fence.attemptId, deviceId := fence.deviceId
    sessionEpoch := word fence.sessionEpoch, deploymentEpoch := word fence.deploymentEpoch
    generation := word fence.generation, recipientDigest := digestText fence.recipientDigest
    expiresAtMs := instant fence.grantExpiresAt }

/-- The session of a row. -/
def DeviceSession.modelSession (row : DeviceSession) : Session :=
  { deviceId := row.deviceId, siteId := row.siteId, instanceId := row.instanceId
    epoch := word row.connectionEpoch, leaseUntilMs := instant row.leaseUntil }

variable (tables : Tables)

/-- A claimed message without a fence is queued. -/
def Tables.modelState (message : Message) : MessageState :=
  if message.state = .claimed ∧ ¬ tables.fences.any (·.messageId == message.id) then
    .queued
  else
    message.state

/-- The state of a message that the authority sees. -/
def Tables.stateSeen (id : Uuid) : Option MessageState :=
  (tables.messages.find? (·.id == id)).map tables.modelState

/-- The grant of a message that the authority sees. -/
def Tables.grantSeen (id : Uuid) : Option Grant :=
  (tables.fences.find? (·.messageId == id)).map DispatchFence.modelGrant

/-- The session of a device. -/
def Tables.sessionSeen (id : Uuid) : Option Session :=
  (tables.sessions.find? (·.deviceId == id)).map DeviceSession.modelSession

/-- What an idempotency key stands for. -/
def Tables.keySeen (accountId : Uuid) (key : Text) : Option (Text × Uuid) :=
  (tables.keys.find? fun row =>
    row.accountId == accountId && row.key == key).map fun row =>
      (digestText row.requestDigest, row.messageId)

/-- The authority that the tables stand for. -/
structure Represents (directory : Directory) (tables : Tables) (authority : Authority) : Prop where
  available : authority.writerAvailable = true
  dispatch : authority.dispatchEnabled = directory.dispatchEnabled
  epoch : authority.deploymentEpoch = word directory.deploymentEpoch
  messages : ∀ id, authority.messages.lookup id = tables.stateSeen id
  grants : ∀ id, authority.grants.lookup id = tables.grantSeen id
  sessions : ∀ id, authority.sessions.lookup id = tables.sessionSeen id
  keys : ∀ accountId key, authority.idempotency.lookup (accountId, key) =
    tables.keySeen accountId key

/-- Calls that are not refused lead an authority to what tables stand for. -/
def Matched (directory : Directory) (authority : Authority) (after : Tables) : Prop :=
  ∃ calls next, authority.performAll calls = .ok next ∧ Represents directory after next

theorem Matched.bind {after : Tables} (first : Matched directory authority middle)
    (rest : ∀ next, Represents directory middle next → Matched directory next after) :
    Matched directory authority after := by
  obtain ⟨calls, next, performs, represents⟩ := first
  obtain ⟨later, final, performsLater, finalRepresents⟩ := rest next represents
  exact ⟨calls ++ later, final, Authority.performAll_append performs performsLater,
    finalRepresents⟩

namespace Record

variable {record : Record}

/-- The state that the authority sees. -/
def modelState (record : Record) : MessageState :=
  if record.message.state = .claimed ∧ record.fence = none then
    .queued
  else
    record.message.state

/-- The grant that the authority sees. -/
def modelGrant (record : Record) : Option Grant := record.fence.map DispatchFence.modelGrant

theorem modelState_of_fence {fence : DispatchFence} (isFence : record.fence = some fence) :
    record.modelState = record.message.state := by
  unfold modelState
  rw [if_neg]
  rintro ⟨_, isNone⟩
  cases isFence.symm.trans isNone

theorem modelGrant_of_fence {fence : DispatchFence} (isFence : record.fence = some fence) :
    record.modelGrant = some fence.modelGrant := by
  rw [modelGrant, isFence]
  rfl

theorem modelState_of_pending (pending : isPending record.message.state)
    (noFence : record.fence = none) : record.modelState = .queued := by
  unfold modelState
  generalize record.message.state = state at pending
  cases state <;> simp_all [isPending]

theorem isEnding_of_code {evidence : Evidence} (isCode : evidenceCode evidence = some code) :
    Authority.isEnding evidence = false := by
  cases evidence <;> first | rfl | cases isCode

/-- A report that a message follows is at most one event. -/
theorem Reports.reaches {fence : DispatchFence}
    (reports : record.Reports deployment event code state fence)
    (notProof : event.evidence ≠ .provenNoSubmit) (grant : Option Grant) :
    Authority.Reaches record.message.state grant state grant := by
  cases (radioState_eq_ok_iff.mp reports.transition).2 with
  | failed _ _ waits =>
    exact .keeping (apply_sentCallbackFailed_iff.mpr ⟨waits, rfl⟩) nofun nofun
  | lost _ _ _ waits =>
    rcases awaitsCallbacks_iff.mp waits with isState | isState
    · exact .keeping (apply_partialSentCallbacks_iff.mpr ⟨isState, rfl⟩)
        nofun nofun
    · rw [isState]
      exact .stays
  | complete _ _ _ waits =>
    exact .keeping (apply_sentCallbackOk_iff.mpr ⟨waits, rfl⟩) nofun nofun
  | waiting => exact .stays
  | applied _ applied =>
    exact .keeping applied (by simp [isEnding_of_code reports.isCode]) notProof

theorem isSilent_applies (silent : isSilent clock row) :
    ∃ evidence, row.message.state.apply evidence = .ok .unknown ∧
      Authority.isEnding evidence = false ∧ evidence ≠ .provenNoSubmit := by
  simp only [isSilent, Bool.and_eq_true, Bool.or_eq_true, beq_iff_eq]
    at silent
  rcases silent.2 with granted | submitting
  · exact ⟨.grantTimeout, by rw [granted.1.1]; rfl, rfl, nofun⟩
  · exact ⟨.sentCallbackTimeout, by rw [submitting.1.1]; rfl, rfl, nofun⟩

/-- A step of a record that grants nothing is at most one event. -/
theorem Step.reaches {next : Record} (step : record.Step deployment next)
    (coherent : record.Coherent)
    (ungranted : next.attempts.length = record.attempts.length) :
    Authority.Reaches record.modelState record.modelGrant next.modelState next.modelGrant := by
  cases step with
  | reserve => exact .stays
  | claim isFree pending =>
    have noFence := coherent.fence_eq_none isFree
    rw [modelState_of_pending pending noFence, modelState_of_pending (by rfl) (by exact noFence)]
    exact .stays
  | close isEnd isFree pending =>
    have noFence := coherent.fence_eq_none isFree
    rw [modelState_of_pending pending noFence]
    have isNone : record.modelGrant = none := by
      rw [modelGrant, noFence]
      rfl
    rcases isEnd with rfl | rfl
    · exact @Authority.Reaches.keeping .cancel _ _ _ rfl (fun _ => isNone) nofun
    · exact @Authority.Reaches.keeping .expire _ _ _ rfl (fun _ => isNone) nofun
  | grant =>
    rw [length_append] at ungranted
    simp at ungranted
  | @release clock event code state fence reports isProof =>
    have isQueued := (radioState_provenNoSubmit isProof reports.transition).1
    have applied : record.message.state.apply .provenNoSubmit = .ok state := by
      cases (radioState_eq_ok_iff.mp reports.transition).2 with
      | applied _ applied => exact isProof ▸ applied
      | failed isEvidence | lost isEvidence | complete isEvidence
      | waiting isEvidence => cases isProof.symm.trans isEvidence
    rw [modelState_of_fence reports.fenced]
    rw [isQueued] at applied ⊢
    exact .moves applied nofun
  | @follow clock event code state fence status reports notProof isStatus =>
    rw [modelState_of_fence reports.fenced,
      modelGrant_of_fence reports.fenced, modelState_of_fence rfl,
      modelGrant_of_fence rfl]
    exact reports.reaches notProof _
  | @silence clock fence attempt id isFence present isHolder silent =>
    obtain ⟨evidence, applies, notEnding, notProof⟩ := isSilent_applies silent
    rw [modelState_of_fence isFence, modelGrant_of_fence isFence,
      modelState_of_fence rfl, modelGrant_of_fence rfl]
    exact .keeping applies (by simp [notEnding]) notProof
  | @timeOut clock fence attempt id isFence present isHolder lacks =>
    simp only [lacksReceipt, Bool.and_eq_true, beq_iff_eq] at lacks
    rw [modelState_of_fence isFence, modelState_of_fence (by exact isFence), lacks.1.1.1.1]
    exact @Authority.Reaches.keeping .deliveryTimeout _ _ _ rfl (by rintro ⟨⟩) (by rintro ⟨⟩)

end Record

section Tables

variable {tables after : Tables} {id : Uuid}

theorem Tables.Holds.any_fence (holds : tables.Holds id record) :
    tables.fences.any (·.messageId == id) = record.fence.isSome := by
  cases isFence : record.fence with
  | none =>
    have empty := holds.fences
    rw [isFence] at empty
    exact any_eq_false.mpr (filter_eq_nil_iff.mp empty)
  | some fence =>
    obtain ⟨present, isId⟩ := holds.mem_fence isFence
    exact any_eq_true.mpr ⟨fence, present, by simpa using isId⟩

theorem Tables.Holds.stateSeen (holds : tables.Holds id record) :
    tables.stateSeen id = some record.modelState := by
  unfold Tables.stateSeen
  rw [← head?_filter, holds.messages]
  simp only [head?_cons, Option.map_some, Option.some.injEq]
  unfold Tables.modelState Record.modelState
  rw [holds.message_mem.2, holds.any_fence]
  simp

theorem Tables.Holds.grantSeen (holds : tables.Holds id record) :
    tables.grantSeen id = record.modelGrant := by
  unfold Tables.grantSeen Record.modelGrant
  rw [← head?_filter, holds.fences]
  cases record.fence <;> rfl

theorem Tables.Lacks.stateSeen (lacks : tables.Lacks id) : tables.stateSeen id = none := by
  unfold Tables.stateSeen
  rw [← head?_filter, lacks.messages]
  rfl

theorem Tables.Lacks.grantSeen (lacks : tables.Lacks id) : tables.grantSeen id = none := by
  unfold Tables.grantSeen
  rw [← head?_filter, lacks.fences]
  rfl

/-- Messages that reach what the authority sees of them by at most one event
each. -/
theorem Represents.reach (represents : Represents directory tables authority)
    (coherent : tables.Coherent)
    (sameSessions : after.sessions = tables.sessions) (sameKeys : after.keys = tables.keys)
    (touches : ∀ id, tables.Agrees after id ∨
      ∃ record next, tables.Holds id record ∧ after.Holds id next ∧
        Authority.Reaches record.modelState record.modelGrant next.modelState next.modelGrant) :
    Matched directory authority after := by
  have distinct : (tables.messages.map (·.id)).Nodup :=
    Table.nodup_map_of_filter coherent.messages_le_one
  have moved : ∀ id, (tables.Lacks id ∧ after.Lacks id) ∨ ∃ record next,
      tables.Holds id record ∧ after.Holds id next ∧
        Authority.Reaches record.modelState record.modelGrant next.modelState
          next.modelGrant := by
    intro id
    rcases touches id with agrees | reached
    · exact (coherent.described id).imp (fun lacks => ⟨lacks, agrees.lacks lacks⟩)
        fun ⟨record, holds, _⟩ => ⟨record, record, holds, agrees.holds holds, .stays⟩
    · exact .inr reached
  have unlisted : ∀ {id}, tables.Lacks id → id ∉ tables.messages.map (·.id) := by
    rintro _ lacks listed
    obtain ⟨message, stored, rfl⟩ := mem_map.mp listed
    exact filter_eq_nil_iff.mp lacks.messages message stored (by simp)
  have listed : ∀ {id record}, tables.Holds id record → id ∈ tables.messages.map (·.id) :=
    fun {_ record} holds => mem_map.mpr ⟨record.message, holds.message_mem⟩
  obtain ⟨calls, next, performs, frames, others, reached⟩ :=
    Authority.performAll_reaches_all represents.available distinct
      (fun id => ((after.stateSeen id).getD .queued, after.grantSeen id)) (by
        intro id isListed
        obtain ⟨record, final, holds, finalHolds, reaches⟩ :=
          (moved id).resolve_left fun lacks => unlisted lacks.1 isListed
        refine ⟨record.modelState, ?_, ?_⟩
        · rw [represents.messages, holds.stateSeen]
        · rw [represents.grants, holds.grantSeen, finalHolds.stateSeen, finalHolds.grantSeen]
          exact reaches)
  refine ⟨calls, next, performs,
    { available := frames.writerAvailable.trans represents.available
      dispatch := frames.dispatchEnabled.trans represents.dispatch
      epoch := frames.deploymentEpoch.trans represents.epoch, messages := ?_, grants := ?_
      sessions := ?_, keys := ?_ }⟩
  · intro id
    rcases moved id with ⟨lacks, afterLacks⟩ | ⟨_, final, holds, finalHolds, _⟩
    · rw [(others id (unlisted lacks)).1, represents.messages, lacks.stateSeen,
        afterLacks.stateSeen]
    · rw [(reached id (listed holds)).1, finalHolds.stateSeen]
      rfl
  · intro id
    rcases moved id with ⟨lacks, afterLacks⟩ | ⟨_, _, holds, _⟩
    · rw [(others id (unlisted lacks)).2, represents.grants, lacks.grantSeen,
        afterLacks.grantSeen]
    · exact (reached id (listed holds)).2
  · intro id
    rw [frames.sessions, represents.sessions]
    unfold Tables.sessionSeen
    rw [sameSessions]
  · intro accountId key
    rw [frames.idempotency, represents.keys]
    unfold Tables.keySeen
    rw [sameKeys]

end Tables

end Zrotext.Delivery
