import Zrotext.Domain.Authority
import Zrotext.Foundation.Transaction

/-!
# The conduct of the authority

The calls as they change the authority in place, statement by statement, so
that a refused call could leave a change behind, and what any sequence of calls
and changes of the public fields does to it.
-/

namespace Zrotext.Domain
namespace Authority

open Foundation Transaction

/-- A call that changes the authority in place. -/
abbrev Mutation (α : Type) := Transaction Rejection Authority α

namespace Mutation

/-- Accept a message; the key is recorded before the message. -/
def accept (accountId : Identifier) (key requestDigest : Text)
    (messageId : Identifier) : Mutation Identifier := do
  let authority ← get
  refuse .writerUnavailable (!authority.writerAvailable)
  match authority.idempotency.lookup (accountId, key) with
  | some (digest, existingId) =>
    refuse .duplicateKeyDifferentRequest (decide (digest ≠ requestDigest))
    return existingId
  | none =>
    refuse .messageIdConflict (decide (messageId ∈ authority.messages))
    modify fun authority =>
      { authority with
        idempotency := authority.idempotency.insert (accountId, key)
          (requestDigest, messageId) }
    modify fun authority =>
      { authority with
        messages := authority.messages.insert messageId .queued }
    return messageId

/-- Connect a device in a new session. -/
def connect (deviceId : Identifier) (siteId instanceId : Text)
    (nowMs leaseMs : U64) : Mutation Session := do
  let authority ← get
  refuse .writerUnavailable (!authority.writerAvailable)
  let epoch ← demand .invalidSessionRange (authority.nextEpoch deviceId)
  let leaseUntilMs ← demand .invalidSessionRange (Word.checkedAdd nowMs leaseMs)
  let session : Session := { deviceId, siteId, instanceId, epoch, leaseUntilMs }
  modify fun authority =>
    { authority with sessions := authority.sessions.insert deviceId session }
  return session

/-- Grant a message; the grant is recorded before the claim. -/
def grant (session : Session) (messageId attemptId : Identifier) (generation : U64)
    (recipientDigest : Text) (nowMs expiresAtMs : U64) : Mutation Grant := do
  let authority ← get
  refuse .writerUnavailable (!authority.writerAvailable)
  refuse .dispatchDisabled (!authority.dispatchEnabled)
  refuse .sessionStale (decide (authority.sessions.lookup session.deviceId ≠ some session))
  refuse .leaseExpired (decide (session.leaseUntilMs ≤ nowMs ∨ expiresAtMs ≤ nowMs))
  refuse .grantAlreadyIssued (decide (messageId ∈ authority.grants))
  refuse .deviceBusy (decide (authority.DeviceBusy session.deviceId))
  refuse .invalidState (decide (authority.messages.lookup messageId ≠ some .queued))
  let grant :=
    authority.issue session messageId attemptId generation recipientDigest expiresAtMs
  modify fun authority =>
    { authority with grants := authority.grants.insert messageId grant }
  modify fun authority =>
    { authority with
      messages := authority.messages.insert messageId .claimed }
  return grant

/-- Apply evidence; the state changes before a grant is taken back. -/
def event (messageId : Identifier) (evidence : Evidence) : Mutation MessageState := do
  let authority ← get
  refuse .writerUnavailable (!authority.writerAvailable)
  refuse .grantAlreadyIssued (decide (isEnding evidence = true ∧ messageId ∈ authority.grants))
  let state ← demand .invalidState (authority.messages.lookup messageId)
  let next ← compute ((state.apply evidence).mapError fun _ => .invalidState)
  modify fun authority =>
    { authority with messages := authority.messages.insert messageId next }
  onlyIf (evidence = .provenNoSubmit) (modify fun authority =>
    { authority with grants := authority.grants.erase messageId })
  return next

end Mutation

/-- A call in place does what a result says, and nothing if it is refused. -/
def Renders {α : Type} (mutation : Mutation α) (authority : Authority)
    (result : Except Rejection (α × Authority)) : Prop :=
  Leads mutation (fun value after => result = .ok (value, after))
    (fun rejection after => result = .error rejection ∧ after = authority)
    authority

variable (authority : Authority)

/-- Accepting in place does what accepting does. -/
theorem renders_accept (accountId : Identifier) (key requestDigest : Text)
    (messageId : Identifier) :
    Renders (Mutation.accept accountId key requestDigest messageId) authority
      (authority.accept accountId key requestDigest messageId) := by
  unfold Renders Mutation.accept Authority.accept
  simp only [leads_bind, leads_get, leads_refuse, Bool.not_eq_false', Bool.not_eq_true']
  constructor
  · intro available
    rw [if_neg (not_not.mpr available)]
    cases found : authority.idempotency.lookup (accountId, key) with
    | some entry =>
      simp only [leads_bind, leads_refuse, leads_pure, decide_eq_false_iff_not,
        decide_eq_true_eq, not_not]
      exact ⟨fun same => if_pos same, fun different => ⟨if_neg different, trivial⟩⟩
    | none =>
      simp only [leads_bind, leads_refuse, leads_modify, leads_pure,
        decide_eq_false_iff_not, decide_eq_true_eq]
      exact ⟨fun isNew => if_neg isNew, fun known => ⟨if_pos known, trivial⟩⟩
  · intro unavailable
    exact ⟨if_pos (by simp [unavailable]), trivial⟩

/-- Connecting in place does what connecting does. -/
theorem renders_connect (deviceId : Identifier) (siteId instanceId : Text)
    (nowMs leaseMs : U64) : Renders (Mutation.connect deviceId siteId instanceId nowMs leaseMs)
      authority (authority.connect deviceId siteId instanceId nowMs leaseMs) := by
  unfold Renders Mutation.connect Authority.connect
  simp only [leads_bind, leads_get, leads_refuse, leads_demand, leads_modify,
    leads_pure, Bool.not_eq_false', Bool.not_eq_true']
  constructor
  · intro available
    rw [if_neg (not_not.mpr available)]
    refine ⟨fun epoch isEpoch => ⟨fun leaseUntilMs isLease => ?_,
      fun noLease => ⟨?_, trivial⟩⟩, fun noEpoch => ⟨?_, trivial⟩⟩
    · simp only [isEpoch, isLease]
    · simp only [isEpoch, noLease]
    · simp only [noEpoch]
  · intro unavailable
    exact ⟨if_pos (by simp [unavailable]), trivial⟩

/-- Granting in place does what granting does. -/
theorem renders_grant (session : Session) (messageId attemptId : Identifier)
    (generation : U64) (recipientDigest : Text) (nowMs expiresAtMs : U64) :
    Renders (Mutation.grant session messageId attemptId generation
        recipientDigest nowMs expiresAtMs) authority
      (authority.grant session messageId attemptId generation recipientDigest
        nowMs expiresAtMs) := by
  unfold Renders Mutation.grant Authority.grant
  simp only [leads_bind, leads_get, leads_refuse, leads_modify, leads_pure,
    decide_eq_false_iff_not, decide_eq_true_eq, Bool.not_eq_false',
    Bool.not_eq_true']
  split_ifs <;> simp_all

/-- An event in place does what the event does. -/
theorem renders_event (messageId : Identifier) (evidence : Evidence) :
    Renders (Mutation.event messageId evidence) authority (authority.event messageId evidence) := by
  unfold Renders Mutation.event Authority.event move
  simp only [leads_bind, leads_get, leads_refuse, leads_demand, leads_compute,
    leads_onlyIf, leads_modify, leads_pure, decide_eq_false_iff_not,
    decide_eq_true_eq, Bool.not_eq_false', Bool.not_eq_true']
  refine ⟨fun available => ?_, fun unavailable => ⟨if_pos (by simp [unavailable]), trivial⟩⟩
  rw [if_neg (not_not.mpr available)]
  refine ⟨fun permitted => ?_, fun refused => ⟨if_pos refused, trivial⟩⟩
  rw [if_neg permitted]
  refine ⟨fun state isState => ?_, fun absent => ⟨?_, trivial⟩⟩
  · simp only [isState]
    cases state.apply evidence with
    | error failure => simp [Except.mapError]
    | ok next =>
      refine ⟨fun value isValue => ?_, fun failure impossible => ?_⟩
      · cases isValue
        exact ⟨fun isProof => by rw [if_pos isProof], fun notProof => by rw [if_neg notProof]⟩
      · cases impossible
  · simp only [absent]

/-- What a call answers. -/
inductive Answer
  | message (id : Identifier)
  | session (session : Session)
  | grant (grant : Grant)
  | state (state : MessageState)
deriving DecidableEq

/-- A call with its answer and the authority that it leaves. -/
def respond : Call → Except Rejection Answer × Authority
  | .accept accountId key requestDigest messageId =>
    ((Mutation.accept accountId key requestDigest messageId).perform
      authority).map (·.map Answer.message) id
  | .connect deviceId siteId instanceId nowMs leaseMs =>
    ((Mutation.connect deviceId siteId instanceId nowMs leaseMs).perform
      authority).map (·.map Answer.session) id
  | .grant session messageId attemptId generation recipientDigest nowMs expiresAtMs =>
    ((Mutation.grant session messageId attemptId generation recipientDigest
      nowMs expiresAtMs).perform authority).map (·.map Answer.grant) id
  | .event messageId evidence =>
    ((Mutation.event messageId evidence).perform authority).map (·.map Answer.state) id

/-- What a call that is not refused does. -/
inductive Transition (authority : Authority) : Call → Answer → Authority → Prop
  | replayed {accountId key digest messageId existingId} :
      authority.idempotency.lookup (accountId, key) = some (digest, existingId) →
      Transition authority (.accept accountId key digest messageId) (.message existingId) authority
  | accepted {accountId key digest messageId} :
      authority.idempotency.lookup (accountId, key) = none → messageId ∉ authority.messages →
      Transition authority (.accept accountId key digest messageId) (.message messageId)
        (authority.queue accountId key digest messageId)
  | connected {deviceId siteId instanceId nowMs leaseMs} {session : Session} :
      session.deviceId = deviceId → (∀ prior, authority.sessions.lookup deviceId = some prior →
        prior.epoch < session.epoch) →
      Transition authority (.connect deviceId siteId instanceId nowMs leaseMs) (.session session)
        { authority with
          sessions := authority.sessions.insert deviceId session }
  | granted {session messageId attemptId generation recipientDigest nowMs
      expiresAtMs} {grant : Grant} : authority.sessions.lookup session.deviceId = some session →
      messageId ∉ authority.grants → authority.messages.lookup messageId = some .queued →
      grant.sessionEpoch = session.epoch → Transition authority
        (.grant session messageId attemptId generation recipientDigest nowMs expiresAtMs)
        (.grant grant) (authority.claim messageId grant)
  | moved {messageId evidence state next} : authority.messages.lookup messageId = some state →
      state.apply evidence = .ok next → (isEnding evidence = true → messageId ∉ authority.grants) →
      Transition authority (.event messageId evidence) (.state next)
        (authority.move messageId evidence next)

variable {authority : Authority}

theorem transition_accept {id : Identifier}
    (result : authority.accept accountId key requestDigest messageId = .ok (id, after)) :
    Transition authority (.accept accountId key requestDigest messageId) (.message id) after := by
  unfold accept at result
  split at result
  case isTrue => cases result
  case isFalse =>
    split at result
    case h_1 digest existingId found =>
      split_ifs at result with same
      cases result
      exact .replayed (same ▸ found)
    case h_2 absent =>
      split_ifs at result with known
      cases result
      exact .accepted absent known

theorem lt_of_checkedAdd_one {word : U64} (isNext : Word.checkedAdd word 1 = some next) :
    word < next := by
  have isSum := Word.checkedAdd_eq_some_iff.mp isNext
  rw [Fin.lt_def, isSum]
  exact Nat.lt_succ_self word.val

theorem transition_connect {instanceId : Text}
    (result : authority.connect deviceId siteId instanceId nowMs leaseMs =
      .ok (session, after)) :
    Transition authority (.connect deviceId siteId instanceId nowMs leaseMs)
      (.session session) after := by
  unfold connect at result
  split_ifs at result
  simp only at result
  split at result
  case h_2 => cases result
  case h_1 epoch leaseUntilMs isEpoch isLease =>
    cases result
    have increases : ∀ prior, authority.sessions.lookup deviceId = some prior →
        prior.epoch < epoch := by
      intro prior isPrior
      rw [nextEpoch, isPrior] at isEpoch
      exact lt_of_checkedAdd_one isEpoch
    exact .connected rfl increases

theorem transition_grant (result : authority.grant session messageId attemptId generation
      recipientDigest nowMs expiresAtMs = .ok (issued, after)) :
    Transition authority (.grant session messageId attemptId generation recipientDigest nowMs
        expiresAtMs) (.grant issued) after := by
  unfold grant at result
  split_ifs at result with _ _ stale _ known _ notQueued
  cases result
  exact .granted (not_not.mp stale) known (not_not.mp notQueued) rfl

theorem transition_event (result : authority.event messageId evidence = .ok (next, after)) :
    Transition authority (.event messageId evidence) (.state next) after := by
  unfold event at result
  split at result
  case isTrue => cases result
  case isFalse =>
    split at result
    case isTrue => cases result
    case isFalse permitted =>
      split at result
      case h_1 => cases result
      case h_2 state isState =>
        split at result
        case h_1 => cases result
        case h_2 applied applies =>
          cases result
          exact .moved isState applies fun ends granted =>
            permitted ⟨ends, granted⟩

/-- What a call may do: a refused one leaves the authority as it is, any other
one is a transition. -/
def Responds (authority : Authority) (call : Call) : Except Rejection Answer × Authority → Prop
  | (.ok answer, after) => Transition authority call answer after
  | (.error _, after) => after = authority

theorem respond_of_renders {α : Type} {mutation : Mutation α}
    {result : Except Rejection (α × Authority)} {wrap : α → Answer}
    (renders : Renders mutation authority result)
    (transition : ∀ value after, result = .ok (value, after) →
      Transition authority call (wrap value) after) :
    Responds authority call ((mutation.perform authority).map (·.map wrap) id) := by
  unfold Renders Leads at renders
  generalize mutation.perform authority = outcome at renders ⊢
  obtain ⟨answer, after⟩ := outcome
  cases answer with
  | ok value => exact transition value after renders
  | error rejection => exact renders.2

/-- Every call responds as it may. -/
theorem respond_spec (authority : Authority) (call : Call) :
    Responds authority call (authority.respond call) := by
  cases call with
  | accept accountId key requestDigest messageId =>
    exact respond_of_renders (renders_accept ..) fun _ _ result => transition_accept result
  | connect deviceId siteId instanceId nowMs leaseMs =>
    exact respond_of_renders (renders_connect ..) fun _ _ result => transition_connect result
  | grant session messageId attemptId generation recipientDigest nowMs expiresAtMs =>
    exact respond_of_renders (renders_grant ..) fun _ _ result => transition_grant result
  | event messageId evidence =>
    exact respond_of_renders (renders_event ..) fun _ _ result => transition_event result

/-- A call, or a change of the public fields. -/
inductive Input
  | call (call : Call)
  | toggle (writerAvailable dispatchEnabled : Bool) (deploymentEpoch : U64)

/-- A call with its answer. -/
structure Exchange where
  call : Call
  answer : Except Rejection Answer

end Authority

/-- The authority with all calls that were made, the oldest first. -/
structure Conduct where
  authority : Authority
  exchanges : List Authority.Exchange

namespace Conduct

open Foundation Authority

/-- The conduct of an authority that was not called yet. -/
def start (deploymentEpoch : U64) : Conduct := ⟨.new deploymentEpoch, []⟩

/-- One more input. -/
def step (conduct : Conduct) : Input → Conduct
  | .call call =>
    { authority := (conduct.authority.respond call).2, exchanges := conduct.exchanges ++
        [⟨call, (conduct.authority.respond call).1⟩] }
  | .toggle writerAvailable dispatchEnabled deploymentEpoch =>
    { conduct with
      authority :=
        { conduct.authority with
          writerAvailable, dispatchEnabled
          deploymentEpoch } }

/-- A sequence of inputs. -/
def run (inputs : List Input) (conduct : Conduct) : Conduct := inputs.foldl step conduct

/-- A step changes the public fields, or asks and is refused, or makes a
transition. -/
inductive Steps (conduct : Conduct) : Input → Conduct → Prop
  | toggled (writerAvailable dispatchEnabled : Bool) (deploymentEpoch : U64) :
      Steps conduct (.toggle writerAvailable dispatchEnabled deploymentEpoch)
        { conduct with
          authority :=
            { conduct.authority with
              writerAvailable, dispatchEnabled
              deploymentEpoch } }
  | refused {call : Call} {rejection : Rejection} : Steps conduct (.call call)
        { conduct with
          exchanges := conduct.exchanges ++ [⟨call, .error rejection⟩] }
  | answered {call : Call} {answer : Answer} {after : Authority} :
      Transition conduct.authority call answer after → Steps conduct (.call call)
        ⟨after, conduct.exchanges ++ [⟨call, .ok answer⟩]⟩

/-- Every input makes one of the steps. -/
theorem steps_step (conduct : Conduct) (input : Input) :
    conduct.Steps input (conduct.step input) := by
  cases input with
  | toggle writerAvailable dispatchEnabled deploymentEpoch =>
    exact .toggled writerAvailable dispatchEnabled deploymentEpoch
  | call call =>
    have spec := conduct.authority.respond_spec call
    change conduct.Steps (.call call) ⟨(conduct.authority.respond call).2, conduct.exchanges ++
        [⟨call, (conduct.authority.respond call).1⟩]⟩
    generalize conduct.authority.respond call = response at spec ⊢
    obtain ⟨answer, after⟩ := response
    cases answer with
    | ok answer => exact .answered spec
    | error rejection =>
      cases spec
      exact .refused

/-- What every step keeps holds after every run. -/
theorem run_keeps {holds : Conduct → Prop} (begins : holds conduct)
    (keeps : ∀ conduct input after, holds conduct → conduct.Steps input after → holds after)
    (inputs : List Input) : holds (run inputs conduct) := by
  induction inputs using List.reverseRecOn with
  | nil => exact begins
  | append_singleton earlier input ih =>
    unfold run at ih ⊢
    rw [List.foldl_concat]
    exact keeps _ input _ ih (steps_step _ input)

end Conduct
end Zrotext.Domain
