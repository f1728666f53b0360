import Zrotext.Delivery.Request

/-!
# Request budgets

The limits of the public routes, the counters that a request is charged to, and
how long an idle counter is kept.
-/

namespace Zrotext.Abuse

open Foundation Delivery List

/-- The limited routes. -/
inductive Limit
  | outboundAccept | registration | login | resend | verify | passwordResetRequest
  | passwordResetVerifiedDaily | passwordResetConfirm | passwordChange | sessionsRevokeOthers
  | pairCreate | pairClaim | pairProof | pairBinding | deviceChallenge | deviceAuthenticate
  | mfaChallenge | mfaManage | mfaStepUp | billingSession | apiKeyCreate | mmsSpikeGrant
  | smsLineActivation | seatInvite | seatAccept | collaborationGrant | collaborationDraft
  | reviewLogin | reviewBrowser | reviewRootPassword | reviewRootPasswordFailures | reviewRootManage
  | payloadProfileManage | payloadProfileRead | payloadProfileFetch
deriving DecidableEq

/-- All limits. -/
def Limit.all : List Limit := [.outboundAccept, .registration, .login, .resend, .verify,
    .passwordResetRequest, .passwordResetVerifiedDaily,
    .passwordResetConfirm, .passwordChange, .sessionsRevokeOthers,
    .pairCreate, .pairClaim, .pairProof, .pairBinding, .deviceChallenge,
    .deviceAuthenticate, .mfaChallenge, .mfaManage, .mfaStepUp,
    .billingSession, .apiKeyCreate, .mmsSpikeGrant, .smsLineActivation,
    .seatInvite, .seatAccept, .collaborationGrant, .collaborationDraft,
    .reviewLogin, .reviewBrowser, .reviewRootPassword,
    .reviewRootPasswordFailures, .reviewRootManage, .payloadProfileManage,
    .payloadProfileRead, .payloadProfileFetch]

/-- Attempts and window seconds. -/
abbrev Budget := Int × Int

/-- The scope of a limit, its attempts and window seconds for the whole route,
and the budget of one subject. -/
structure Policy where
  scope : Text
  (globalMax globalSeconds : Int)
  subjectPolicy : Option Budget
deriving DecidableEq

/-- The counters that a charge spends: those that anyone can name, and those of
a caller who has shown that the subject is live. -/
inductive Lane
  | anonymous | verified
deriving DecidableEq

/-- Verified subjects share a larger route ceiling. -/
def verifiedCeilingFactor : Int := 10

/-- What one device may spend of the verified issuance of challenges. -/
def deviceVerifiedShare : Budget := (60, 60)

/-- How much longer than its window a counter is kept. -/
def pruneSlackSeconds : Int := 60

/-- How long every idle counter is kept. -/
def defaultRetentionSeconds : Int := 120

/-- Scopes that are charged outside the limits, with their longest window. -/
def otherScopes : List (Text × Int) :=
  [("inbound_daily".toList, 86400), ("inbound_consent_daily".toList, 86400)]

namespace Limit

/-- The policy of a limit. -/
def policy : Limit → Policy
  | .apiKeyCreate => .mk "api_key_create".toList 600 60 (some (20, 86400))
  | .outboundAccept => .mk "alpha_send".toList 600 60 (some (60, 60))
  | .registration => .mk "registration".toList 120 3600 (some (3, 86400))
  | .login => .mk "login".toList 240 60 (some (12, 900))
  | .reviewLogin => .mk "review_login".toList 240 60 (some (12, 900))
  | .reviewBrowser => .mk "review_browser".toList 240 60 none
  | .reviewRootPassword =>
    .mk "review_root_password".toList 2400 60 (some (8, 900))
  | .reviewRootPasswordFailures =>
    .mk "review_root_password_failures".toList 2400 60 (some (5, 900))
  | .reviewRootManage => .mk "review_root_manage".toList 2400 60 (some (8, 900))
  | .resend => .mk "resend".toList 120 60 (some (12, 900))
  | .verify => .mk "verify".toList 120 60 none
  | .passwordResetRequest =>
    .mk "password_reset_request".toList 120 60 (some (3, 86400))
  | .passwordResetVerifiedDaily =>
    .mk "password_reset_verified_daily".toList 120 60 (some (12, 86400))
  | .passwordResetConfirm =>
    .mk "password_reset_confirm".toList 120 60 (some (8, 3600))
  | .passwordChange => .mk "password_change".toList 120 60 (some (8, 900))
  | .sessionsRevokeOthers =>
    .mk "sessions_revoke_others".toList 120 60 (some (8, 900))
  | .pairCreate => .mk "pair_create".toList 120 60 (some (10, 900))
  | .pairClaim => .mk "pair_claim".toList 300 60 (some (20, 60))
  | .pairProof => .mk "pair_proof".toList 300 60 (some (20, 60))
  | .pairBinding => .mk "pair_binding".toList 600 60 none
  | .deviceChallenge => .mk "device_challenge".toList 300 60 none
  | .deviceAuthenticate => .mk "device_authenticate".toList 300 60 none
  | .mfaChallenge => .mk "mfa_challenge".toList 300 60 (some (5, 300))
  | .mfaManage => .mk "mfa_manage".toList 120 60 (some (8, 900))
  | .mfaStepUp => .mk "mfa_step_up".toList 120 60 (some (5, 900))
  | .billingSession => .mk "billing_session".toList 120 60 (some (8, 60))
  | .smsLineActivation =>
    .mk "sms_line_activation".toList 120 60 (some (30, 900))
  | .payloadProfileManage =>
    .mk "payload_profile_manage".toList 60 900 (some (60, 900))
  | .payloadProfileRead =>
    .mk "payload_profile_read".toList 120 60 (some (120, 60))
  | .payloadProfileFetch =>
    .mk "payload_profile_fetch".toList 600 60 (some (60, 60))
  | .mmsSpikeGrant =>
    .mk "mms_spike_grant".toList 300 7776000 (some (1, 7776000))
  | .seatInvite => .mk "seat_invite".toList 60 3600 (some (30, 86400))
  | .seatAccept => .mk "seat_accept".toList 60 60 none
  | .collaborationGrant =>
    .mk "collaboration_grant".toList 30 3600 (some (30, 3600))
  | .collaborationDraft =>
    .mk "collaboration_draft".toList 60 60 (some (60, 60))

/-- The scope of a limit. -/
def scope (limit : Limit) : Text := limit.policy.scope

/-- The subject is a secret that only its holder can name. -/
def subjectIsSecret : Limit → Bool
  | .mfaChallenge | .passwordResetConfirm => true
  | _ => false

/-- Every spender is authenticated: only the counter of the subject is
charged. -/
def subjectOnly : Limit → Bool
  | .outboundAccept | .collaborationGrant | .collaborationDraft
  | .reviewRootPassword | .reviewRootPasswordFailures | .reviewRootManage
  | .payloadProfileManage | .payloadProfileRead => true
  | _ => false

/-- What a subject may spend in a lane. -/
def subjectPolicy (limit : Limit) (lane : Lane) : Option Budget :=
  match limit, lane with
  | .deviceChallenge, .verified => some deviceVerifiedShare
  | _, _ => limit.policy.subjectPolicy

/-- The longest window, route or subject, that the counters of a limit track. -/
def longestWindowSeconds (limit : Limit) : Int :=
  ([Lane.anonymous, .verified].filterMap limit.subjectPolicy).foldl
    (fun longest budget => max longest budget.2) limit.policy.globalSeconds

end Limit

/-- Keep a scope for as long as it was kept and for some seconds. -/
def retain : List (Text × Int) → Text → Int → List (Text × Int)
  | [], scope, seconds => [(scope, seconds)]
  | known :: rest, scope, seconds =>
    if known.1 = scope then (known.1, max known.2 seconds) :: rest
    else known :: retain rest scope seconds

/-- The scopes with their longest windows. -/
def windows : List (Text × Int) :=
  Limit.all.map (fun limit => (limit.scope, limit.longestWindowSeconds)) ++ otherScopes

/-- How many seconds an idle counter of a scope is kept. -/
def pruneRetention : List (Text × Int) :=
  windows.foldl (fun retention window => retain retention window.1
    (max (window.2 + pruneSlackSeconds) defaultRetentionSeconds)) []

/-- What a list of retentions says about a scope. -/
def retained (retention : List (Text × Int)) (scope : Text) : Option Int :=
  (retention.find? fun known => decide (known.1 = scope)).map Prod.snd

theorem retained_retain (retention : List (Text × Int)) (scope other : Text) (seconds : Int) :
    retained (retain retention scope seconds) other =
      if scope = other then
        some (((retained retention scope).map (max · seconds)).getD seconds)
      else retained retention other := by
  induction retention with
  | nil =>
    by_cases same : scope = other <;> simp [retain, retained, same]
  | cons known rest ih =>
    unfold retain
    by_cases isKnown : known.1 = scope
    · by_cases same : scope = other <;> simp [retained, isKnown, same]
    · rw [if_neg isKnown]
      unfold retained at ih ⊢
      by_cases isOther : known.1 = other
      · have different : scope ≠ other := fun same =>
          isKnown (isOther.trans same.symm)
        simp [isOther, different]
      · simp [isKnown, isOther, ih]

/-- A scope is kept at least as long as each of its windows. -/
theorem le_retained (listed : window ∈ windows) :
    ∃ seconds, retained pruneRetention window.1 = some seconds ∧ window.2 ≤ seconds := by
  unfold pruneRetention
  generalize windows = entries at listed
  induction entries using reverseRecOn with
  | nil => cases listed
  | append_singleton entries last ih =>
    rw [foldl_append, foldl_cons, foldl_nil, retained_retain]
    generalize isEarlier : entries.foldl (fun retention window =>
      retain retention window.1 (max (window.2 + pruneSlackSeconds)
        defaultRetentionSeconds)) [] = earlier at ih ⊢
    have slack : last.2 ≤ max (last.2 + pruneSlackSeconds)
        defaultRetentionSeconds := by
      unfold pruneSlackSeconds
      omega
    rcases mem_append.mp listed with old | isLast
    · obtain ⟨seconds, isSeconds, bounded⟩ := ih old
      split_ifs with same
      · rw [same, isSeconds]
        exact ⟨_, rfl, bounded.trans (le_max_left _ _)⟩
      · exact ⟨seconds, isSeconds, bounded⟩
    · rw [mem_singleton.mp isLast, if_pos rfl]
      cases retained earlier last.1 with
      | none => exact ⟨_, rfl, slack⟩
      | some seconds => exact ⟨_, rfl, slack.trans (le_max_right _ _)⟩

namespace Limit

theorem mem_all (limit : Limit) : limit ∈ all := by
  cases limit <;> decide

theorem le_longest (start : Int) (budgets : List Budget) :
    start ≤ budgets.foldl (fun longest budget => max longest budget.2) start ∧
      ∀ budget ∈ budgets, budget.2 ≤
        budgets.foldl (fun longest budget => max longest budget.2) start := by
  induction budgets generalizing start with
  | nil => exact ⟨le_refl start, nofun⟩
  | cons first rest ih =>
    obtain ⟨start_le, rest_le⟩ := ih (max start first.2)
    refine ⟨(le_max_left _ _).trans start_le, ?_⟩
    intro budget listed
    rcases mem_cons.mp listed with rfl | later
    · exact (le_max_right _ _).trans start_le
    · exact rest_le budget later

theorem globalSeconds_le (limit : Limit) :
    limit.policy.globalSeconds ≤ limit.longestWindowSeconds :=
  (le_longest _ _).1

theorem subjectSeconds_le {limit : Limit} (isBudget : limit.subjectPolicy lane = some budget) :
    budget.2 ≤ limit.longestWindowSeconds := by
  refine (le_longest _ _).2 budget (mem_filterMap.mpr ⟨lane, ?_, isBudget⟩)
  cases lane with
  | anonymous => exact mem_cons_self
  | verified => exact mem_cons_of_mem _ mem_cons_self

/-- A limit is kept at least as long as the longest of its windows. -/
theorem le_retained (limit : Limit) :
    ∃ seconds, retained pruneRetention limit.scope = some seconds ∧
      limit.longestWindowSeconds ≤ seconds :=
  @Abuse.le_retained (limit.scope, limit.longestWindowSeconds)
    (mem_append_left _ (mem_map_of_mem limit.mem_all))

end Limit

end Zrotext.Abuse
