import Zrotext.Abuse.Access

/-!
# Verified lanes

The counters of verified callers have keys of their own.  Calls that anyone can
make neither charge them nor depend on them.
-/

namespace Zrotext.Abuse

open Foundation Delivery List Option

variable {δ : Type}

/-- No two texts have the same keyed digest. -/
def CollisionFree (hasher : Hasher δ) : Prop := Function.Injective hasher.mac

/-- The separator stands between a domain and a token. -/
theorem CollisionFree.domain_eq (collisionFree : CollisionFree hasher) (separated : '\x00' ∉ domain)
    (otherSeparated : '\x00' ∉ other)
    (same : hasher.digest domain token = hasher.digest other otherToken) : domain = other := by
  have split := congrArg (Text.splitOnce '\x00') (collisionFree same)
  rw [Text.splitOnce_append separated, Text.splitOnce_append otherSeparated,
    some.injEq] at split
  exact congrArg Prod.fst split

theorem notMem_routeDomain (lane : Lane) : '\x00' ∉ routeDomain lane := by
  cases lane <;> decide

theorem notMem_subject (limit : Limit) (separated : '\x00' ∉ rest) :
    '\x00' ∉ "abuse-subject-".toList ++ limit.scope ++ rest := by
  simp only [mem_append, not_or]
  exact ⟨⟨by decide, by cases limit <;> decide⟩, separated⟩

theorem routeDomain_ne_subject (lane : Lane) (scope rest : Text) :
    routeDomain lane ≠ "abuse-subject-".toList ++ scope ++ rest := by
  intro same
  have sameStart := congrArg (take 14) same
  rw [append_assoc, take_left' (by decide)] at sameStart
  cases lane <;> exact absurd sameStart (by decide)

theorem subjectDomain_ne_verifiedSubjectDomain (scope : Text) :
    subjectDomain scope ≠ verifiedSubjectDomain scope := by
  intro same
  have sameEnd := append_cancel_left same
  exact absurd sameEnd (by decide)

theorem scope_injective : Function.Injective Limit.scope := by
  have distinct : (Limit.all.map Limit.scope).Nodup := by decide +kernel
  intro limit other same
  exact inj_on_of_nodup_map distinct limit.mem_all other.mem_all same

/-- The keys of verified callers whose subjects are not secret. -/
def Protected (hasher : Hasher δ) (key : Key δ) : Prop :=
  ∃ limit : Limit, limit.subjectIsSecret = false ∧ key.1 = limit.scope ∧
    (key.2 = hasher.digest (routeDomain .verified) limit.scope ∨
      ∃ subject, key.2 = hasher.digest (verifiedSubjectDomain limit.scope) subject)

theorem not_protected_secretRoute {limit : Limit} (secret : limit.subjectIsSecret) :
    ¬ Protected hasher (limit.scope, hasher.digest (routeDomain .verified) limit.scope) := by
  rintro ⟨other, isPublic, sameScope, _⟩
  rw [← scope_injective sameScope, secret] at isPublic
  cases isPublic

theorem not_protected_of_scope (foreign : key.1 ∉ Limit.all.map Limit.scope) :
    ¬ Protected hasher key := by
  rintro ⟨limit, _, isScope, _⟩
  rw [isScope] at foreign
  exact foreign (mem_map_of_mem limit.mem_all)

section

variable {hasher : Hasher δ} (collisionFree : CollisionFree hasher) (limit : Limit)

include collisionFree

theorem not_protected_anonymousRoute :
    ¬ Protected hasher (limit.scope, hasher.digest (routeDomain .anonymous) limit.scope) := by
  rintro ⟨other, _, _, same | ⟨subject, same⟩⟩
  · have sameDomain := collisionFree.domain_eq (notMem_routeDomain _) (notMem_routeDomain _) same
    exact absurd sameDomain (by decide)
  · exact routeDomain_ne_subject _ _ _ (collisionFree.domain_eq
      (notMem_routeDomain _) (notMem_subject other (by decide)) same)

theorem not_protected_subject (subject : Text) : ¬ Protected hasher
      (limit.scope, hasher.digest (subjectDomain limit.scope) subject) := by
  rintro ⟨other, _, sameScope, same | ⟨otherSubject, same⟩⟩
  · exact routeDomain_ne_subject _ _ _ (collisionFree.domain_eq
      (notMem_subject limit (by decide)) (notMem_routeDomain _) same).symm
  · have sameDomain := collisionFree.domain_eq (notMem_subject limit (by decide))
      (notMem_subject other (by decide)) same
    rw [← sameScope] at sameDomain
    exact subjectDomain_ne_verifiedSubjectDomain _ sameDomain

end

/-- Every key that an access uses is protected. -/
def Access.Inside (hasher : Hasher δ) (access : Access δ) : Prop :=
  ∀ use ∈ access.uses, Protected hasher use.1

/-- No key that an access uses is protected. -/
def Access.Outside (hasher : Hasher δ) (access : Access δ) : Prop :=
  ∀ use ∈ access.uses, ¬ Protected hasher use.1

theorem Access.inside_or_outside_of_single {access : Access δ} (single : access.uses = [use]) :
    access.Inside hasher ∨ access.Outside hasher := by
  unfold Inside Outside
  simp only [single, forall_mem_singleton]
  exact Classical.em _

theorem subjectHash_eq_some {lane : Lane} {hash : δ}
    (isHash : subjectHash hasher limit subject lane = some hash) : hash = hasher.digest
      (if lane = .verified ∧ limit.subjectIsSecret = false then verifiedSubjectDomain limit.scope
        else subjectDomain limit.scope) subject := by
  unfold subjectHash at isHash
  cases isBudget : limit.subjectPolicy lane with
  | none => simp [isBudget] at isHash
  | some budget =>
    simp only [isBudget, some.injEq] at isHash
    exact isHash.symm

theorem forall_uses_chargeCall (holds : Key δ → Prop) {limit : Limit} {subject : Option Text}
    {lane : Lane} (route : holds (limit.scope, hasher.digest (routeDomain lane) limit.scope))
    (subjects : ∀ subject hash, subjectHash hasher limit subject lane = some hash →
      holds (limit.scope, hash)) :
    ∀ use ∈ (Access.consume (chargeCall hasher limit subject lane)).uses, holds use.1 := by
  have ofHash : ∀ hash, subject.bind (subjectHash hasher limit · lane) =
      some hash → holds (limit.scope, hash) := by
    intro hash isHash
    obtain ⟨text, _, isHash⟩ := bind_eq_some_iff.mp isHash
    exact subjects text hash isHash
  intro use listed
  unfold chargeCall at listed
  simp only at listed
  split at listed
  · rename_i hash _ isHash
    rw [Access.uses] at listed
    simp only [toList_none, map_nil, mem_singleton] at listed
    rw [listed]
    exact ofHash hash isHash
  · rw [Access.uses] at listed
    rcases mem_cons.mp listed with rfl | isSubject
    · exact route
    · obtain ⟨hash, isHash, rfl⟩ := mem_map.mp isSubject
      exact ofHash hash (mem_toList.mp isHash)

namespace Operation

/-- A call that anyone can make. -/
def isAnonymous : Operation → Bool
  | .consume _ _ => true
  | _ => false

/-- A call in the verified lane, for a subject that is not secret. -/
def isVerified : Operation → Bool
  | .consumeVerified limit _ | .consumeVerifiedRoute limit =>
    !limit.subjectIsSecret
  | _ => false

theorem inside_of_isVerified {operation : Operation} (verified : operation.isVerified) :
    (operation.access hasher).Inside hasher := by
  have inside : ∀ (limit : Limit) subject, limit.subjectIsSecret = false →
      (Access.consume (chargeCall hasher limit subject .verified)).Inside
        hasher := by
    intro limit subject isPublic
    refine forall_uses_chargeCall (Protected hasher) ⟨limit, isPublic, rfl, .inl rfl⟩ ?_
    intro text hash isHash
    refine ⟨limit, isPublic, rfl, .inr ⟨text, ?_⟩⟩
    rw [subjectHash_eq_some isHash, if_pos ⟨rfl, isPublic⟩]
  cases operation with
  | consumeVerified limit | consumeVerifiedRoute limit =>
    exact inside limit _ ((Bool.not_eq_true' _).mp verified)
  | _ => cases verified

variable {hasher : Hasher δ} (collisionFree : CollisionFree hasher)

include collisionFree

/-- A call that anyone can make stays outside the protected keys. -/
theorem outside_of_isAnonymous {operation : Operation}
    (anonymous : operation.isAnonymous) : (operation.access hasher).Outside hasher := by
  cases operation with
  | consume limit subject =>
    refine forall_uses_chargeCall (¬ Protected hasher ·)
      (not_protected_anonymousRoute collisionFree limit) ?_
    intro text hash isHash
    rw [subjectHash_eq_some isHash, if_neg (fun both => nomatch both.1)]
    exact not_protected_subject collisionFree limit text
  | _ => cases anonymous

theorem outside_of_secret {limit : Limit} (secret : limit.subjectIsSecret)
    (subject : Option Text) :
    (Access.consume (chargeCall hasher limit subject .verified)).Outside hasher := by
  refine forall_uses_chargeCall (¬ Protected hasher ·) (not_protected_secretRoute secret) ?_
  intro text hash isHash
  rw [subjectHash_eq_some isHash, if_neg (fun both => by rw [secret] at both; cases both.2)]
  exact not_protected_subject collisionFree limit text

/-- No operation uses protected keys and other keys together. -/
theorem inside_or_outside (operation : Operation) :
    (operation.access hasher).Inside hasher ∨ (operation.access hasher).Outside hasher := by
  cases operation with
  | consume limit subject =>
    exact .inr (outside_of_isAnonymous collisionFree rfl)
  | consumeVerified limit | consumeVerifiedRoute limit =>
    cases isSecret : limit.subjectIsSecret with
    | true => exact .inr (outside_of_secret collisionFree isSecret _)
    | false => exact .inl (inside_of_isVerified (by simp [isVerified, isSecret]))
  | consumeStorageBudget accountId deviceId =>
    refine .inr fun use listed => not_protected_of_scope ?_
    have isScope : use.1.1 = "inbound_daily".toList := by
      rcases mem_cons.mp listed with rfl | subject
      · rfl
      · obtain ⟨hash, _, rfl⟩ := mem_map.mp subject
        rfl
    rw [isScope]
    decide +kernel
  | consumeConsentBudget | recordFailure | failureBudgetOpen | subjectBudgetOpen =>
    exact Access.inside_or_outside_of_single rfl

end Operation

variable [DecidableEq δ]

/-- The operations of a schedule with their answers. -/
def transcript (hasher : Hasher δ) :
    List (Time × Operation) → Counters δ → List ((Time × Operation) × Answer)
  | [], _ => []
  | (now, operation) :: rest, counters =>
    let performed := operation.perform hasher now counters
    ((now, operation), performed.1) :: transcript hasher rest performed.2

/-- The calls in the verified lane with their answers. -/
def verifiedTranscript (hasher : Hasher δ) (schedule : List (Time × Operation))
    (counters : Counters δ) : List ((Time × Operation) × Answer) :=
  (transcript hasher schedule counters).filter fun entry =>
    entry.1.2.isVerified

/-- The protected counters are the same. -/
def SameProtected (hasher : Hasher δ) (counters other : Counters δ) : Prop :=
  ∀ key, Protected hasher key → counters.lookup key = other.lookup key

namespace SameProtected

variable {other counters : Counters δ} {access : Access δ} {hasher : Hasher δ}
  (same : SameProtected hasher counters other)

include same

theorem symm : SameProtected hasher other counters :=
  fun key isProtected => (same key isProtected).symm

theorem of_outside (now : Time) (outside : access.Outside hasher) :
    SameProtected hasher (access.perform now counters).2 other := by
  intro key isProtected
  rw [Access.lookup_perform fun use listed isKey =>
    outside use listed (isKey ▸ isProtected)]
  exact same key isProtected

/-- An access to protected keys answers the same. -/
theorem of_inside (now : Time) (inside : access.Inside hasher) :
    (access.perform now counters).1 = (access.perform now other).1 ∧
      SameProtected hasher (access.perform now counters).2 (access.perform now other).2 := by
  obtain ⟨sameAnswer, together⟩ := Access.perform_congr
    fun use listed => .inl (same use.1 (inside use listed))
  refine ⟨sameAnswer, fun key isProtected => ?_⟩
  rcases together key with ⟨sameFirst, sameSecond⟩ | sameAfter
  · rw [sameFirst, sameSecond]
    exact same key isProtected
  · exact sameAfter

theorem perform (collisionFree : CollisionFree hasher) (now : Time) (operation : Operation) :
    SameProtected hasher (operation.perform hasher now counters).2
      (operation.perform hasher now other).2 := by
  rw [operation.perform_eq, operation.perform_eq]
  rcases operation.inside_or_outside collisionFree with inside | outside
  · exact (same.of_inside now inside).2
  · exact ((same.of_outside now outside).symm.of_outside now outside).symm

/-- Calls that anyone can make leave no trace in the verified lane. -/
theorem verifiedTranscript_eq (collisionFree : CollisionFree hasher) :
    verifiedTranscript hasher schedule counters = verifiedTranscript hasher
        (schedule.filter fun entry => !entry.2.isAnonymous) other := by
  induction schedule generalizing counters other with
  | nil => rfl
  | cons entry rest ih =>
    obtain ⟨now, operation⟩ := entry
    unfold verifiedTranscript at ih ⊢
    cases isAnonymous : operation.isAnonymous with
    | true =>
      have unverified : operation.isVerified = false := by
        cases operation with
        | consume => rfl
        | _ => cases isAnonymous
      have after := same.of_outside now (Operation.outside_of_isAnonymous collisionFree isAnonymous)
      rw [← operation.perform_eq] at after
      simp [transcript, isAnonymous, unverified, ih after]
    | false =>
      have sameRest := ih (same.perform collisionFree now operation)
      cases verified : operation.isVerified with
      | true =>
        have sameAnswer := (same.of_inside now (Operation.inside_of_isVerified verified)).1
        rw [← operation.perform_eq, ← operation.perform_eq] at sameAnswer
        simp [transcript, isAnonymous, verified, sameAnswer, sameRest]
      | false => simp [transcript, isAnonymous, verified, sameRest]

end SameProtected

/-- Anonymous calls do not interfere with the verified lane. -/
theorem verified_lane_noninterference (hasher : Hasher δ) (collisionFree : CollisionFree hasher)
    (counters : Counters δ) (schedule other : List (Time × Operation)) (sameElsewhere :
      schedule.filter (fun entry => !entry.2.isAnonymous) =
        other.filter (fun entry => !entry.2.isAnonymous)) :
    verifiedTranscript hasher schedule counters = verifiedTranscript hasher other counters := by
  have refl : SameProtected hasher counters counters := fun _ _ => rfl
  rw [refl.verifiedTranscript_eq collisionFree, sameElsewhere,
    ← refl.verifiedTranscript_eq collisionFree]

/-- The holder of a pairing claims it. -/
def quietSchedule : List (Time × Operation) :=
  [(seconds 1, .consumeVerified .pairClaim "pairing".toList),
    (seconds 2, .consumeVerifiedRoute .pairClaim)]

/-- Others name the same pairing. -/
def noisySchedule : List (Time × Operation) :=
  [(seconds 0, .consume .pairClaim (some "pairing".toList)),
    (seconds 1, .consumeVerified .pairClaim "pairing".toList),
    (seconds 1, .consume .login (some "pairing".toList)),
    (seconds 2, .consumeVerifiedRoute .pairClaim)]

/-- The anonymous calls of the noisy schedule do not show in the
verified lane. -/
theorem verified_lane_noninterference_noisy : verifiedTranscript plainHasher noisySchedule .empty =
        verifiedTranscript plainHasher quietSchedule .empty ∧
      (verifiedTranscript plainHasher noisySchedule .empty).map Prod.snd =
        [.decided true, .decided true] :=
  ⟨verified_lane_noninterference plainHasher Function.injective_id .empty
    noisySchedule quietSchedule (by decide +kernel), by decide +kernel⟩

end Zrotext.Abuse
