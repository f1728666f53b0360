import Zrotext.Delivery.Transactions

/-!
# Requests and their bytes

The bytes that are hashed into the digest of a request determine the request up
to its idempotency key, so a key never replays another request.  An empty line
label is the exception: it has the bytes of no label.
-/

namespace Zrotext.Delivery

open Domain Foundation Transaction List

theorem utf8_inj (same : utf8 first = utf8 second) : first = second := by
  have encoded : (String.ofList first).toByteArray = (String.ofList second).toByteArray := by
    change ByteArray.mk _ = ByteArray.mk _
    unfold utf8 at same
    rw [same]
  exact String.ofList_injective (String.toByteArray_inj.mp encoded)

theorem length_bigEndian (count : Nat) (value : Int) : (bigEndian count value).length = count := by
  rw [bigEndian, length_map, length_range]

theorem bigEndian_succ (count : Nat) (value : Int) : bigEndian (count + 1) value =
    bigEndian count (value / 256) ++ [UInt8.ofNat (value % 256).toNat] := by
  unfold bigEndian
  rw [range_succ, map_append]
  congr 1
  · refine map_congr_left fun index listed => ?_
    have shifted : count + 1 - 1 - index = count - 1 - index + 1 := by
      have := mem_range.mp listed
      omega
    rw [shifted, Nat.mul_succ, Int.pow_add, Int.mul_comm, ← Int.ediv_ediv_of_nonneg (by decide)]
    rfl
  · simp

/-- Equal bytes come from integers that differ by a multiple of the modulus. -/
theorem dvd_of_bigEndian_eq {count : Nat}
    (same : bigEndian count first = bigEndian count second) :
    (256 ^ count : Int) ∣ first - second := by
  induction count generalizing first second with
  | zero => exact Int.one_dvd _
  | succ count ih =>
    rw [bigEndian_succ, bigEndian_succ] at same
    obtain ⟨higher, lowest⟩ := append_inj' same rfl
    obtain ⟨factor, difference⟩ := ih higher
    have lowestBytes := congrArg UInt8.toNat (singleton_inj.mp lowest)
    rw [UInt8.toNat_ofNat', UInt8.toNat_ofNat'] at lowestBytes
    refine ⟨factor, ?_⟩
    rw [Int.pow_succ, Int.mul_right_comm, ← difference]
    omega

theorem bigEndian_append_inj (close : -2 ^ 64 < first - second ∧ first - second < 2 ^ 64)
    (same : bigEndian 8 first ++ firstRest = bigEndian 8 second ++ secondRest) :
    first = second ∧ firstRest = secondRest := by
  obtain ⟨bytes, rest⟩ := append_inj same (by simp only [length_bigEndian])
  obtain ⟨factor, difference⟩ := dvd_of_bigEndian_eq bytes
  exact ⟨by omega, rest⟩

theorem uuidBytes_append_inj {first second : Uuid}
    (same : uuidBytes first ++ firstRest = uuidBytes second ++ secondRest) :
    first = second ∧ firstRest = secondRest := by
  obtain ⟨bytes, rest⟩ := append_inj same (by simp only [uuidBytes, length_bigEndian])
  obtain ⟨factor, difference⟩ := dvd_of_bigEndian_eq bytes
  exact ⟨Fin.ext (by omega), rest⟩

theorem sized_append_inj {first second : Bytes}
    (firstShort : first.length < 2 ^ 64) (secondShort : second.length < 2 ^ 64)
    (same : bigEndian 8 first.length ++ (first ++ firstRest) =
      bigEndian 8 second.length ++ (second ++ secondRest)) :
    first = second ∧ firstRest = secondRest := by
  obtain ⟨lengths, rest⟩ := bigEndian_append_inj (by omega) same
  exact append_inj rest (by omega)

/-- An accepted request whose expiry is a word of 64 bits and whose label, if it
has one, is not empty. -/
structure NewMessage.Valid (input : NewMessage) : Prop where
  accepted : validateMessage.{0} input = .ok ⟨⟩
  expiry : -2 ^ 63 ≤ input.expiresAtMs ∧ input.expiresAtMs < 2 ^ 63
  labelled : input.lineLabel ≠ some []

theorem NewMessage.Valid.short {input : NewMessage} (valid : input.Valid) :
    (utf8 input.recipientE164).length < 2 ^ 64 ∧ input.syntheticPayload.length < 2 ^ 64 := by
  have accepted := valid.accepted
  unfold validateMessage at accepted
  split at accepted
  · cases accepted
  next passed =>
    simp only [validNumber, Bool.or_eq_true, not_or, Bool.not_eq_true, Bool.not_eq_false',
      Bool.and_eq_true, decide_eq_true_eq] at passed
    omega

theorem requestBytes_inj {first second : NewMessage} (firstValid : first.Valid)
    (secondValid : second.Valid) (same : requestBytes first = requestBytes second) :
    first = { second with idempotencyKey := first.idempotencyKey } := by
  have line : ∀ input : NewMessage, requestBytes input =
      requestBytes { input with lineLabel := some (input.lineLabel.getD []) } := by
    intro input
    unfold requestBytes
    cases input.lineLabel <;> simp [utf8]
  rw [line first, line second] at same
  simp only [requestBytes, append_assoc] at same
  obtain ⟨account, same⟩ := uuidBytes_append_inj same
  obtain ⟨client, same⟩ := uuidBytes_append_inj same
  obtain ⟨device, same⟩ := uuidBytes_append_inj same
  obtain ⟨recipient, same⟩ := sized_append_inj firstValid.short.1 secondValid.short.1 same
  obtain ⟨payload, same⟩ := sized_append_inj firstValid.short.2 secondValid.short.2 same
  have close : -2 ^ 64 < first.expiresAtMs - second.expiresAtMs ∧
      first.expiresAtMs - second.expiresAtMs < 2 ^ 64 := by
    have := firstValid.expiry
    have := secondValid.expiry
    omega
  obtain ⟨expiry, same⟩ := bigEndian_append_inj close same
  obtain ⟨_, same⟩ := append_inj same (by simp only [length_bigEndian])
  obtain ⟨labels, flags⟩ := append_inj' same rfl
  have label : first.lineLabel = second.lineLabel := by
    have named := firstValid.labelled
    have otherNamed := secondValid.labelled
    have texts := utf8_inj labels
    cases isFirst : first.lineLabel <;> cases isSecond : second.lineLabel <;> simp_all
  have fallback : first.noFallback = second.noFallback := by
    cases isFirst : first.noFallback <;> cases isSecond : second.noFallback <;> simp_all
  have number := utf8_inj recipient
  obtain ⟨⟩ := first
  obtain ⟨⟩ := second
  rw [NewMessage.mk.injEq]
  exact ⟨account, client, device, rfl, number, payload, expiry, label, fallback⟩

/-- The bytes of a request determine it up to its key.  So a retained key that
replays was recorded for the same request, unless two requests share a digest. -/
theorem request_digest_unambiguous :
    (∀ first second : NewMessage, first.Valid → second.Valid →
      requestBytes first = requestBytes second →
      first = { second with idempotencyKey := first.idempotencyKey }) ∧
    ∀ (deployment : Deployment) directory clock metering requireReservation tables
        (first second : NewMessage),
      Function.Injective deployment.sha256 → first.Valid → second.Valid →
      Finishes (replayKey directory clock second (requestDigest deployment second) metering
          requireReservation)
        (fun _ _ => ∃ key ∈ tables.keys, key.accountId = second.accountId ∧
          key.key = second.idempotencyKey ∧ (key.requestDigest = requestDigest deployment first →
            first = { second with idempotencyKey := first.idempotencyKey })) tables := by
  refine ⟨fun _ _ firstValid secondValid => requestBytes_inj firstValid secondValid, ?_⟩
  intro deployment directory clock metering requireReservation tables first second injective
    firstValid secondValid
  unfold replayKey
  simp only [leads_bind, leads_get]
  split
  · simp only [leads_bind, leads_compute, leads_throw, implies_true, and_self]
  next key found =>
    simp only [leads_bind, leads_refuse, implies_true, and_true, bne_eq_false_iff_eq]
    intro recorded
    refine (replayedMessage_leads _ _ _).mono ?_ fun _ _ => id
    rintro _ _ -
    have fits := find?_some found
    simp only [Bool.and_eq_true, beq_iff_eq, decide_eq_true_eq] at fits
    refine ⟨key, mem_of_find?_eq_some found, fits.1.1, fits.1.2, fun sameDigest => ?_⟩
    exact requestBytes_inj firstValid secondValid (injective (sameDigest.symm.trans recorded))

/-- A retained key replays the request that it was recorded for, and the bytes of
a request with another identifier differ. -/
theorem request_digest_unambiguous_replayed :
    let message := Drill.message 1 "k"
    let tables :=
      { Tables.empty with keys := [newKey Drill.deployment (Drill.clock 0) message 1] }
    requestBytes (Drill.message 2 "k") ≠ requestBytes message ∧
    ((replayKey Drill.directory (Drill.clock 1) message (requestDigest Drill.deployment message)
      .unmetered false).commit tables).1 = .ok ⟨1, false, none⟩ ∧
    ∃ key ∈ tables.keys, key.key = message.idempotencyKey ∧
      key.requestDigest ≠ requestDigest Drill.deployment (Drill.message 2 "k") := by
  intro message tables
  obtain ⟨injective, replays⟩ := request_digest_unambiguous
  have valid : message.Valid := ⟨by decide +kernel, by decide, by decide⟩
  have otherValid : (Drill.message 2 "k").Valid := ⟨by decide +kernel, by decide, by decide⟩
  have differ : Drill.message 2 "k" ≠ message := by decide
  have replayed : ((replayKey Drill.directory (Drill.clock 1) message
      (requestDigest Drill.deployment message) .unmetered false).commit tables).1 =
        .ok ⟨1, false, none⟩ := by decide +kernel
  obtain ⟨key, listed, _, isKey, agrees⟩ := (replays Drill.deployment _ _ _ _ _ _ _
    Function.injective_id otherValid valid).of_commit replayed
  exact ⟨fun same => differ (injective _ _ otherValid valid same), replayed, key, listed, isKey,
    fun same => differ (agrees same)⟩

/-- A request with an empty label has the bytes of one without a label. -/
theorem empty_label_shares_bytes : ∃ first second : NewMessage,
    validateMessage.{0} first = .ok ⟨⟩ ∧ validateMessage.{0} second = .ok ⟨⟩ ∧
    requestBytes first = requestBytes second ∧ first.lineLabel = none ∧
    second.lineLabel = some [] := by
  let request (lineLabel : Option Text) : NewMessage :=
    { accountId := 1, clientMessageId := 2, deviceId := 3, idempotencyKey := "k".toList
      recipientE164 := "+12".toList, syntheticPayload := [65], expiresAtMs := 0, lineLabel
      noFallback := false }
  exact ⟨request none, request (some []), by decide +kernel, by decide +kernel, by decide +kernel,
    rfl, rfl⟩

end Zrotext.Delivery
