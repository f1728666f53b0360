import Zrotext.Delivery.Schema

/-!
# Requests and evidence

What callers hand to the delivery store, how it is validated, and the digests
under which requests and events are recognised again.
-/

namespace Zrotext.Delivery

open Domain Foundation

/-- The bytes of a text. -/
def utf8 (text : Text) : Bytes := text.flatMap String.utf8EncodeChar

/-- An integer in big-endian bytes, in two's complement. -/
def bigEndian (count : Nat) (value : Int) : Bytes := (List.range count).map fun index =>
    UInt8.ofNat (value / 2 ^ (8 * (count - 1 - index)) % 256).toNat

/-- The number that big-endian bytes stand for. -/
def ofBigEndian (bytes : Bytes) : Nat := bytes.foldl (fun value byte => value * 256 + byte.toNat) 0

/-- The bytes of an identifier. -/
def uuidBytes (id : Uuid) : Bytes := bigEndian 16 id.val

/-- An identifier as text: five groups of hexadecimal digits. -/
def uuidText (id : Uuid) : Text :=
  let digits := Text.hexadecimal 32 id.val
  ['-'].intercalate [digits.take 8, (digits.drop 8).take 4,
    (digits.drop 12).take 4, (digits.drop 16).take 4, digits.drop 20]

/-- An identifier from custom bytes: version 8 of the standard layout. -/
def uuidFromCustomBytes (bytes : Bytes) : Uuid :=
  let versioned := bytes.modify 6 fun byte => byte % 16 + 128
  let marked := versioned.modify 8 fun byte => byte % 64 + 128
  Fin.ofNat (2 ^ 128) (ofBigEndian marked)

/-- A request to send a message. -/
structure NewMessage where
  (accountId clientMessageId deviceId : Uuid)
  (idempotencyKey recipientE164 : Text)
  syntheticPayload : Bytes
  expiresAtMs : Int
  lineLabel : Option Text
  noFallback : Bool
deriving DecidableEq

/-- The result of an acceptance. -/
structure AcceptOutcome where
  messageId : Uuid
  created : Bool
  lineLabel : Option Text
deriving DecidableEq

/-- How an acceptance is metered. -/
inductive MeteringTime
  | unmetered | database
  | alpha (billingEnabled : Bool)
deriving DecidableEq

/-- The message is one of the alpha. -/
def MeteringTime.isAlpha : MeteringTime → Bool
  | .alpha _ => true
  | _ => false

/-- The most pending messages of a device. -/
def maxPendingPerDevice : Nat := 16

/-- The most pending messages of an account. -/
def maxPendingPerAccount : Nat := 128

/-- How late a message of the alpha may expire. -/
def maxAlphaExpiryMs : Int := 15 * 60 * 1000

/-- How far the clock of a phone may be off. -/
def radioClockSkewMs : Int := 5 * 60 * 1000

/-- Bring an integer into the range of a signed word of 64 bits. -/
def saturate (value : Int) : Int := max (-2 ^ 63) (min (2 ^ 63 - 1) value)

/-- A recipient in E.164. -/
def validNumber (recipient : Text) : Bool :=
  let bytes := utf8 recipient
  bytes.head? == some 43 && decide (3 ≤ bytes.length ∧ bytes.length ≤ 16) &&
    (bytes.drop 1).all (fun byte => decide (48 ≤ byte ∧ byte ≤ 57)) &&
    (bytes.drop 1).head? != some 48

/-- The checks of a message that need no clock. -/
def validateMessage (input : NewMessage) : Except StoreError PUnit :=
  if !validNumber input.recipientE164 || input.idempotencyKey.isEmpty ||
      decide (128 < (utf8 input.idempotencyKey).length) ||
      input.syntheticPayload.isEmpty ||
      decide (32768 < input.syntheticPayload.length) ||
      !ByteArray.validateUTF8 ⟨input.syntheticPayload.toArray⟩ then
    .error .invalidInput
  else
    .ok ⟨⟩

/-- A message expires later, and soon in the alpha. -/
def validateNewExpiry (clock : Clock) (expiresAtMs : Int)
    (metering : MeteringTime) : Except StoreError PUnit :=
  if expiresAtMs ≤ clock.processMs ∨ metering.isAlpha = true ∧
        saturate (clock.processMs + maxAlphaExpiryMs) < expiresAtMs then
    .error .invalidInput
  else
    .ok ⟨⟩

/-- The bytes that identify a request. -/
def requestBytes (input : NewMessage) : Bytes :=
  uuidBytes input.accountId ++ uuidBytes input.clientMessageId ++ uuidBytes input.deviceId ++
    bigEndian 8 (utf8 input.recipientE164).length ++
    utf8 input.recipientE164 ++
    bigEndian 8 input.syntheticPayload.length ++ input.syntheticPayload ++
    bigEndian 8 input.expiresAtMs ++
    (match input.lineLabel with
      | some label => bigEndian 8 (utf8 label).length ++ utf8 label
      | none => bigEndian 8 0) ++
    [if input.noFallback then 1 else 0]

variable (deployment : Deployment)

/-- The digest of a request. -/
def requestDigest (input : NewMessage) : Bytes := deployment.sha256 (requestBytes input)

/-- The identifier under which an alpha request is stored. -/
def alphaMessageId (accountId clientMessageId : Uuid) : Uuid :=
  uuidFromCustomBytes ((deployment.sha256
    (utf8 "zrotext.alpha-message-id.v1".toList ++ uuidBytes accountId ++
      uuidBytes clientMessageId)).take 16)

/-- What a device reports about an attempt. -/
structure RadioEvent where
  (eventId accountId deviceId messageId attemptId : Uuid)
  evidence : Evidence
  observedAtMs : Int
  (segmentIndex segmentCount : Option Int)
deriving DecidableEq

/-- The code of evidence that a device may report. -/
def evidenceCode : Evidence → Option EvidenceCode
  | .durableSubmitIntent => some .durableIntent
  | .provenNoSubmit => some .provedNoSubmit
  | .sentCallbackOk => some .sentCallbackOk
  | .sentCallbackFailed => some .sentCallbackFailed
  | .partialSentCallbacks => some .partialSentCallbacks
  | .deliveryCallbackOk => some .deliveryCallbackOk
  | .deliveryTimeout => some .deliveryTimeout
  | .crashWithoutCallback => some .crashNoCallback
  | .callbackConflict => some .callbackConflict
  | _ => none

/-- The text of a code. -/
def EvidenceCode.text : EvidenceCode → Text
  | .durableIntent => "durable_intent".toList
  | .provedNoSubmit => "proved_no_submit".toList
  | .sentCallbackOk => "sent_callback_ok".toList
  | .sentCallbackFailed => "sent_callback_failed".toList
  | .partialSentCallbacks => "partial_sent_callbacks".toList
  | .deliveryCallbackOk => "delivery_callback_ok".toList
  | .deliveryTimeout => "delivery_timeout".toList
  | .crashNoCallback => "crash_no_callback".toList
  | .callbackConflict => "callback_conflict".toList
  | .grantTimeout => "grant_timeout".toList
  | .sentCallbackTimeout => "sent_callback_timeout".toList

/-- The status that an attempt takes with the state of its message. -/
def attemptStatus : MessageState → Option AttemptStatus
  | .submitting => some .submitting
  | .submitted | .delivered | .deliveryUnknown => some .submitted
  | .unknown => some .unknown
  | .failed => some .failed
  | _ => none

/-- Callbacks of a segment name it, and no other evidence does. -/
def isSentCallback : Evidence → Bool
  | .sentCallbackOk | .sentCallbackFailed => true
  | _ => false

/-- A report that no attempt could have made. -/
def malformedRadioEvent (event : RadioEvent) : Bool :=
  decide (event.observedAtMs ≤ 0) ||
    event.segmentCount.any (fun count => decide (¬ (1 ≤ count ∧ count ≤ 6))) ||
    event.segmentIndex.any (fun index => decide (index < 0)) ||
    (match event.segmentIndex, event.segmentCount with
      | some index, some count => decide (count ≤ index)
      | _, _ => false) ||
    event.segmentIndex.isSome != event.segmentCount.isSome ||
    isSentCallback event.evidence != event.segmentIndex.isSome ||
    (!isSentCallback event.evidence && event.segmentIndex.isSome)

/-- An observation is neither before its attempt nor in the future. -/
def validateRadioTimestamp (observedAtMs attemptCreatedMs nowMs : Int) : Except StoreError PUnit :=
  if observedAtMs ≤ 0 ∨ observedAtMs < saturate (attemptCreatedMs - radioClockSkewMs) ∨
      saturate (nowMs + radioClockSkewMs) < observedAtMs then
    .error .invalidInput
  else
    .ok ⟨⟩

/-- The digest of a report. -/
def radioEventDigest (event : RadioEvent) (code : EvidenceCode) : Bytes :=
  deployment.sha256 (uuidBytes event.accountId ++ uuidBytes event.deviceId ++
    uuidBytes event.messageId ++ uuidBytes event.attemptId ++ utf8 code.text ++
    bigEndian 8 event.observedAtMs ++
    bigEndian 4 (event.segmentIndex.getD (-1)) ++
    bigEndian 4 (event.segmentCount.getD (-1)))

/-- The digest of an event that a sweep writes. -/
def sweepEventDigest (accountId messageId attemptId : Uuid) (code : EvidenceCode) : Bytes :=
  deployment.sha256 (uuidBytes accountId ++ uuidBytes messageId ++
    uuidBytes attemptId ++ utf8 code.text)

/-- A session that a hub holds for a device. -/
structure SessionRecord where
  (accountId deviceId : Uuid)
  (siteId instanceId : Text)
  (epoch deploymentEpoch : Nat)
deriving DecidableEq

/-- A job that a worker has leased. -/
structure Claim where
  (accountId messageId deviceId : Uuid)
  generation : Nat
  workerId : Text
deriving DecidableEq

/-- The content of a claimed message. -/
structure ClaimedContent where
  recipientE164 : Text
  transportPayload : Bytes
  transportMode : TransportMode
deriving DecidableEq

/-- Permission for one attempt. -/
structure GrantRecord where
  (accountId messageId attemptId deviceId : Uuid)
  (generation sessionEpoch deploymentEpoch : Nat)
  recipientDigest : Bytes
  expiresAtMs : Int
deriving DecidableEq

end Zrotext.Delivery
