import Zrotext.Delivery.Request
import Zrotext.Foundation.Fallible

/-!
# Provider requests

The identity of a text message that a provider is to send, and the body that is
submitted for it.
-/

namespace Zrotext.Provider

open Foundation Delivery Fallible

/-- A configured route of an account. -/
structure Route where
  (account organization profile : Uuid)
  sender : Text
  revision : Nat
deriving DecidableEq

inductive Rejection
  | invalidInput | sealedContent | requestConflict | authority | suppressed | invalidState
  | routeMismatch | messageConflict | eventConflict | evidenceConflict | eventCapacity
deriving DecidableEq

def e164 (value : Text) : Bool :=
  let bytes := utf8 value
  decide (3 ≤ bytes.length ∧ bytes.length ≤ 16) &&
    bytes.head? == some 43 && (bytes.drop 1).head? != some 48 &&
    (bytes.drop 1).all fun byte => decide (48 ≤ byte ∧ byte ≤ 57)

def Route.telnyx (account organization profile : Uuid) (sender : Text)
    (revision : Nat) : Except Rejection Route := do
  require .invalidInput (decide (account ≠ 0) && decide (organization ≠ 0) &&
    decide (profile ≠ 0) && decide (revision ≠ 0) && e164 sender)
  return { account, organization, profile, sender, revision }

inductive Content
  | providerPlaintext (text : Text)
  | sealedPhoneEnvelope (bytes : Bytes)
deriving DecidableEq

/-- The identity of a message: the route, the digest of the recipient and the
digest of all. -/
structure Request where
  route : Route
  (recipient digest : Bytes)
deriving DecidableEq

section Digests

variable (sha256 : Bytes → Bytes)

/-- The bytes of a route in a digest. -/
def Route.bytes (route : Route) : Bytes :=
  uuidBytes route.account ++ uuidBytes route.organization ++
    uuidBytes route.profile ++ bigEndian 8 route.revision ++
    bigEndian 8 (utf8 route.sender).length ++ utf8 route.sender

def Request.new (route : Route) (recipient : Text) : Content → Except Rejection Request
  | .sealedPhoneEnvelope _ => .error .sealedContent
  | .providerPlaintext body => do
    require .invalidInput (e164 recipient && !body.isEmpty &&
      decide ((utf8 body).length ≤ 4096))
    let hash := sha256 (utf8 recipient)
    return {
      route, recipient := hash
      digest := sha256
        (utf8 "ZT/provider-request/v1\x00telnyx-sms-v2\x00".toList ++
          route.bytes ++ hash ++ sha256 (utf8 body)) }

def Request.checkReplay (request existing : Request) : Except Rejection Unit :=
  require .requestConflict (decide (request = existing))

/-- The digest under which a route is stored. -/
def routeFingerprint (request : Request) : Bytes :=
  sha256 (utf8 "ZT/provider-receipt-route/v1\x00telnyx-sms-v2\x00".toList ++ request.route.bytes)

def maxBodyBytes : Nat := 32768
def maxTextBytes : Nat := 4096
def maxTextUnits : Nat := 4096

inductive CodecError
  | invalidInput | sealedContent | requestConflict | unsupportedText | outputFailure
deriving DecidableEq

/-- A character of a JSON string. -/
def jsonChar (char : Char) : Text :=
  if char = '"' then "\\\"".toList
  else if char = '\\' then "\\\\".toList
  else if char = '\x08' then "\\b".toList
  else if char = '\x09' then "\\t".toList
  else if char = '\x0a' then "\\n".toList
  else if char = '\x0c' then "\\f".toList
  else if char = '\x0d' then "\\r".toList
  else if char.toNat < 32 then
    "\\u00".toList ++ Text.hexadecimal 2 char.toNat
  else [char]

def jsonString (text : Text) : Text := '"' :: text.flatMap jsonChar ++ ['"']

/-- A field of a JSON object. -/
def jsonField (name : String) (value : Text) : Text :=
  jsonString name.toList ++ ':' :: jsonString value

/-- What is submitted to the provider. -/
structure WireBody where
  (sender messagingProfileId recipient text : Text)
deriving DecidableEq

def WireBody.json (body : WireBody) : Text := '\x7b' :: [','].intercalate [
    jsonField "from" body.sender, jsonField "messaging_profile_id" body.messagingProfileId,
    jsonField "to" body.recipient, jsonField "text" body.text, jsonField "type" "SMS".toList,
    jsonField "encoding" "ucs2".toList] ++ ['\x7d']

def WireBody.write (body : WireBody) : Except CodecError Bytes := do
  let bytes := utf8 body.json
  require .outputFailure (decide (bytes.length ≤ maxBodyBytes))
  return bytes

/-- The body of a message on a route. -/
def wireBody (route : Route) (recipient text : Text) : WireBody :=
  { sender := route.sender, messagingProfileId := uuidText route.profile, recipient
    text }

/-- The request that a caller reconstructs. -/
def reconstruct (expected : Request) (recipient text : Text) : Except CodecError Request := do
  let route ← (Route.telnyx expected.route.account expected.route.organization
    expected.route.profile expected.route.sender
    expected.route.revision).mapError fun _ => CodecError.invalidInput
  (Request.new sha256 route recipient (.providerPlaintext text)).mapError fun
      | .sealedContent => CodecError.sealedContent
      | _ => CodecError.invalidInput

/-- The body of a request, if recipient and content are those of the request. -/
def encode (expected : Request) (recipient : Text) : Content → Except CodecError Bytes
  | .sealedPhoneEnvelope _ => .error .sealedContent
  | .providerPlaintext text => do
    let reconstructed ← reconstruct sha256 expected recipient text
    (expected.checkReplay reconstructed).mapError fun _ =>
      CodecError.requestConflict
    require .invalidInput (decide ((utf8 text).length ≤ maxTextBytes) &&
      decide (text.length ≤ maxTextUnits))
    require .unsupportedText (!text.any fun char => decide (0xffff < char.toNat))
    (wireBody expected.route recipient text).write

end Digests

theorem Route.telnyx_eq_ok {route checked : Route}
    (result : Route.telnyx route.account route.organization route.profile
      route.sender route.revision = .ok checked) :
    checked = route := by
  obtain ⟨_, _, result⟩ := bind_eq_ok.mp result
  cases result
  rfl

/-- A body is that of a text whose request is the expected one. -/
theorem encode_eq_ok (result : encode sha256 expected recipient content = .ok bytes) :
    ∃ text, content = .providerPlaintext text ∧
      Request.new sha256 expected.route recipient (.providerPlaintext text) = .ok expected ∧
      bytes = utf8 (wireBody expected.route recipient text).json := by
  cases content with
  | sealedPhoneEnvelope sealedBytes => cases result
  | providerPlaintext text =>
    refine ⟨text, rfl, ?_⟩
    simp only [encode, bind_eq_ok] at result
    obtain ⟨request, isRequest, _, isReplay, _, _, _, _, result⟩ := result
    have same : expected = request := of_decide_eq_true
      (require_eq_ok.mp (mapError_eq_ok.mp isReplay))
    obtain ⟨route, isRoute, isRequest⟩ := bind_eq_ok.mp isRequest
    have sameRoute := Route.telnyx_eq_ok (mapError_eq_ok.mp isRoute)
    have isNew := mapError_eq_ok.mp isRequest
    rw [sameRoute, ← same] at isNew
    refine ⟨isNew, ?_⟩
    obtain ⟨_, _, result⟩ := bind_eq_ok.mp result
    cases result
    rfl

end Zrotext.Provider
