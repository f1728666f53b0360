import Mathlib

/-!
# Message states

The delivery rules: which evidence moves a message from which state to which.
-/

namespace Zrotext.Domain

/-- The state of a message. -/
inductive MessageState
  | accepted | queued | claimed | submitting | submitted | delivered | deliveryUnknown | unknown
  | failed | cancelled | expired
deriving DecidableEq

/-- What may become known about a message. -/
inductive Evidence
  | enqueue | claim | durableSubmitIntent | provenNoSubmit | sentCallbackOk | sentCallbackFailed
  | partialSentCallbacks | deliveryCallbackOk | deliveryTimeout | crashWithoutCallback
  | grantTimeout | sentCallbackTimeout | callbackConflict | cancel | expire
deriving DecidableEq

/-- Evidence that a state does not permit. -/
structure InvalidTransition where
  state : MessageState
  evidence : Evidence
deriving DecidableEq

namespace MessageState

/-- The transition table. -/
def apply (state : MessageState) (evidence : Evidence) : Except InvalidTransition MessageState :=
  match state, evidence with
  | .accepted, .enqueue => .ok .queued
  | .queued, .claim => .ok .claimed
  | .claimed, .durableSubmitIntent => .ok .submitting
  | .claimed, .provenNoSubmit => .ok .queued
  | .submitting, .provenNoSubmit => .ok .queued
  | .unknown, .provenNoSubmit => .ok .queued
  | .submitting, .sentCallbackOk => .ok .submitted
  | .submitting, .sentCallbackFailed => .ok .failed
  | .submitting, .partialSentCallbacks => .ok .unknown
  | .submitting, .crashWithoutCallback => .ok .unknown
  | .claimed, .grantTimeout => .ok .unknown
  | .submitting, .sentCallbackTimeout => .ok .unknown
  | .unknown, .sentCallbackOk => .ok .submitted
  | .unknown, .sentCallbackFailed => .ok .failed
  | .submitted, .deliveryCallbackOk => .ok .delivered
  | .submitted, .deliveryTimeout => .ok .deliveryUnknown
  | .deliveryUnknown, .deliveryCallbackOk => .ok .delivered
  | .queued, .callbackConflict => .ok .unknown
  | .claimed, .callbackConflict => .ok .unknown
  | .submitting, .callbackConflict => .ok .unknown
  | .submitted, .callbackConflict => .ok .unknown
  | .delivered, .callbackConflict => .ok .unknown
  | .deliveryUnknown, .callbackConflict => .ok .unknown
  | .unknown, .callbackConflict => .ok .unknown
  | .failed, .callbackConflict => .ok .unknown
  | .accepted, .cancel => .ok .cancelled
  | .queued, .cancel => .ok .cancelled
  | .claimed, .cancel => .ok .cancelled
  | .accepted, .expire => .ok .expired
  | .queued, .expire => .ok .expired
  | .claimed, .expire => .ok .expired
  | state, evidence => .error { state, evidence }

end MessageState
end Zrotext.Domain
