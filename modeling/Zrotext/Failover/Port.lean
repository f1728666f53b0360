import Zrotext.Failover.Decision
import Zrotext.Foundation.Machine

/-!
# The ports of the failover executor

The executor performs no input or output itself.  Everything it learns or
changes goes through an observation source, the writer authority and the two
external adapters for host fencing and epoch anchoring (`executor.rs`,
`fence.rs`).  Each port operation is a call with the answers its implementation
may give; a transport error is `none`.
-/

namespace Zrotext.Failover

open Foundation

/-- What the authoritative writer database looks like to the executor. -/
structure AuthoritySnapshot where
  epoch : U64
  dispatchEnabled : Bool
  (writerSite standbySite : Option SiteFenceState)
deriving DecidableEq

/-- Result of fencing the old writer's `sites` row. -/
inductive FenceOutcome
  | fenced | alreadyFenced | siteRowMissing
deriving DecidableEq

/-- Result of applying a promotion to the authority. -/
inductive PromoteOutcome
  | promoted | alreadyAtEpoch
  | refusedHigherEpoch (current : U64)
  | refusedWriterUnfenced | siteRowMissing
deriving DecidableEq

/-- Result of saving the controller state.  The caller sees an error in both
failures; they differ in whether the authority's row took the new text before
the acknowledgment was lost. -/
inductive SaveAnswer
  | saved
  | failed (written : Bool)
deriving DecidableEq

/-- The identity of one external host-fencing action. -/
structure FenceToken where
  epoch : U64
deriving DecidableEq

/-- The fence identity of the promotion under an epoch. -/
def FenceToken.forPromotion (epoch : U64) : FenceToken := ⟨epoch⟩

/-- Result of asking the external authority to fence one host. -/
inductive HostFenceOutcome
  | fenced (token : FenceToken)
  | alreadyFenced (token : FenceToken)
  | refusedCompetingFence (holder : FenceToken)
  | refusedUnconfirmed
deriving DecidableEq

/-- What the external authority reports about one host's fence. -/
inductive FenceStatus
  | fenced (token : FenceToken)
  | unfenced | unconfirmed
deriving DecidableEq

/-- The reading of the external epoch anchor. -/
inductive AnchorReading
  | confirmed (epoch : U64)
  | unconfirmed
deriving DecidableEq

/-- Result of witnessing a promotion in the external anchor. -/
inductive AnchorRecord
  | recorded
  | refused (anchoredEpoch : U64)
  | refusedUnconfirmed
deriving DecidableEq

/-- The calls of the executor.  `decided` is not a port operation: it marks the
decision of a round in the trace. -/
inductive PortOp
  | collect (nowMs : U64)
  | loadState (writerSite standbySite : Text)
  | fenceWriterSite (siteId : Text)
  | holdDispatch
  | promoteStandby (promotedSite fencedWriterSite : Text) (newEpoch : U64)
  | saveControllerState (encoded : Text)
  | loadControllerState | exclusivityReacquired
  | fenceStatus (hostSiteId : Text)
  | fenceHost (hostSiteId : Text) (token : FenceToken)
  | confirmedEpoch
  | recordPromotion (newEpoch : U64)
  | decided (decision : Decision)
deriving DecidableEq

/-- The answers to each call. -/
abbrev PortOp.Answer : PortOp → Type
  | .collect _ => Round
  | .loadState _ _ => Option AuthoritySnapshot
  | .fenceWriterSite _ => Option FenceOutcome
  | .holdDispatch => Bool
  | .promoteStandby _ _ _ => Option PromoteOutcome
  | .saveControllerState _ => SaveAnswer
  | .loadControllerState => Option (Option Text)
  | .exclusivityReacquired => Bool
  | .fenceStatus _ => FenceStatus
  | .fenceHost _ _ => HostFenceOutcome
  | .confirmedEpoch => AnchorReading
  | .recordPromotion _ => AnchorRecord
  | .decided _ => Unit

instance : (op : PortOp) → DecidableEq op.Answer
  | .collect _ => inferInstanceAs (DecidableEq Round)
  | .loadState _ _ => inferInstanceAs (DecidableEq (Option AuthoritySnapshot))
  | .fenceWriterSite _ => inferInstanceAs (DecidableEq (Option FenceOutcome))
  | .holdDispatch => inferInstanceAs (DecidableEq Bool)
  | .promoteStandby _ _ _ =>
    inferInstanceAs (DecidableEq (Option PromoteOutcome))
  | .saveControllerState _ => inferInstanceAs (DecidableEq SaveAnswer)
  | .loadControllerState =>
    inferInstanceAs (DecidableEq (Option (Option Text)))
  | .exclusivityReacquired => inferInstanceAs (DecidableEq Bool)
  | .fenceStatus _ => inferInstanceAs (DecidableEq FenceStatus)
  | .fenceHost _ _ => inferInstanceAs (DecidableEq HostFenceOutcome)
  | .confirmedEpoch => inferInstanceAs (DecidableEq AnchorReading)
  | .recordPromotion _ => inferInstanceAs (DecidableEq AnchorRecord)
  | .decided _ => inferInstanceAs (DecidableEq Unit)

/-- The ports as a signature. -/
abbrev port : Signature where
  Op := PortOp
  Answer := PortOp.Answer

namespace Port

/-- Gather the reports for the round at `nowMs`. -/
def collect (nowMs : U64) : Program port Round := .call (PortOp.collect nowMs) .done

/-- Read the authority state of the two configured sites. -/
def loadState (writerSite standbySite : Text) : Program port (Option AuthoritySnapshot) :=
  .call (PortOp.loadState writerSite standbySite) .done

/-- Set the old writer's `sites` row draining. -/
def fenceWriterSite (siteId : Text) : Program port (Option FenceOutcome) :=
  .call (PortOp.fenceWriterSite siteId) .done

/-- Pause dispatch; the answer tells whether it succeeded. -/
def holdDispatch : Program port Bool := .call PortOp.holdDispatch .done

/-- Move the epoch to `newEpoch` and enable the promoted site. -/
def promoteStandby (promotedSite fencedWriterSite : Text) (newEpoch : U64) :
    Program port (Option PromoteOutcome) :=
  .call (PortOp.promoteStandby promotedSite fencedWriterSite newEpoch) .done

/-- Persist the encoded controller journal. -/
def saveControllerState (encoded : Text) : Program port SaveAnswer :=
  .call (PortOp.saveControllerState encoded) .done

/-- Load the encoded controller journal. -/
def loadControllerState : Program port (Option (Option Text)) :=
  .call PortOp.loadControllerState .done

/-- Whether write exclusivity was lost and re-acquired since the last call. -/
def exclusivityReacquired : Program port Bool := .call PortOp.exclusivityReacquired .done

/-- The external fence status of one host. -/
def fenceStatus (hostSiteId : Text) : Program port FenceStatus :=
  .call (PortOp.fenceStatus hostSiteId) .done

/-- Fence one host under a token. -/
def fenceHost (hostSiteId : Text) (token : FenceToken) : Program port HostFenceOutcome :=
  .call (PortOp.fenceHost hostSiteId token) .done

/-- The externally confirmed epoch. -/
def confirmedEpoch : Program port AnchorReading := .call PortOp.confirmedEpoch .done

/-- Witness an applied promotion. -/
def recordPromotion (newEpoch : U64) : Program port AnchorRecord :=
  .call (PortOp.recordPromotion newEpoch) .done

/-- Mark the decision of a round. -/
def decided (decision : Decision) : Program port Unit := .call (PortOp.decided decision) .done

end Port
end Zrotext.Failover
