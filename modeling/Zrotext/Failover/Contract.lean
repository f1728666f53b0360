import Zrotext.Failover.Port

/-!
# What the ports promise

The results about whole runs assume two things of the world around the
executor.  The external fence authority never fences a host again under another
token, and the writer authority loads the controller state it durably saved.
The in-memory ports that drive the repository's own corpus keep both promises in
every simulation, so runs against them are runs the results speak about.
-/

namespace Zrotext.Failover

open Foundation Function

/-- The token of a confirmed fence. -/
def FenceStatus.confirmed : FenceStatus → Option FenceToken
  | .fenced token => some token
  | .unfenced => none
  | .unconfirmed => none

/-- The token under which a fence request was granted. -/
def HostFenceOutcome.confirmed : HostFenceOutcome → Option FenceToken
  | .fenced token => some token
  | .alreadyFenced token => some token
  | .refusedCompetingFence _ => none
  | .refusedUnconfirmed => none

/-- The token under which an event confirms that a host is fenced. -/
def confirmedToken (host : Text) : Event port → Option FenceToken
  | ⟨.fenceStatus asked, status⟩ =>
    if asked = host then status.confirmed else none
  | ⟨.fenceHost asked _, outcome⟩ =>
    if asked = host then outcome.confirmed else none
  | _ => none

/-- The contract of the external fence authority over a run: at each moment
every host has at most one holder, a host that was fenced under a token is never
fenced under another one, and a confirmation names the holder of the moment. -/
def FenceContract (events : List (Event port)) : Prop := ∃ holder : Nat → Text → Option FenceToken,
    (∀ host early late token other, early ≤ late →
      holder early host = some token → holder late host = some other → other = token) ∧
    (∀ host index event token, events[index]? = some event →
      confirmedToken host event = some token → holder index host = some token)

theorem FenceContract.of_holders (holders : Text → Option FenceToken)
    (confirms : ∀ event ∈ events, ∀ host token, confirmedToken host event = some token →
      holders host = some token) :
    FenceContract events := by
  refine ⟨fun _ => holders, ?_, ?_⟩
  · intro host early late token other _ first second
    rw [first] at second
    cases second
    rfl
  · intro host index event token position confirmed
    exact confirms event (List.mem_of_getElem? position) host token confirmed

/-- The durable controller state of the authority as a run sees it: a save that
took effect replaces it, acknowledged or not, and a load answers it. -/
def rowMonitor : Monitor port (Option Text) where
  admits row
    | ⟨.loadControllerState, some answer⟩ => answer = row
    | _ => True
  next row
    | ⟨.saveControllerState encoded, .saved⟩ => some encoded
    | ⟨.saveControllerState encoded, .failed true⟩ => some encoded
    | _ => row

/-- The in-memory writer authority with the faults the corpus injects. -/
structure MemoryAuthority where
  epoch : U64
  dispatchEnabled : Bool := true
  sites : Text → Option SiteFenceState
  journal : Option Text := none
  failLoadState : Bool := false
  failFence : Bool := false
  failHold : Bool := false
  failPromote : Bool := false
  /-- How many saves succeed before one fails. -/
  failSaveAfter : Option Nat := none
  savesSinceArm : Nat := 0
  bumpEpochOnPromoteTo : Option U64 := none
  unfenceWriterOnPromote : Bool := false
  exclusivityLatch : Bool := false

namespace MemoryAuthority

variable (authority : MemoryAuthority)

def holdDispatch : Bool × MemoryAuthority :=
  if authority.failHold then
    (false, authority)
  else
    (true, { authority with dispatchEnabled := false })

def loadState (writerSite standbySite : Text) : Option AuthoritySnapshot × MemoryAuthority :=
  if authority.failLoadState then
    (none, { authority with failLoadState := false })
  else
    (some {
      epoch := authority.epoch, dispatchEnabled := authority.dispatchEnabled
      writerSite := authority.sites writerSite
      standbySite := authority.sites standbySite }, authority)

def fenceWriterSite (siteId : Text) : Option FenceOutcome × MemoryAuthority :=
  if authority.failFence then
    (none, { authority with failFence := false })
  else
    match authority.sites siteId with
    | none => (some .siteRowMissing, authority)
    | some site =>
      if site.isFenced then
        (some .alreadyFenced, authority)
      else
        (some .fenced, { authority with
          sites := update authority.sites siteId
            (some { site with draining := true }) })

variable (promotedSite fencedWriterSite : Text) (newEpoch : U64)

/-- The adversarial changes that happen just before a promotion. -/
def beforePromotion : MemoryAuthority :=
  { authority with
    epoch := authority.bumpEpochOnPromoteTo.getD authority.epoch, bumpEpochOnPromoteTo := none
    sites :=
      if authority.unfenceWriterOnPromote then
        update authority.sites fencedWriterSite
          ((authority.sites fencedWriterSite).map fun site =>
            { site with draining := false })
      else
        authority.sites
    unfenceWriterOnPromote := false }

/-- The compare-and-set of a promotion. -/
def applyPromotion : PromoteOutcome × MemoryAuthority :=
  if authority.epoch > newEpoch then
    (.refusedHigherEpoch authority.epoch, authority)
  else if (authority.sites fencedWriterSite).all (fun site => !site.isFenced) then
    (.refusedWriterUnfenced, authority)
  else
    match authority.sites promotedSite with
    | none => (.siteRowMissing, authority)
    | some site =>
      (if authority.epoch = newEpoch then .alreadyAtEpoch else .promoted,
        { authority with
          epoch := newEpoch, dispatchEnabled := false
          sites := update authority.sites promotedSite
            (some { site with enabled := true }) })

def promoteStandby : Option PromoteOutcome × MemoryAuthority :=
  let changed := authority.beforePromotion fencedWriterSite
  if changed.failPromote then
    (none, { changed with failPromote := false })
  else
    let result := changed.applyPromotion promotedSite fencedWriterSite newEpoch
    (some result.1, result.2)

def saveControllerState (encoded : Text) : SaveAnswer × MemoryAuthority :=
  match authority.failSaveAfter with
  | none => (.saved, { authority with journal := some encoded })
  | some allowed =>
    if authority.savesSinceArm ≥ allowed then
      (.failed false, { authority with failSaveAfter := none })
    else
      (.saved, { authority with
        journal := some encoded, savesSinceArm := authority.savesSinceArm + 1 })

def exclusivityReacquired : Bool × MemoryAuthority :=
  (authority.exclusivityLatch, { authority with exclusivityLatch := false })

theorem fenceWriterSite_journal (siteId : Text) :
    (authority.fenceWriterSite siteId).2.journal = authority.journal := by
  unfold fenceWriterSite
  split_ifs
  · rfl
  · cases authority.sites siteId with
    | none => rfl
    | some site => dsimp only; split_ifs <;> rfl

theorem applyPromotion_journal : (authority.applyPromotion promotedSite fencedWriterSite
      newEpoch).2.journal = authority.journal := by
  unfold applyPromotion
  by_cases higher : authority.epoch > newEpoch
  · rw [if_pos higher]
  · rw [if_neg higher]
    by_cases unfenced : (authority.sites fencedWriterSite).all (fun site => !site.isFenced)
    · rw [if_pos unfenced]
    · rw [if_neg unfenced]
      cases authority.sites promotedSite <;> rfl

theorem promoteStandby_journal : (authority.promoteStandby promotedSite fencedWriterSite
      newEpoch).2.journal = authority.journal := by
  unfold promoteStandby
  dsimp only
  split_ifs
  · rfl
  · exact applyPromotion_journal _ promotedSite fencedWriterSite newEpoch

end MemoryAuthority

/-- The in-memory fence authority. -/
structure MemoryFenceAuthority where
  fences : Text → Option FenceToken := fun _ => none
  unconfirmed : Bool := false
  /-- How many fences are applied without being acknowledged. -/
  dropAcknowledgments : Nat := 0

namespace MemoryFenceAuthority

variable (authority : MemoryFenceAuthority)

def fenceStatus (hostSiteId : Text) : FenceStatus :=
  if authority.unconfirmed then
    .unconfirmed
  else
    match authority.fences hostSiteId with
    | some token => .fenced token
    | none => .unfenced

/-- The fence authority after a host was fenced. -/
def insert (hostSiteId : Text) (token : FenceToken) : MemoryFenceAuthority :=
  { authority with
    fences := update authority.fences hostSiteId (some token) }

def fenceHost (hostSiteId : Text) (token : FenceToken) : HostFenceOutcome × MemoryFenceAuthority :=
  if authority.unconfirmed then
    (.refusedUnconfirmed, authority)
  else
    match authority.fences hostSiteId with
    | some existing =>
      if existing = token then
        (.alreadyFenced token, authority)
      else
        (.refusedCompetingFence existing, authority)
    | none =>
      if authority.dropAcknowledgments > 0 then
        (.refusedUnconfirmed, { authority.insert hostSiteId token with
          dropAcknowledgments := authority.dropAcknowledgments - 1 })
      else
        (.fenced token, authority.insert hostSiteId token)

theorem fenceStatus_confirms (confirmed : (authority.fenceStatus host).confirmed = some token) :
    authority.fences host = some token := by
  unfold fenceStatus at confirmed
  split_ifs at confirmed
  · cases confirmed
  · cases held : authority.fences host with
    | none =>
      rw [held] at confirmed
      cases confirmed
    | some existing =>
      rw [held] at confirmed
      exact confirmed

theorem fenceHost_cases (host : Text) (asked : FenceToken) :
    ((authority.fenceHost host asked).2 = authority ∧
        ∀ token, (authority.fenceHost host asked).1.confirmed = some token →
          authority.fences host = some token) ∨
      (authority.fences host = none ∧ (authority.fenceHost host asked).2.fences =
          update authority.fences host (some asked) ∧
        ∀ token, (authority.fenceHost host asked).1.confirmed = some token →
          some asked = some token) := by
  unfold fenceHost
  by_cases unconfirmed : authority.unconfirmed
  · rw [if_pos unconfirmed]
    exact .inl ⟨rfl, nofun⟩
  · rw [if_neg unconfirmed]
    cases held : authority.fences host with
    | some existing =>
      dsimp only
      split_ifs with same
      · exact .inl ⟨rfl, fun token granted => by rw [same]; exact granted⟩
      · exact .inl ⟨rfl, nofun⟩
    | none =>
      split_ifs
      · exact .inr ⟨rfl, rfl, nofun⟩
      · exact .inr ⟨rfl, rfl, fun token granted => granted⟩

theorem fenceHost_keeps (held : authority.fences other = some token) :
    (authority.fenceHost host asked).2.fences other = some token := by
  cases authority.fenceHost_cases host asked with
  | inl unchanged => rw [unchanged.1, held]
  | inr fresh =>
    have different : other ≠ host := by
      rintro rfl
      rw [fresh.1] at held
      cases held
    rw [fresh.2.1, update_of_ne different, held]

theorem fenceHost_confirms (granted : (authority.fenceHost host asked).1.confirmed = some token) :
    (authority.fenceHost host asked).2.fences host = some token := by
  cases authority.fenceHost_cases host asked with
  | inl unchanged => rw [unchanged.1, unchanged.2 token granted]
  | inr fresh =>
    rw [fresh.2.1, update_self, fresh.2.2 token granted]

end MemoryFenceAuthority

/-- The in-memory epoch anchor. -/
structure MemoryEpochAnchor where
  anchoredEpoch : U64 := 0
  unconfirmed : Bool := false
  refuseRecords : Bool := false

namespace MemoryEpochAnchor

variable (anchor : MemoryEpochAnchor)

def confirmedEpoch : AnchorReading :=
  if anchor.unconfirmed then
    .unconfirmed
  else
    .confirmed anchor.anchoredEpoch

def recordPromotion (newEpoch : U64) : AnchorRecord × MemoryEpochAnchor :=
  if anchor.unconfirmed || anchor.refuseRecords then
    (.refusedUnconfirmed, anchor)
  else if newEpoch ≤ anchor.anchoredEpoch then
    (.refused anchor.anchoredEpoch, anchor)
  else
    (.recorded, { anchor with anchoredEpoch := newEpoch })

end MemoryEpochAnchor

/-- All in-memory ports of an executor; rounds are collected from a queue. -/
structure MemoryPorts where
  queued : List Round
  authority : MemoryAuthority
  fencing : MemoryFenceAuthority := {}
  anchor : MemoryEpochAnchor := {}

namespace MemoryPorts

/-- Answer a call with the writer authority. -/
def askAuthority {α : Type} (ports : MemoryPorts)
    (ask : MemoryAuthority → α × MemoryAuthority) : α × MemoryPorts :=
  ((ask ports.authority).1,
    { ports with authority := (ask ports.authority).2 })

/-- The in-memory ports as an environment. -/
def handler : Handler port MemoryPorts
  | .collect _, ports =>
    (ports.queued.headD ⟨[]⟩, { ports with queued := ports.queued.tail })
  | .loadState writerSite standbySite, ports =>
    ports.askAuthority (·.loadState writerSite standbySite)
  | .fenceWriterSite siteId, ports =>
    ports.askAuthority (·.fenceWriterSite siteId)
  | .holdDispatch, ports => ports.askAuthority (·.holdDispatch)
  | .promoteStandby promotedSite fencedWriterSite newEpoch, ports =>
    ports.askAuthority (·.promoteStandby promotedSite fencedWriterSite newEpoch)
  | .saveControllerState encoded, ports =>
    ports.askAuthority (·.saveControllerState encoded)
  | .loadControllerState, ports => (some ports.authority.journal, ports)
  | .exclusivityReacquired, ports =>
    ports.askAuthority (·.exclusivityReacquired)
  | .fenceStatus hostSiteId, ports =>
    (ports.fencing.fenceStatus hostSiteId, ports)
  | .fenceHost hostSiteId token, ports =>
    ((ports.fencing.fenceHost hostSiteId token).1,
      { ports with fencing := (ports.fencing.fenceHost hostSiteId token).2 })
  | .confirmedEpoch, ports => (ports.anchor.confirmedEpoch, ports)
  | .recordPromotion newEpoch, ports =>
    ((ports.anchor.recordPromotion newEpoch).1,
      { ports with anchor := (ports.anchor.recordPromotion newEpoch).2 })
  | .decided _, ports => ((), ports)

variable (ports : MemoryPorts) (op : PortOp)

/-- All confirmations so far name the holders of the moment. -/
def NamesHolders (trace : List (Event port)) : Prop :=
  ∀ event ∈ trace, ∀ host token, confirmedToken host event = some token →
    ports.fencing.fences host = some token

theorem handler_keeps_fences
    (held : ports.fencing.fences host = some token) :
    (handler op ports).2.fencing.fences host = some token := by
  cases op <;> first
    | exact held
    | exact ports.fencing.fenceHost_keeps held

theorem handler_confirms
    (confirmed : confirmedToken host ⟨op, (handler op ports).1⟩ = some token) :
    (handler op ports).2.fencing.fences host = some token := by
  cases op with
  | fenceStatus asked =>
    simp only [confirmedToken] at confirmed
    split_ifs at confirmed with same
    rw [← same]
    exact ports.fencing.fenceStatus_confirms confirmed
  | fenceHost asked under =>
    simp only [confirmedToken] at confirmed
    split_ifs at confirmed with same
    rw [← same]
    exact ports.fencing.fenceHost_confirms confirmed
  | _ => cases confirmed

theorem namesHolders_step (ports : MemoryPorts) (trace : List (Event port))
    (names : ports.NamesHolders trace) : (handler op ports).2.NamesHolders
      (trace ++ [⟨op, (handler op ports).1⟩]) := by
  intro event member host token confirmed
  cases List.mem_append.mp member with
  | inl earlier =>
    exact handler_keeps_fences ports op (names event earlier host token confirmed)
  | inr last =>
    rw [List.mem_singleton.mp last] at confirmed
    exact handler_confirms ports op confirmed

/-- The row of the authority is the durable state that the run shows. -/
def ShowsRow (initial : Option Text) (ports : MemoryPorts) (trace : List (Event port)) : Prop :=
  rowMonitor.Admits initial trace ∧ rowMonitor.after initial trace = ports.authority.journal

theorem handler_admits_row :
    rowMonitor.admits ports.authority.journal ⟨op, (handler op ports).1⟩ := by
  cases op with
  | loadControllerState => rfl
  | _ => trivial

theorem handler_next_row : rowMonitor.next ports.authority.journal ⟨op, (handler op ports).1⟩ =
      (handler op ports).2.authority.journal := by
  cases op with
  | saveControllerState encoded =>
    simp only [handler, askAuthority, MemoryAuthority.saveControllerState]
    cases ports.authority.failSaveAfter with
    | none => rfl
    | some allowed =>
      dsimp only
      split_ifs <;> rfl
  | loadState writerSite standbySite =>
    simp only [handler, askAuthority, MemoryAuthority.loadState]
    split_ifs <;> rfl
  | fenceWriterSite siteId =>
    exact (ports.authority.fenceWriterSite_journal _).symm
  | holdDispatch =>
    simp only [handler, askAuthority, MemoryAuthority.holdDispatch]
    split_ifs <;> rfl
  | promoteStandby promotedSite fencedWriterSite newEpoch =>
    exact (ports.authority.promoteStandby_journal _ _ _).symm
  | _ => rfl

theorem showsRow_step (initial : Option Text) (op : PortOp) (ports : MemoryPorts)
    (trace : List (Event port)) (shows : ports.ShowsRow initial trace) :
    (handler op ports).2.ShowsRow initial (trace ++ [⟨op, (handler op ports).1⟩]) := by
  obtain ⟨admitted, row⟩ := shows
  refine ⟨?_, ?_⟩
  · refine (rowMonitor.along_append _ _ _ _).mpr ⟨admitted, ?_, trivial⟩
    rw [row]
    exact handler_admits_row ports op
  · rw [rowMonitor.after_append, row]
    exact handler_next_row ports op

section Simulation

variable {σ ι : Type}
variable (machine : Machine port σ ι)
variable (ports : MemoryPorts)
variable (state : σ)
variable (moves : List (Machine.Move σ ι))

/-- A machine and the in-memory ports after some moves. -/
def simulation : Machine.Simulation port σ MemoryPorts :=
  machine.simulate handler ⟨state, ports, []⟩ moves

theorem simulation_fenceContract : FenceContract (simulation machine ports state moves).trace :=
  FenceContract.of_holders _ (machine.simulate_keeps namesHolders_step
    ⟨state, ports, []⟩ moves nofun)

/-- Every simulation against the in-memory ports loads what it saved. -/
theorem simulation_admits_row : rowMonitor.Admits ports.authority.journal
      (simulation machine ports state moves).trace :=
  (machine.simulate_keeps (showsRow_step ports.authority.journal)
    ⟨state, ports, []⟩ moves ⟨trivial, rfl⟩).1

theorem simulation_run (input : ι) (fresh : machine.fresh state)
    (freshMoves : machine.FreshMoves moves) :
    machine.Run (simulation machine ports state moves).trace
      (simulation machine ports state moves).state :=
  machine.run_simulate handler ⟨state, ports, []⟩ moves freshMoves input (.start fresh)

end Simulation

end MemoryPorts
end Zrotext.Failover
