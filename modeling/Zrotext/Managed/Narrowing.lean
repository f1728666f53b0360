import Zrotext.Managed.Grants

/-!
# Grants never widen without a ceremony

Along every run the current binding of a grant narrows the one that was issued
last, its versions are numbered in turn, and a revoked grant gets no more.
-/

namespace Zrotext.Managed

open Foundation Fallible List Keyed

/-- Whether an operation issues a binding in a ceremony. -/
def Operation.issues : Operation → Bool
  | .create | .replace => true
  | .narrow | .revoke | .withdraw => false

/-- The last event that issued a binding. -/
def Grant.latestIssue (grant : Grant) : Option Event :=
  (grant.events.filter (·.operation.issues)).getLast?

/-- The versions of a grant are numbered in turn up to the current one, all of
them are for its contact and purpose, and the current one narrows the last one
that was issued. -/
structure Grant.Sound (grant : Grant) : Prop where
  numbered : grant.versions.map (·.version) =
    (range grant.versions.length).map (Nat.cast · + 1)
  latest : grant.currentVersion = grant.versions.length
  bound : ∀ row ∈ grant.versions, row.binding.validate = .ok () ∧
    row.binding.contact = grant.contact ∧ row.binding.purpose = grant.purpose
  narrowed : ∃ issue issued current, grant.latestIssue = some issue ∧
    grant.versionAt issue.version = some issued ∧
    grant.versionAt grant.currentVersion = some current ∧
    current.binding.narrows issued.binding = true

/-- A later state of a grant. -/
structure Grant.Precedes (grant next : Grant) : Prop where
  key : next.key = grant.key
  contact : next.contact = grant.contact
  purpose : next.purpose = grant.purpose
  versions : grant.versions <+: next.versions
  closed : grant.revokedMs.isSome → next.revokedMs.isSome ∧ next.versions = grant.versions

namespace Grant

theorem Precedes.refl (grant : Grant) : grant.Precedes grant :=
  ⟨rfl, rfl, rfl, prefix_rfl, fun closed => ⟨closed, rfl⟩⟩

/-- Later states follow one another. -/
theorem Precedes.trans {grant middle next : Grant} (first : grant.Precedes middle)
    (second : middle.Precedes next) : grant.Precedes next where
  key := second.key.trans first.key
  contact := second.contact.trans first.contact
  purpose := second.purpose.trans first.purpose
  versions := first.versions.trans second.versions
  closed := by
    intro closed
    obtain ⟨middleClosed, same⟩ := first.closed closed
    obtain ⟨nextClosed, nextSame⟩ := second.closed middleClosed
    exact ⟨nextClosed, nextSame.trans same⟩

theorem insertVersion_eq_ok {grant next : Grant}
    (isNext : grant.insertVersion version request operation = .ok next) :
    grant.versionAt version = none ∧ next = grant.addVersion version request operation := by
  simp only [insertVersion, bind_eq_ok, require_eq_ok, Option.isNone_iff_eq_none] at isNext
  obtain ⟨_, isFree, same⟩ := isNext
  cases same
  exact ⟨isFree, rfl⟩

theorem precedes_extends {grant next : Grant} (extending : grant.Extends next) :
    grant.Precedes next := by
  obtain ⟨isOpen, request, operation, row, -, isNext, -⟩ := extending
  rw [(insertVersion_eq_ok isNext).2]
  refine ⟨rfl, rfl, rfl, prefix_append .., ?_⟩
  rw [isOpen]
  exact nofun

theorem sound_created {grant : Grant} {account : Delivery.Uuid} (valid : request.validate = .ok ())
    (isNew : (blank account fresh request).insertVersion 1 request .create = .ok grant) :
    grant.Sound := by
  rw [(insertVersion_eq_ok isNew).2]
  refine ⟨rfl, rfl, fun row listed => ?_, _, _, _, rfl, rfl, rfl, request.narrows_refl valid⟩
  rw [mem_singleton.mp listed]
  exact ⟨valid, rfl, rfl⟩

/-- A next version keeps a grant sound. -/
theorem Sound.extends {grant next : Grant} (sound : grant.Sound)
    (extending : grant.Extends next) : next.Sound := by
  obtain ⟨-, request, operation, row, valid, isNext, isRow, kind⟩ := extending
  obtain ⟨isFree, same⟩ := insertVersion_eq_ok isNext
  obtain ⟨rowValid, rowContact, rowPurpose⟩ := sound.bound row (mem_of_find?_eq_some isRow)
  obtain ⟨issue, issued, current, isIssue, isIssued, isCurrent, narrower⟩ := sound.narrowed
  cases isRow.symm.trans isCurrent
  have isNewRow : next.versionAt next.currentVersion =
      some ⟨grant.currentVersion + 1, request.policy, request, request.selections⟩ := by
    rw [same]
    unfold addVersion versionAt at *
    rw [find?_append, isFree]
    simp
  have fits : request.contact = grant.contact ∧ request.purpose = grant.purpose := by
    rcases kind with ⟨-, contact, purpose⟩ | ⟨-, narrows⟩
    · exact ⟨contact.symm.trans rowContact, purpose.symm.trans rowPurpose⟩
    · obtain ⟨-, contact, purpose, -⟩ := (GrantRequest.narrows_iff rowValid).mp narrows
      exact ⟨contact.trans rowContact, purpose.trans rowPurpose⟩
  refine ⟨?_, ?_, ?_, ?_⟩
  · rw [same, addVersion, map_append, sound.numbered, length_append, length_singleton, range_succ,
      map_append, map_singleton, map_singleton, sound.latest]
  · rw [same, addVersion, length_append, length_singleton, Int.natCast_succ, sound.latest]
  · rw [same]
    exact Table.forall_mem_concat sound.bound ⟨valid, fits⟩
  · rcases kind with ⟨rfl, -, -⟩ | ⟨rfl, narrows⟩
    · refine ⟨⟨next.currentVersion, .replace⟩, _, _, ?_, isNewRow, isNewRow,
        request.narrows_refl valid⟩
      rw [same, latestIssue, addVersion, filter_append]
      exact getLast?_concat ..
    · have issuedValid := (sound.bound issued (mem_of_find?_eq_some isIssued)).1
      refine ⟨issue, issued, _, ?_, ?_, isNewRow,
        GrantRequest.narrows_trans rowValid issuedValid narrows narrower⟩
      · rw [same, latestIssue, addVersion, filter_append]
        exact (congrArg getLast? (append_nil _)).trans isIssue
      · rw [same]
        unfold addVersion versionAt at *
        rw [find?_append, isIssued]
        rfl

/-- Revoking keeps a grant sound. -/
theorem Sound.close {grant : Grant} (sound : grant.Sound) (now : Int)
    (closing : operation = .revoke ∨ operation = .withdraw) :
    (grant.close now operation).Sound := by
  refine ⟨sound.numbered, sound.latest, sound.bound, ?_⟩
  have same : (grant.close now operation).latestIssue = grant.latestIssue := by
    rcases closing with rfl | rfl
    all_goals
      rw [latestIssue, Grant.close, filter_append]
      exact congrArg getLast? (append_nil _)
  rw [same]
  exact sound.narrowed

end Grant

theorem mem_closeAll_iff {next : Grant} {grants : Grants} :
    next ∈ (closeAll selects now operation grants).rows ↔
      (next ∈ grants.rows ∧ (selects next && next.revokedMs.isNone) = false) ∨
        ∃ grant ∈ grants.rows, (selects grant && grant.revokedMs.isNone) ∧
          next = grant.close now operation :=
  Table.mem_update_iff

section

variable {holds : Grant → Prop}
  (created : ∀ {account fresh request grant}, request.validate = .ok () →
    (Grant.blank account fresh request).insertVersion 1 request .create = .ok grant → holds grant)
  (extended : ∀ {grant next : Grant}, holds grant → grant.Extends next → holds next)
  (closed : ∀ {grant : Grant} {operation} now, holds grant →
    operation = .revoke ∨ operation = .withdraw → holds (grant.close now operation))

include created extended closed

theorem Moves.keeps {grants next : Grants} (moves : Moves grants next)
    (kept : ∀ grant ∈ grants.rows, holds grant) : ∀ grant ∈ next.rows, holds grant := by
  intro grant listed
  cases moves with
  | idle => exact kept grant listed
  | created valid _ isNew =>
    rcases mem_put_iff.mp listed with rfl | ⟨listed, _⟩
    · exact created valid isNew
    · exact kept grant listed
  | extended present extending =>
    rcases mem_put_iff.mp listed with rfl | ⟨listed, _⟩
    · exact extended (kept _ present) extending
    · exact kept grant listed
  | closed selects now closing =>
    rcases mem_closeAll_iff.mp listed with ⟨listed, _⟩ | ⟨old, present, _, rfl⟩
    · exact kept grant listed
    · exact closed now (kept old present) closing

/-- What the creation of a grant establishes and its later moves keep holds of
every grant along every run. -/
theorem run_keeps (actions : List Action) {grants : Grants}
    (kept : ∀ grant ∈ grants.rows, holds grant) :
    ∀ grant ∈ (run actions grants).rows, holds grant := by
  induction actions generalizing grants with
  | nil => exact kept
  | cons action rest ih =>
    exact ih ((moves_step grants action).keeps created extended closed kept)

end

theorem precedes_closeAll {grants : Grants} (selects : Grant → Bool) (now : Int)
    (operation : Operation) (listed : grant ∈ grants.rows) :
    ∃ next ∈ (closeAll selects now operation grants).rows, grant.Precedes next ∧
      next.versions = grant.versions ∧ (selects grant → next.revokedMs.isSome) := by
  cases selected : selects grant && grant.revokedMs.isNone with
  | true =>
    exact ⟨_, mem_closeAll_iff.mpr (.inr ⟨grant, listed, selected, rfl⟩),
      ⟨rfl, rfl, rfl, prefix_rfl, fun _ => ⟨rfl, rfl⟩⟩, rfl, fun _ => rfl⟩
  | false =>
    refine ⟨grant, mem_closeAll_iff.mpr (.inl ⟨listed, selected⟩), .refl grant, rfl, ?_⟩
    intro isSelected
    rw [isSelected, Bool.true_and] at selected
    simpa using selected

theorem Moves.precedes {grants next : Grants} (moves : Moves grants next)
    (listed : grant ∈ grants.rows) : ∃ later ∈ next.rows, grant.Precedes later := by
  cases moves with
  | idle => exact ⟨grant, listed, .refl grant⟩
  | created _ absent isNew =>
    refine ⟨grant, mem_put_iff.mpr (.inr ⟨listed, ?_⟩), .refl grant⟩
    rw [(Grant.insertVersion_eq_ok isNew).2]
    exact lookup_eq_none_iff.mp absent grant listed
  | @extended _ next present extending =>
    have precedes := Grant.precedes_extends extending
    by_cases same : grant.key = next.key
    · cases eq_of_key listed present (same.trans precedes.key)
      exact ⟨_, mem_put_iff.mpr (.inl rfl), precedes⟩
    · exact ⟨grant, mem_put_iff.mpr (.inr ⟨listed, same⟩), .refl grant⟩
  | closed selects now =>
    obtain ⟨later, present, precedes, -⟩ := precedes_closeAll selects now _ listed
    exact ⟨later, present, precedes⟩

variable (actions : List Action)

theorem run_sound : ∀ grant ∈ (run actions .empty).rows, grant.Sound :=
  run_keeps Grant.sound_created Grant.Sound.extends (fun now sound => sound.close now) actions nofun

/-- Along every run a grant only gets later. -/
theorem run_precedes {grants : Grants} (listed : grant ∈ grants.rows) :
    ∃ later ∈ (run actions grants).rows, grant.Precedes later := by
  induction actions generalizing grants grant with
  | nil => exact ⟨grant, listed, .refl grant⟩
  | cons action rest ih =>
    obtain ⟨middle, middleListed, first⟩ := (moves_step grants action).precedes listed
    obtain ⟨later, laterListed, second⟩ := ih middleListed
    exact ⟨later, laterListed, first.trans second⟩

/-- What an action closes is revoked in its own versions. -/
theorem closed_of_closes {grants : Grants} {action : Action} (listed : grant ∈ grants.rows)
    (closes : action.closes grants grant) :
    ∃ next ∈ (step grants action).rows, next.key = grant.key ∧
      next.versions = grant.versions ∧ next.revokedMs.isSome := by
  cases action with
  | issue | narrow => cases closes
  | revoke account verdicts id now =>
    obtain ⟨isKey, isOk⟩ := Bool.and_eq_true_iff.mp closes
    change ∃ next ∈ ((Managed.revoke account verdicts id now grants).toOption.getD grants).rows, _
    cases performed : Managed.revoke account verdicts id now grants with
    | error failure =>
      rw [performed] at isOk
      cases isOk
    | ok after =>
      simp only [Managed.revoke, bind_eq_ok] at performed
      obtain ⟨_, -, _, -, _, -, _, -, same⟩ := performed
      cases same
      obtain ⟨next, present, precedes, sameVersions, revoked⟩ :=
        precedes_closeAll (·.key == (account, id)) now .revoke listed
      exact ⟨next, present, precedes.key, sameVersions, revoked isKey⟩
  | withdraw installed account contact purpose now =>
    obtain ⟨rfl, isFor⟩ := Bool.and_eq_true_iff.mp closes
    obtain ⟨next, present, precedes, sameVersions, revoked⟩ :=
      precedes_closeAll (Grant.isFor account contact purpose) now .withdraw listed
    exact ⟨next, present, precedes.key, sameVersions, revoked isFor⟩

/-- Along every run the versions of a grant are numbered in turn, the current one
narrows the last one that a ceremony issued, contact and purpose stay, and after
a revocation or a withdrawn consent there is no new version. -/
theorem grants_never_widen :
    (∀ grant ∈ (run actions .empty).rows, grant.Sound) ∧
      (∀ grant ∈ (run actions .empty).rows, ∀ later,
        ∃ next ∈ (run later (run actions .empty)).rows, next.key = grant.key ∧
          next.contact = grant.contact ∧ next.purpose = grant.purpose ∧
          grant.versions <+: next.versions) ∧
      ∀ grant ∈ (run actions .empty).rows, ∀ action later,
        action.closes (run actions .empty) grant = true →
          ∃ next ∈ (run (action :: later) (run actions .empty)).rows,
            next.key = grant.key ∧ next.versions = grant.versions := by
  refine ⟨run_sound actions, fun grant listed later => ?_,
    fun grant listed action later closes => ?_⟩
  · obtain ⟨next, present, precedes⟩ := run_precedes later listed
    exact ⟨next, present, precedes.key, precedes.contact, precedes.purpose, precedes.versions⟩
  · obtain ⟨closed, closedListed, isKey, sameVersions, revoked⟩ := closed_of_closes listed closes
    obtain ⟨next, present, precedes⟩ := run_precedes later closedListed
    exact ⟨next, present, precedes.key.trans isKey,
      (precedes.closed revoked).2.trans sameVersions⟩

/-- The columns of the versions agree with their bindings. -/
def Grant.Stored (grant : Grant) : Prop :=
  ∀ row ∈ grant.versions,
    row.policy = row.binding.policy ∧ row.selections = row.binding.selections

theorem Grant.Stored.insertVersion {grant next : Grant} (stored : grant.Stored)
    (isNext : grant.insertVersion version request operation = .ok next) : next.Stored := by
  rw [(insertVersion_eq_ok isNext).2]
  exact Table.forall_mem_concat stored ⟨rfl, rfl⟩

theorem run_stored : ∀ grant ∈ (run actions .empty).rows, grant.Stored := by
  refine run_keeps ?_ ?_ ?_ actions nofun
  · exact fun _ isNew => .insertVersion (by rintro _ ⟨⟩) isNew
  · rintro grant next stored ⟨_, _, _, _, _, isNext, _⟩
    exact stored.insertVersion isNext
  · exact fun _ stored _ => stored

namespace Grant.Sound

variable {grant : Grant} (sound : grant.Sound)

include sound

/-- The current binding of an open grant is read. -/
theorem current_eq (stored : grant.Stored) (isOpen : grant.revokedMs = none)
    (isRow : grant.versionAt grant.currentVersion = some row) :
    grant.current grant.currentVersion = .ok row.binding := by
  have listed := mem_of_find?_eq_some isRow
  obtain ⟨valid, contact, purpose⟩ := sound.bound row listed
  obtain ⟨policy, selections⟩ := stored row listed
  have sorted : row.binding.selections.insertionSort (· ≤ ·) = row.binding.selections :=
    ((GrantRequest.sorted_of_validate valid).imp le_of_lt).insertionSort_eq
  simp only [current, bind_eq_ok, demand_eq_ok, require_eq_ok]
  exact ⟨row, isRow, (), by simp [isOpen], (), valid, (), by simp [contact, purpose, policy],
    (), by simp [selections, sorted], rfl⟩

/-- The next version of a grant can be written. -/
theorem exists_insertVersion (request : GrantRequest) (operation : Operation) :
    ∃ next, grant.insertVersion (grant.currentVersion + 1) request operation = .ok next := by
  have isFree : grant.versionAt (grant.currentVersion + 1) = none := by
    refine find?_eq_none.mpr fun row listed => ?_
    have numbered := mem_map_of_mem (f := Version.version) listed
    rw [sound.numbered] at numbered
    obtain ⟨place, isPlace, same⟩ := mem_map.mp numbered
    have bound := mem_range.mp isPlace
    rw [beq_iff_eq, sound.latest]
    omega
  rw [insertVersion, isFree]
  exact ⟨_, rfl⟩

end Grant.Sound

/-- In every reachable state a session of the owner can narrow an open grant to
exactly the valid requests that narrow its current binding. -/
theorem narrow_accepted_iff (actions : List Action) (grant : Grant)
    (listed : grant ∈ (run actions .empty).rows) (isOpen : grant.revokedMs = none)
    (named : isNamed grant.id grant.currentVersion) (request : GrantRequest)
    (valid : request.validate = .ok ()) :
    ∃ row, grant.versionAt grant.currentVersion = some row ∧ ∀ authorized,
      ((∃ after, narrow grant.account ⟨.ok (), authorized, .ok ()⟩ grant.id grant.currentVersion
        request (run actions .empty) = .ok after) ↔ request.narrows row.binding) := by
  have sound := run_sound actions grant listed
  have stored := run_stored actions grant listed
  obtain ⟨_, _, row, _, _, isRow, _⟩ := sound.narrowed
  have isCurrent := sound.current_eq stored isOpen isRow
  have found : (run actions .empty).lookup (grant.account, grant.id) = some grant :=
    lookup_eq_some_iff.mpr ⟨listed, rfl⟩
  refine ⟨row, isRow, fun authorized => ?_⟩
  simp only [narrow, extend, bind_eq_ok, demand_eq_ok, require_eq_ok]
  constructor
  · rintro ⟨_, _, _, _, _, _, _, _, ⟨_, isGrant, _, isOld, _, narrower, _⟩, _⟩
    cases found.symm.trans isGrant
    cases isCurrent.symm.trans isOld
    exact narrower
  · intro narrower
    obtain ⟨next, isNext⟩ := sound.exists_insertVersion request .narrow
    exact ⟨_, (), valid, (), named, (), trivial, next,
      ⟨grant, found, _, isCurrent, (), narrower, isNext⟩, (), trivial, rfl⟩

/-- A request for two sources. -/
def wideRequest : GrantRequest :=
  let digest := ⟨256, Nat.lt_two_pow_self⟩
  ⟨⟨1, 1, digest, 1, 1⟩, 1, .operational, digest, 900, 8, 4096, 50,
    [⟨1, 1, digest⟩, ⟨2, 3, digest⟩]⟩

/-- A request for one of the sources, for a shorter time and within lower limits. -/
def reducedRequest : GrantRequest :=
  { wideRequest with
    expiresMs := 600, maxCalls := 2, maxInputBytes := 1024, maxCostMicrounits := 0
    selections := wideRequest.selections.tail }

/-- An owner issues the wide request. -/
def creation : List Action := [.issue true 1 ⟨.ok (), .ok (), .ok ()⟩ 1 none wideRequest]

/-- The grant of two sources can be narrowed to one of them. -/
theorem narrow_accepted_iff_creation : ∃ grant ∈ (run creation .empty).rows,
    ∀ authorized, ∃ after, narrow grant.account ⟨.ok (), authorized, .ok ()⟩ grant.id
      grant.currentVersion reducedRequest (run creation .empty) = .ok after := by
  obtain ⟨grant, listed, isOpen, named, reduces⟩ : ∃ grant ∈ (run creation .empty).rows,
      grant.revokedMs = none ∧ isNamed grant.id grant.currentVersion ∧
        (grant.versionAt grant.currentVersion).all (reducedRequest.narrows ·.binding) := by
    decide +kernel
  obtain ⟨row, isRow, accepted⟩ :=
    narrow_accepted_iff creation grant listed isOpen named reducedRequest (by decide +kernel)
  rw [isRow] at reduces
  exact ⟨grant, listed, fun authorized => (accepted authorized).mpr reduces⟩

end Zrotext.Managed
