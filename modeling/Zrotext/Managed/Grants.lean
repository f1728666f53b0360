import Zrotext.Delivery.Schema
import Zrotext.Foundation.BinarySearch
import Zrotext.Foundation.Fallible
import Zrotext.Foundation.Keyed

/-!
# Managed reader grants

An owner issues a grant, and issues it anew, in a ceremony; the owner's session
alone may narrow or revoke it, and a withdrawn consent revokes it. Each operation
is one transaction of the account; one that fails changes nothing.
-/

namespace Zrotext.Managed

open Foundation Delivery Fallible List

/-- A digest of 32 bytes, which are ordered as the number they write. -/
abbrev Digest := Fin (2 ^ 256)

/-- A source that a grant selects, in one of its versions. -/
structure Selection where
  id : Uuid
  version : Int
  digest : Digest
deriving DecidableEq

/-- Selections are ordered by their columns in turn. -/
def Selection.columns (selection : Selection) : Uuid ×ₗ Int ×ₗ Digest :=
  toLex (selection.id, toLex (selection.version, selection.digest))

theorem Selection.columns_injective : Function.Injective Selection.columns := by
  rintro ⟨id, version, digest⟩ ⟨_, _, _⟩ same
  cases same
  rfl

instance : LinearOrder Selection := LinearOrder.lift' _ Selection.columns_injective

/-- The policy under which a grant is given, and its reader. -/
structure PolicyIdentity where
  id : Uuid
  version : Int
  digest : Digest
  reader : Uuid
  readerGeneration : Int
deriving DecidableEq

/-- What a consent is for. -/
inductive Purpose
  | transactional | operational | marketing
deriving DecidableEq

/-- Why an operation fails. -/
inductive Error
  | unavailable | invalid | conflict | forbidden | notFound | authentication | archive | database
deriving DecidableEq

/-- What a grant would allow. -/
structure GrantRequest where
  policy : PolicyIdentity
  contact : Uuid
  purpose : Purpose
  instructionDigest : Digest
  (expiresMs maxCalls maxInputBytes maxCostMicrounits : Int)
  selections : List Selection
deriving DecidableEq

namespace GrantRequest

/-- The pairs of neighbours among the selections. -/
def windows (request : GrantRequest) : List (Selection × Selection) :=
  request.selections.zip request.selections.tail

/-- The limits of every request, whatever is stored. -/
def validate (request : GrantRequest) : Except Error Unit :=
  require .invalid (!([request.policy.id, request.policy.reader, request.contact].contains 0 ||
    request.policy.version ≤ 0 || request.policy.readerGeneration ≤ 0 ||
    request.policy.digest == 0 || request.instructionDigest == 0 || request.expiresMs ≤ 0 ||
    request.maxCalls < 0 || request.maxInputBytes < 0 || request.maxCostMicrounits < 0 ||
    32 < request.selections.length ||
    request.selections.any (fun selection => selection.id == 0 ||
      !(1 ≤ selection.version && selection.version ≤ 128) || selection.digest == 0) ||
    request.windows.any (fun window => window.1 ≥ window.2) ||
    request.windows.any (fun window => window.1.id == window.2.id)))

/-- Whether a request asks for no more than another. -/
def narrows (request old : GrantRequest) : Bool :=
  request.policy == old.policy && request.contact == old.contact &&
    request.purpose == old.purpose && request.instructionDigest == old.instructionDigest &&
    request.expiresMs ≤ old.expiresMs && request.maxCalls ≤ old.maxCalls &&
    request.maxInputBytes ≤ old.maxInputBytes &&
    request.maxCostMicrounits ≤ old.maxCostMicrounits &&
    request.selections.all (BinarySearch.contains old.selections ·)

/-- Rows whose neighbours increase are sorted. -/
theorem pairwise_of_windows {rows : List Selection}
    (increasing : (rows.zip rows.tail).any (fun window => window.1 ≥ window.2) = false) :
    rows.Pairwise (· < ·) := by
  induction rows with
  | nil => exact .nil
  | cons first rest ih =>
    cases rest with
    | nil => exact pairwise_singleton _ _
    | cons second rest =>
      simp only [tail_cons, zip_cons_cons, any_cons, Bool.or_eq_false_iff,
        decide_eq_false_iff_not, not_le] at increasing ih
      have sorted := ih increasing.2
      refine pairwise_cons.mpr ⟨fun later listed => ?_, sorted⟩
      rcases mem_cons.mp listed with rfl | listed
      · exact increasing.1
      · exact increasing.1.trans (rel_of_pairwise_cons sorted listed)

/-- The selections of a valid request are sorted. -/
theorem sorted_of_validate {request : GrantRequest} (valid : request.validate = .ok ()) :
    request.selections.Pairwise (· < ·) := by
  have holds := require_eq_ok.mp valid
  simp only [Bool.not_or, Bool.and_eq_true, Bool.not_eq_true'] at holds
  exact pairwise_of_windows holds.1.2

/-- A request narrows a valid one if it asks for no more in any respect. -/
theorem narrows_iff {request old : GrantRequest} (valid : old.validate = .ok ()) :
    request.narrows old ↔ request.policy = old.policy ∧ request.contact = old.contact ∧
      request.purpose = old.purpose ∧ request.instructionDigest = old.instructionDigest ∧
      request.expiresMs ≤ old.expiresMs ∧ request.maxCalls ≤ old.maxCalls ∧
      request.maxInputBytes ≤ old.maxInputBytes ∧
      request.maxCostMicrounits ≤ old.maxCostMicrounits ∧
      request.selections ⊆ old.selections := by
  simp only [narrows, Bool.and_eq_true, beq_iff_eq, decide_eq_true_eq, all_eq_true,
    BinarySearch.contains_iff (sorted_of_validate valid), and_assoc]
  rfl

theorem narrows_refl {request : GrantRequest} (valid : request.validate = .ok ()) :
    request.narrows request :=
  (narrows_iff valid).mpr ⟨rfl, rfl, rfl, rfl, le_rfl, le_rfl, le_rfl, le_rfl, Subset.refl _⟩

/-- Narrowing twice is narrowing. -/
theorem narrows_trans {request middle old : GrantRequest} (middleValid : middle.validate = .ok ())
    (valid : old.validate = .ok ()) (narrower : request.narrows middle)
    (narrowed : middle.narrows old) : request.narrows old := by
  obtain ⟨policy, contact, purpose, instruction, expires, calls, input, cost, selections⟩ :=
    (narrows_iff middleValid).mp narrower
  obtain ⟨policy', contact', purpose', instruction', expires', calls', input', cost',
    selections'⟩ := (narrows_iff valid).mp narrowed
  exact (narrows_iff valid).mpr ⟨policy.trans policy', contact.trans contact',
    purpose.trans purpose', instruction.trans instruction', expires.trans expires',
    calls.trans calls', input.trans input', cost.trans cost',
    fun _ listed => selections' (selections listed)⟩

end GrantRequest

/-- The operations on a grant. -/
inductive Operation
  | create | replace | narrow | revoke | withdraw
deriving DecidableEq

/-- A version of a grant, with the rows of its selections. -/
structure Version where
  version : Int
  policy : PolicyIdentity
  binding : GrantRequest
  selections : List Selection
deriving DecidableEq

/-- An operation on a version of a grant. -/
structure Event where
  version : Int
  operation : Operation
deriving DecidableEq

/-- A grant, with the rows of its versions and events. -/
structure Grant where
  (account id contact : Uuid)
  purpose : Purpose
  currentVersion : Int
  revokedMs : Option Int := none
  versions : List Version := []
  events : List Event := []
deriving DecidableEq

namespace Grant

/-- Grants are told apart within an account. -/
def key (grant : Grant) : Uuid × Uuid := (grant.account, grant.id)

/-- The row of a version. -/
def versionAt (grant : Grant) (version : Int) : Option Version :=
  grant.versions.find? (·.version == version)

/-- The binding of the current version, which must be the expected one. -/
def current (grant : Grant) (expected : Int) : Except Error GrantRequest := do
  let row ← demand .notFound (grant.versionAt grant.currentVersion)
  require .conflict (grant.currentVersion == expected && grant.revokedMs.isNone)
  row.binding.validate
  require .unavailable (row.binding.contact == grant.contact &&
    row.binding.purpose == grant.purpose && row.binding.policy == row.policy)
  require .unavailable (row.selections.insertionSort (· ≤ ·) == row.binding.selections)
  return row.binding

/-- A grant before its first version. -/
def blank (account id : Uuid) (request : GrantRequest) : Grant :=
  { account, id, contact := request.contact, purpose := request.purpose, currentVersion := 1 }

/-- One more version, which is the current one from here on. -/
def addVersion (version : Int) (request : GrantRequest) (operation : Operation)
    (grant : Grant) : Grant :=
  { grant with
    currentVersion := version
    versions := grant.versions ++ [⟨version, request.policy, request, request.selections⟩]
    events := grant.events ++ [⟨version, operation⟩] }

/-- Write a version, which must not exist. -/
def insertVersion (version : Int) (request : GrantRequest) (operation : Operation)
    (grant : Grant) : Except Error Grant := do
  require .database (grant.versionAt version).isNone
  return grant.addVersion version request operation

/-- Revoke a grant. -/
def close (now : Int) (operation : Operation) (grant : Grant) : Grant :=
  { grant with
    revokedMs := some now
    events := grant.events ++ [⟨grant.currentVersion, operation⟩] }

end Grant

/-- The table of grants. -/
abbrev Grants := Keyed Grant.key

/-- What the checks of an operation outside these tables say, before the grant is
read, before it is written and before the commit. -/
structure Verdicts where
  (admitted authorized confirmed : Except Error Unit)

/-- Whether a request may name a grant and the version it expects. -/
def isNamed (id : Uuid) (expected : Int) : Bool := id != 0 && (1 ≤ expected && expected < 128)

/-- An existing grant under its next version. -/
def extend (account id : Uuid) (expected : Int) (request : GrantRequest) (operation : Operation)
    (accepts : GrantRequest → Except Error Unit) (grants : Grants) : Except Error Grant := do
  let grant ← demand .notFound (grants.lookup (account, id))
  let old ← grant.current expected
  accepts old
  grant.insertVersion (expected + 1) request operation

/-- A grant under a fresh identifier, or an existing one anew. -/
def draft (account : Uuid) (verdicts : Verdicts) (fresh : Uuid) (request : GrantRequest)
    (grants : Grants) : Option (Uuid × Int) → Except Error Grant
  | some (id, expected) => do
    require .invalid (isNamed id expected)
    extend account id expected request .replace (fun old => do
      require .invalid (old.contact == request.contact && old.purpose == request.purpose)
      verdicts.authorized) grants
  | none => do
    require .conflict ((grants.rows.filter (·.account == account)).length < 128)
    verdicts.authorized
    require .database (grants.lookup (account, fresh)).isNone
    (Grant.blank account fresh request).insertVersion 1 request .create

/-- Issue a grant, or an existing one anew, in a ceremony. -/
def issue (candidate : Bool) (account : Uuid) (verdicts : Verdicts) (fresh : Uuid)
    (existing : Option (Uuid × Int)) (request : GrantRequest) (grants : Grants) :
    Except Error Grants := do
  require .unavailable candidate
  request.validate
  verdicts.admitted
  let grant ← draft account verdicts fresh request grants existing
  verdicts.confirmed
  return grants.put grant

/-- Narrow a grant in the owner's session. -/
def narrow (account : Uuid) (verdicts : Verdicts) (id : Uuid) (expected : Int)
    (request : GrantRequest) (grants : Grants) : Except Error Grants := do
  request.validate
  require .invalid (isNamed id expected)
  verdicts.admitted
  let grant ← extend account id expected request .narrow
    (fun old => require .forbidden (request.narrows old)) grants
  verdicts.confirmed
  return grants.put grant

/-- Revoke the selected grants that are not revoked. -/
def closeAll (selects : Grant → Bool) (now : Int) (operation : Operation) (grants : Grants) :
    Grants :=
  grants.revise (fun grant => selects grant && grant.revokedMs.isNone)
    (Grant.close now operation) fun _ => rfl

/-- Revoke a grant in the owner's session. -/
def revoke (account : Uuid) (verdicts : Verdicts) (id : Uuid) (now : Int) (grants : Grants) :
    Except Error Grants := do
  require .invalid (id != 0)
  verdicts.admitted
  let _ ← demand .notFound (grants.lookup (account, id))
  verdicts.confirmed
  return closeAll (·.key == (account, id)) now .revoke grants

/-- Whether a grant is of a contact and purpose. -/
def Grant.isFor (account contact : Uuid) (purpose : Purpose) (grant : Grant) : Bool :=
  grant.account == account && grant.contact == contact && grant.purpose == purpose

/-- A withdrawn consent, where the tables are installed. -/
def withdraw (installed : Bool) (account contact : Uuid) (purpose : Purpose) (now : Int)
    (grants : Grants) : Grants :=
  if installed then closeAll (Grant.isFor account contact purpose) now .withdraw grants
  else grants

/-- The operations, of which creating and replacing are two ways to issue. -/
inductive Action
  | issue (candidate : Bool) (account : Uuid) (verdicts : Verdicts) (fresh : Uuid)
      (existing : Option (Uuid × Int)) (request : GrantRequest)
  | narrow (account : Uuid) (verdicts : Verdicts) (id : Uuid) (expected : Int)
      (request : GrantRequest)
  | revoke (account : Uuid) (verdicts : Verdicts) (id : Uuid) (now : Int)
  | withdraw (installed : Bool) (account contact : Uuid) (purpose : Purpose) (now : Int)

/-- What an action makes of the grants. -/
def Action.perform : Action → Grants → Except Error Grants
  | .issue candidate account verdicts fresh existing request =>
    Managed.issue candidate account verdicts fresh existing request
  | .narrow account verdicts id expected request =>
    Managed.narrow account verdicts id expected request
  | .revoke account verdicts id now => Managed.revoke account verdicts id now
  | .withdraw installed account contact purpose now => fun grants =>
    .ok (Managed.withdraw installed account contact purpose now grants)

/-- Whether an action revokes a grant, as revocation or as withdrawn consent. -/
def Action.closes (grants : Grants) (grant : Grant) : Action → Bool
  | .revoke account verdicts id now => grant.key == (account, id) &&
      (Managed.revoke account verdicts id now grants).toOption.isSome
  | .withdraw installed account contact purpose _ =>
    installed && grant.isFor account contact purpose
  | .issue .. | .narrow .. => false

/-- The grants after an action, which changes nothing if it fails. -/
def step (grants : Grants) (action : Action) : Grants :=
  (action.perform grants).toOption.getD grants

/-- The grants after some actions. -/
def run (actions : List Action) (grants : Grants) : Grants := actions.foldl step grants

/-- A grant gets its next version, in a ceremony or by narrowing the current one. -/
structure Grant.Extends (grant next : Grant) : Prop where
  isOpen : grant.revokedMs = none
  exists_request : ∃ request operation row, request.validate = .ok () ∧
    grant.insertVersion (grant.currentVersion + 1) request operation = .ok next ∧
    grant.versionAt grant.currentVersion = some row ∧
    ((operation = .replace ∧ row.binding.contact = request.contact ∧
        row.binding.purpose = request.purpose) ∨
      (operation = .narrow ∧ request.narrows row.binding = true))

/-- What an operation does to the grants. -/
inductive Moves (grants : Grants) : Grants → Prop
  | idle : Moves grants grants
  | created (valid : request.validate = .ok ())
      (absent : grants.lookup (account, fresh) = none)
      (isNew : (Grant.blank account fresh request).insertVersion 1 request .create = .ok grant) :
      Moves grants (grants.put grant)
  | extended {next : Grant} (listed : grant ∈ grants.rows) (extending : grant.Extends next) :
      Moves grants (grants.put next)
  | closed (selects : Grant → Bool) (now : Int)
      (closing : operation = .revoke ∨ operation = .withdraw) :
      Moves grants (closeAll selects now operation grants)

/-- A next version is written for an open grant whose current one is accepted. -/
theorem extend_eq_ok {next : Grant} {id : Uuid}
    (isNext : extend account id expected request operation accepts grants = .ok next) :
    ∃ grant ∈ grants.rows, grant.revokedMs = none ∧ ∃ row,
      grant.versionAt grant.currentVersion = some row ∧ accepts row.binding = .ok () ∧
      grant.insertVersion (grant.currentVersion + 1) request operation = .ok next := by
  simp only [extend, Grant.current, bind_eq_ok, demand_eq_ok, require_eq_ok, Bool.and_eq_true,
    beq_iff_eq, Option.isNone_iff_eq_none] at isNext
  obtain ⟨grant, found, old, ⟨row, isRow, _, ⟨isCurrent, isOpen⟩, _, -, _, -, _, -, same⟩, _,
    accepted, isNext⟩ := isNext
  cases same
  rw [← isCurrent] at isNext
  exact ⟨grant, (Keyed.lookup_eq_some_iff.mp found).1, isOpen, row, isRow, accepted, isNext⟩

/-- Issuing creates or extends a grant. -/
theorem moves_issue {after : Grants}
    (isOk : issue candidate account verdicts fresh existing request grants = .ok after) :
    Moves grants after := by
  simp only [issue, bind_eq_ok] at isOk
  obtain ⟨_, -, _, valid, _, -, grant, isGrant, _, -, same⟩ := isOk
  cases same
  cases existing with
  | none =>
    simp only [draft, bind_eq_ok, require_eq_ok, Option.isNone_iff_eq_none] at isGrant
    obtain ⟨_, -, _, -, _, absent, isNew⟩ := isGrant
    exact .created valid absent isNew
  | some named =>
    simp only [draft, bind_eq_ok] at isGrant
    obtain ⟨_, -, isNext⟩ := isGrant
    obtain ⟨old, listed, isOpen, row, isRow, accepted, isNext⟩ := extend_eq_ok isNext
    simp only [bind_eq_ok, require_eq_ok, Bool.and_eq_true, beq_iff_eq] at accepted
    obtain ⟨_, same, -⟩ := accepted
    exact .extended listed ⟨isOpen, request, .replace, row, valid, isNext, isRow, .inl ⟨rfl, same⟩⟩

/-- Every action makes one of the moves. -/
theorem moves_step (grants : Grants) (action : Action) : Moves grants (step grants action) := by
  unfold step
  cases performed : action.perform grants with
  | error failure => exact .idle
  | ok after =>
    cases action with
    | issue => exact moves_issue performed
    | narrow account verdicts id expected request =>
      simp only [Action.perform, Managed.narrow, bind_eq_ok] at performed
      obtain ⟨_, valid, _, -, _, -, next, isNext, _, -, same⟩ := performed
      cases same
      obtain ⟨old, listed, isOpen, row, isRow, accepted, isNext⟩ := extend_eq_ok isNext
      exact .extended listed ⟨isOpen, request, .narrow, row, valid, isNext, isRow,
        .inr ⟨rfl, require_eq_ok.mp accepted⟩⟩
    | revoke account verdicts id now =>
      simp only [Action.perform, Managed.revoke, bind_eq_ok] at performed
      obtain ⟨_, -, _, -, _, -, _, -, same⟩ := performed
      cases same
      exact .closed _ now (.inl rfl)
    | withdraw installed account contact purpose now =>
      cases performed
      cases installed with
      | false => exact .idle
      | true => exact .closed _ now (.inr rfl)

end Zrotext.Managed
