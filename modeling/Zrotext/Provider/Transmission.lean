import Zrotext.Provider.Evolution

/-!
# Transmissions

Workers lease an intent, encode the message, check everything again, submit the
body and record the response.  Any number of them run at once, among all other
transactions, and any of them may stop for good at any point.
-/

namespace Zrotext.Provider

open Foundation Delivery Fallible List Table

inductive TransportOutcome
  | accepted (messageId : Uuid)
  | refused (status : Nat)
  | lost
deriving DecidableEq

inductive Tick
  | idle
  | released (attempt : Uuid)
  | refused (attempt : Uuid) (status : Nat)
  | accepted (attempt messageId : Uuid)
  | lost (attempt : Uuid)
deriving DecidableEq

inductive SenderError
  | material
  | database (failure : DispatchError)
deriving DecidableEq

/-- What is recorded for an outcome. -/
def TransportOutcome.response : TransportOutcome → ResponseOutcome
  | .accepted messageId => .accepted messageId
  | .refused _ => .released
  | .lost => .lost

def TransportOutcome.tick (attempt : Uuid) : TransportOutcome → Tick
  | .accepted messageId => .accepted attempt messageId
  | .refused status => .refused attempt status
  | .lost => .lost attempt

/-- A failed check that releases the attempt. -/
def DispatchError.releases : DispatchError → Bool
  | .suppressed | .expired | .unavailable => true
  | _ => false

/-- How far a worker has come with the attempt that it leased. -/
inductive Phase
  | leased
  | cleared (body : Bytes)
  | withheld
  | submitted (outcome : TransportOutcome)
  | ended (result : Except SenderError Tick)
  | stopped

/-- The worker may still submit. -/
def Phase.maySubmit : Phase → Bool
  | .leased | .cleared _ => true
  | _ => false

/-- A run of the sender that has leased an attempt. -/
structure Task where
  permit : ElectedWriterPermit
  account : Uuid
  material : Material
  attempt : Uuid
  phase : Phase

namespace Task

def key (task : Task) : Uuid × Uuid := (task.account, task.attempt)

/-- Encode the message and check the attempt again. -/
def check (sha256 : Bytes → Bytes) (surroundings : Surroundings) (attempts : SendAttempts)
    (task : Task) : Phase :=
  match encode sha256 task.material.request task.material.recipient task.material.content with
  | .error _ => .ended (.error .material)
  | .ok body =>
    match preflight sha256 surroundings task.permit task.account task.attempt
        task.material attempts with
    | .ok () => .cleared body
    | .error failure =>
      if failure.releases then .withheld
      else .ended (.error (.database failure))

/-- Record a response and return. -/
def record (surroundings : Surroundings) (attempts : SendAttempts) (task : Task)
    (outcome : ResponseOutcome) (tick : Tick) : Phase × SendAttempts :=
  match recordResponse surroundings task.permit task.account task.attempt outcome attempts with
  | .ok (_, after) => (.ended (.ok tick), after)
  | .error failure => (.ended (.error (.database failure)), attempts)

end Task

/-- A call of the transport. -/
structure Submission where
  (account attempt : Uuid)
  body : Bytes
deriving DecidableEq

def Submission.key (submission : Submission) : Uuid × Uuid :=
  (submission.account, submission.attempt)

/-- The table and the workers, with the rows that intents have added and the
calls of the transport. -/
structure System where
  attempts : SendAttempts
  tasks : List Task
  committed : List SendAttempt
  submissions : List Submission

inductive Action
  | commitSubmitIntent (surroundings : Surroundings) (intent : Intent)
  | claimIntended (surroundings : Surroundings) (permit : ElectedWriterPermit)
      (account : Uuid) (limit : Int) (locked : List Uuid) (drawn : Uuid → Uuid)
  | preflight (surroundings : Surroundings) (permit : ElectedWriterPermit)
      (account attempt : Uuid) (material : Material)
  | recordResponse (surroundings : Surroundings) (permit : ElectedWriterPermit)
      (account attempt : Uuid) (outcome : ResponseOutcome)
  | sendOne (surroundings : Surroundings) (permit : ElectedWriterPermit)
      (account : Uuid) (material : Material) (locked : List Uuid) (drawn : Uuid → Uuid)
  | check (place : Nat) (surroundings : Surroundings)
  | submit (place : Nat) (outcome : TransportOutcome)
  | record (place : Nat) (surroundings : Surroundings)
  | crash (place : Nat)
  | erase (nowMs : Int) (now : Time) (account attempt : Uuid)

namespace System

def start : System := ⟨.empty, [], [], []⟩

/-- A task goes on to a phase. -/
def setPhase (place : Nat) (task : Task) (phase : Phase) (system : System) : System :=
  { system with tasks := system.tasks.set place { task with phase } }

/-- The rows after a transaction: a failed one is rolled back. -/
def settle (result : Except DispatchError SendAttempts) (system : System) : System :=
  match result with
  | .ok after => { system with attempts := after }
  | .error _ => system

section Steps

variable (sha256 : Bytes → Bytes)

variable (place : Nat) (surroundings : Surroundings)

def commit (intent : Intent) (system : System) : System :=
  match Provider.commitSubmitIntent sha256 surroundings intent system.attempts with
  | .ok (outcome, after) =>
    { system with
      attempts := after
      committed :=
        if outcome.created then
          system.committed ++ [intent.row sha256 surroundings]
        else system.committed }
  | .error _ => system

/-- A worker begins: it leases at most one attempt. -/
def begin (permit : ElectedWriterPermit) (account : Uuid)
    (material : Material) (locked : List Uuid) (drawn : Uuid → Uuid) (system : System) : System :=
  match Provider.claimIntended surroundings permit account 1 locked drawn system.attempts with
  | .ok ([lease], after) =>
    { system with
      attempts := after, tasks := system.tasks ++
        [⟨permit, account, material, lease.attemptId, .leased⟩] }
  | .ok (_, after) => { system with attempts := after }
  | .error _ => system

def submit (outcome : TransportOutcome) (system : System) : System :=
  match system.tasks[place]? with
  | none => system
  | some task =>
    match task.phase with
    | .cleared body =>
      { system.setPhase place task (.submitted outcome) with
        submissions := system.submissions ++
          [⟨task.account, task.attempt, body⟩] }
    | _ => system

def check (place : Nat) (surroundings : Surroundings) (system : System) : System :=
  match system.tasks[place]? with
  | none => system
  | some task =>
    match task.phase with
    | .leased => system.setPhase place task (task.check sha256 surroundings system.attempts)
    | _ => system

/-- A task records a response and ends. -/
def conclude (task : Task) (outcome : ResponseOutcome) (tick : Tick) (system : System) : System :=
  let recorded := task.record surroundings system.attempts outcome tick
  { system.setPhase place task recorded.1 with attempts := recorded.2 }

def record (system : System) : System :=
  match system.tasks[place]? with
  | none => system
  | some task =>
    match task.phase with
    | .withheld => system.conclude place surroundings task .released (.released task.attempt)
    | .submitted outcome => system.conclude place surroundings task
        outcome.response (outcome.tick task.attempt)
    | _ => system

def crash (system : System) : System :=
  match system.tasks[place]? with
  | none => system
  | some task => system.setPhase place task .stopped

def step (system : System) : Action → System
  | .commitSubmitIntent surroundings intent =>
    system.commit sha256 surroundings intent
  | .claimIntended surroundings permit account limit locked drawn =>
    system.settle ((Provider.claimIntended surroundings permit account limit
      locked drawn system.attempts).map Prod.snd)
  | .preflight _ _ _ _ _ => system
  | .recordResponse surroundings permit account attempt outcome =>
    system.settle ((Provider.recordResponse surroundings permit account
      attempt outcome system.attempts).map Prod.snd)
  | .sendOne surroundings permit account material locked drawn =>
    system.begin surroundings permit account material locked drawn
  | .check place surroundings => system.check sha256 place surroundings
  | .submit place outcome => system.submit place outcome
  | .record place surroundings => system.record place surroundings
  | .crash place => system.crash place
  | .erase nowMs now account attempt =>
    system.settle (eraseAttempt nowMs now account attempt system.attempts)

def run (actions : List Action) (system : System) : System := actions.foldl (step sha256) system

end Steps

/-- The revision of an action that a call of the transport is for. -/
def actionOf (system : System) (submission : Submission) : Option (Uuid × Uuid × Int) :=
  (system.committed.find? fun row => decide (row.key = submission.key)).map SendAttempt.actionKey

/-- A body is the encoding of a message whose request has the digest that was
committed for an attempt. -/
def Encodes (sha256 : Bytes → Bytes) (committed : List SendAttempt) (key : Uuid × Uuid)
    (body : Bytes) : Prop :=
  ∃ row ∈ committed, row.key = key ∧ ∃ route recipient text request,
    Request.new sha256 route recipient (.providerPlaintext text) = .ok request ∧
    row.requestDigest = some request.digest ∧
    body = utf8 (wireBody route recipient text).json

theorem Encodes.mono {committed : List SendAttempt} (included : committed ⊆ more)
    (encodes : Encodes sha256 committed key body) : Encodes sha256 more key body := by
  obtain ⟨row, isCommitted, isKey, meaning⟩ := encodes
  exact ⟨row, included isCommitted, isKey, meaning⟩

/-- The stored rows and the committed ones. -/
structure Recorded (attempts : SendAttempts) (committed : List SendAttempt) : Prop where
  stored : ∀ row ∈ committed, ∃ new ∈ attempts.rows, row.Follows new
  origin : ∀ new ∈ attempts.rows, ∃ row ∈ committed, row.Follows new
  distinct : (committed.map SendAttempt.key).Nodup

/-- The workers and what they have submitted. -/
structure Works
    (sha256 : Bytes → Bytes)
    (attempts : SendAttempts)
    (committed : List SendAttempt)
    (tasks : List Task)
    (submissions : List Submission) : Prop where
  leased : ∀ task ∈ tasks, ∃ row ∈ attempts.rows, row.key = task.key ∧ row.state ≠ some .intended
  distinct : (tasks.map Task.key).Nodup
  cleared : ∀ task ∈ tasks, ∀ body, task.phase = .cleared body →
    Encodes sha256 committed task.key body
  past : ∀ submission ∈ submissions, ∃ task ∈ tasks,
    task.key = submission.key ∧ task.phase.maySubmit = false
  once : (submissions.map Submission.key).Nodup
  encodes : ∀ submission ∈ submissions, Encodes sha256 committed submission.key submission.body

structure Invariant (sha256 : Bytes → Bytes) (system : System) : Prop where
  recorded : Recorded system.attempts system.committed
  works : Works sha256 system.attempts system.committed system.tasks system.submissions

section Invariant

variable {system : System}

theorem invariant_start : Invariant sha256 start where
  recorded :=
    { stored := forall_mem_nil _
      origin := forall_mem_nil _
      distinct := nodup_nil }
  works :=
    { leased := forall_mem_nil _
      distinct := nodup_nil
      cleared := forall_mem_nil _
      past := forall_mem_nil _
      once := nodup_nil
      encodes := forall_mem_nil _ }

variable {committed : List SendAttempt} {attempts after : SendAttempts}
  {submissions : List Submission} {tasks : List Task} {task : Task}

theorem Recorded.advance (recorded : Recorded attempts committed)
    (advances : attempts.Advances after) : Recorded after committed where
  stored := by
    intro row isCommitted
    obtain ⟨old, isOld, follows⟩ := recorded.stored row isCommitted
    obtain ⟨new, isNew, followsOn⟩ := advances.kept old isOld
    exact ⟨new, isNew, follows.trans followsOn⟩
  origin := by
    intro new isNew
    obtain ⟨old, isOld, followsOn⟩ := advances.origin new isNew
    obtain ⟨row, isCommitted, follows⟩ := recorded.origin old isOld
    exact ⟨row, isCommitted, follows.trans followsOn⟩
  distinct := recorded.distinct

theorem Works.advance (works : Works sha256 attempts committed tasks submissions)
    (advances : attempts.Advances after) : Works sha256 after committed tasks submissions :=
  { works with
    leased := fun task listed => advances.spent (works.leased task listed) }

theorem map_snd_eq_ok {α : Type} {result : Except DispatchError (α × SendAttempts)}
    (isOk : result.map Prod.snd = .ok after) :
    ∃ value, result = .ok (value, after) := by
  cases result with
  | error failure => cases isOk
  | ok pair =>
    cases isOk
    exact ⟨pair.1, rfl⟩

/-- A new row is committed under a key of its own. -/
theorem Recorded.add {row : SendAttempt} (recorded : Recorded attempts committed)
    (isNew : ∀ known ∈ attempts.rows, known.key ≠ row.key) (isRow : ∀ other, other ∈ after.rows ↔
      other ∈ attempts.rows ∨ other = row) :
    Recorded after (committed ++ [row]) where
  stored := by
    refine forall_mem_concat (fun known isOld => ?_) ⟨row, (isRow row).mpr (.inr rfl), .refl row⟩
    obtain ⟨new, isStored, follows⟩ := recorded.stored known isOld
    exact ⟨new, (isRow new).mpr (.inl isStored), follows⟩
  origin := by
    intro new isStored
    rcases (isRow new).mp isStored with isOld | rfl
    · obtain ⟨known, isCommitted, follows⟩ := recorded.origin new isOld
      exact ⟨known, mem_append_left _ isCommitted, follows⟩
    · exact ⟨new, mem_append_right _ (mem_singleton_self new), .refl new⟩
  distinct := by
    refine nodup_map_concat recorded.distinct ?_
    intro known isCommitted sameKey
    obtain ⟨new, isStored, follows⟩ := recorded.stored known isCommitted
    exact isNew new isStored (follows.key.trans sameKey)

theorem Works.commit (works : Works sha256 attempts committed tasks submissions)
    (kept : ∀ row ∈ attempts.rows, row ∈ after.rows) (included : committed ⊆ more) :
    Works sha256 after more tasks submissions :=
  { works with
    leased := by
      intro task listed
      obtain ⟨row, present, meaning⟩ := works.leased task listed
      exact ⟨row, kept row present, meaning⟩
    cleared := fun task listed body isCleared =>
      (works.cleared task listed body isCleared).mono included
    encodes := fun submission listed =>
      (works.encodes submission listed).mono included }

/-- A task goes on to a phase in which it has not submitted, or one that it
does not leave by submitting. -/
theorem Works.setPhase {phase : Phase}
    (works : Works sha256 attempts committed tasks submissions) (isTask : tasks[place]? = some task)
    (noReturn : task.phase.maySubmit = false → phase.maySubmit = false)
    (encodes : ∀ body, phase = .cleared body → Encodes sha256 committed task.key body) :
    Works sha256 attempts committed (tasks.set place { task with phase }) submissions := by
  have listed : task ∈ tasks := mem_of_getElem? isTask
  exact
    { leased := by
        intro other isOther
        rcases mem_or_eq_of_mem_set isOther with isOld | rfl
        · exact works.leased other isOld
        · exact works.leased task listed
      distinct := by
        have sameKeys : (tasks.set place { task with phase }).map Task.key =
            tasks.map Task.key := map_set_of_same isTask rfl
        rw [sameKeys]
        exact works.distinct
      cleared := by
        intro other isOther body isCleared
        rcases mem_or_eq_of_mem_set isOther with isOld | rfl
        · exact works.cleared other isOld body isCleared
        · exact encodes body isCleared
      past := by
        intro submission isSubmission
        obtain ⟨other, isOther, sameKey, isPast⟩ :=
          works.past submission isSubmission
        by_cases same : other = task
        · subst same
          exact ⟨{ other with phase },
            mem_set (List.getElem?_eq_some_iff.mp isTask).1 _, sameKey,
            noReturn isPast⟩
        · refine ⟨other, ?_, sameKey, isPast⟩
          exact mem_set_of_ne isTask isOther same _
      once := works.once, encodes := works.encodes }

theorem preflight_eq_ok {surroundings : Surroundings}
    (result : Provider.preflight sha256 surroundings permit account attempt
      material attempts = .ok ()) :
    ∃ row ∈ attempts.rows, row.key = (account, attempt) ∧ row.erasedAt = none ∧
      row.requestDigest = some material.request.digest := by
  simp only [Provider.preflight, bind_eq_ok] at result
  obtain ⟨_, _, _, _, _, _, row, isRow, _, matched, result⟩ := result
  obtain ⟨found, isOpen⟩ := Option.filter_eq_some_iff.mp (demand_eq_ok.mp isRow)
  obtain ⟨present, isKey⟩ := SendAttempts.mem_of_lookup found
  simp only [Bool.and_eq_true, decide_eq_true_eq, Option.isNone_iff_eq_none] at isOpen
  have matches' := require_eq_ok.mp matched
  simp only [Bool.and_eq_true, decide_eq_true_eq] at matches'
  exact ⟨row, present, isKey, isOpen.2, matches'.1.1⟩

/-- A body is cleared only if its request has the committed digest. -/
theorem Recorded.encodes_of_check {surroundings : Surroundings}
    (recorded : Recorded attempts committed)
    (isCleared : task.check sha256 surroundings attempts = .cleared body) :
    Encodes sha256 committed task.key body := by
  unfold Task.check at isCleared
  split at isCleared
  case h_1 => cases isCleared
  case h_2 encoded isEncoded =>
    split at isCleared
    case h_2 =>
      split at isCleared <;> cases isCleared
    case h_1 isPreflight =>
      cases isCleared
      obtain ⟨row, present, isKey, isLive, isDigest⟩ := preflight_eq_ok isPreflight
      obtain ⟨known, isCommitted, follows⟩ := recorded.origin row present
      obtain ⟨text, _, isRequest, isBody⟩ := encode_eq_ok isEncoded
      refine ⟨known, isCommitted, follows.key.symm.trans isKey, _, _, text, _,
        isRequest, ?_, isBody⟩
      rw [← (follows.live isLive).2]
      exact isDigest

theorem Task.record_advances (surroundings : Surroundings) (attempts : SendAttempts) (task : Task)
    (outcome : ResponseOutcome) (tick : Tick) :
    (task.record surroundings attempts outcome tick).1.maySubmit = false ∧ attempts.Advances
        (task.record surroundings attempts outcome tick).2 := by
  unfold Task.record
  split
  case h_1 after result => exact ⟨rfl, recordResponse_eq_ok result⟩
  case h_2 => exact ⟨rfl, .refl attempts⟩

section

variable (invariant : Invariant sha256 system)

include invariant

theorem Invariant.advance (advances : system.attempts.Advances after) :
    Invariant sha256 { system with attempts := after } where
  recorded := invariant.recorded.advance advances
  works := invariant.works.advance advances

theorem Invariant.settle (advances : ∀ after, result = .ok after → system.attempts.Advances after) :
    Invariant sha256 (system.settle result) := by
  cases result with
  | ok after => exact invariant.advance (advances after rfl)
  | error failure => exact invariant

variable (surroundings : Surroundings)

theorem Invariant.commit (intent : Intent) :
    Invariant sha256 (system.commit sha256 surroundings intent) := by
  unfold System.commit
  split
  case h_2 => exact invariant
  case h_1 outcome after result =>
    rcases commitSubmitIntent_eq_ok result with
      ⟨rfl, _, isNew, isRow⟩ | ⟨rfl, rfl, _⟩
    · exact
        { recorded := invariant.recorded.add isNew isRow, works := invariant.works.commit
            (fun row present => (isRow row).mpr (.inl present))
            (subset_append_left _ _) }
    · exact invariant

/-! ## Workers keep it -/

theorem Invariant.begin (permit : ElectedWriterPermit)
    (account : Uuid) (material : Material) (locked : List Uuid) (drawn : Uuid → Uuid) :
    Invariant sha256 (system.begin surroundings permit account material locked drawn) := by
  unfold System.begin
  split
  case h_3 => exact invariant
  case h_2 after _ result =>
    exact invariant.advance (claimIntended_eq_ok result).1
  case h_1 lease after result =>
    obtain ⟨advances, leases⟩ := claimIntended_eq_ok result
    obtain ⟨⟨row, present, isKey, isIntended⟩, isSpent⟩ := leases lease (mem_singleton_self lease)
    have works := invariant.works.advance advances
    refine ⟨invariant.recorded.advance advances, ?_⟩
    exact
      { leased := by
          exact forall_mem_concat works.leased isSpent
        distinct := by
          refine nodup_map_concat works.distinct ?_
          intro task listed sameKey
          obtain ⟨known, isKnown, knownKey, notIntended⟩ :=
            invariant.works.leased task listed
          have same : known = row := system.attempts.table.eq_of_key isKnown
            present (knownKey.trans (sameKey.trans isKey.symm))
          exact notIntended (same ▸ isIntended)
        cleared := by
          refine forall_mem_concat works.cleared ?_
          intro body isCleared
          cases isCleared
        past := by
          intro submission listed
          obtain ⟨task, isTask, meaning⟩ := works.past submission listed
          exact ⟨task, mem_append_left _ isTask, meaning⟩
        once := works.once, encodes := works.encodes }

theorem Invariant.setPhase {phase : Phase} (isTask : system.tasks[place]? = some task)
    (noReturn : task.phase.maySubmit = false → phase.maySubmit = false)
    (encodes : ∀ body, phase = .cleared body → Encodes sha256 system.committed task.key body) :
    Invariant sha256 (system.setPhase place task phase) where
  recorded := invariant.recorded
  works := invariant.works.setPhase isTask noReturn encodes

theorem Invariant.check (place : Nat) (surroundings : Surroundings) :
    Invariant sha256 (system.check sha256 place surroundings) := by
  unfold System.check
  split
  case h_1 => exact invariant
  case h_2 task isTask =>
    split
    case h_2 => exact invariant
    case h_1 isLeased =>
      refine invariant.setPhase isTask ?_ ?_
      · intro impossible
        rw [isLeased] at impossible
        cases impossible
      · intro body isCleared
        exact invariant.recorded.encodes_of_check isCleared

theorem Invariant.submit (place : Nat) (outcome : TransportOutcome) :
    Invariant sha256 (system.submit place outcome) := by
  unfold System.submit
  split
  case h_1 => exact invariant
  case h_2 task isTask =>
    split
    case h_2 => exact invariant
    case h_1 body isCleared =>
      have listed : task ∈ system.tasks := mem_of_getElem? isTask
      have works := (invariant.setPhase isTask (fun _ => rfl)
        nofun : Invariant sha256 (system.setPhase place task (.submitted outcome)))
          |>.works
      refine ⟨invariant.recorded, ?_⟩
      exact
        { works with
          past := by
            refine forall_mem_concat works.past ?_
            exact ⟨{ task with phase := .submitted outcome },
              mem_set (List.getElem?_eq_some_iff.mp isTask).1 _, rfl,
              rfl⟩
          once := by
            refine nodup_map_concat works.once ?_
            intro submission isOld sameKey
            obtain ⟨other, isOther, otherKey, isPast⟩ :=
              invariant.works.past submission isOld
            have same : other = task := inj_on_of_nodup_map
              invariant.works.distinct isOther listed (otherKey.trans sameKey)
            rw [same, isCleared] at isPast
            cases isPast
          encodes := by
            refine forall_mem_concat works.encodes ?_
            exact invariant.works.cleared task listed body isCleared }

theorem Invariant.conclude (outcome : ResponseOutcome) (tick : Tick)
    (isTask : system.tasks[place]? = some task) :
    Invariant sha256 (system.conclude place surroundings task outcome tick) := by
  obtain ⟨isPast, advances⟩ := Task.record_advances surroundings system.attempts task outcome tick
  have moved : Invariant sha256 (system.setPhase place task
      (task.record surroundings system.attempts outcome tick).1) := by
    refine invariant.setPhase isTask (fun _ => isPast) ?_
    intro body isCleared
    rw [isCleared] at isPast
    cases isPast
  exact moved.advance advances

theorem Invariant.record (place : Nat) (surroundings : Surroundings) :
    Invariant sha256 (system.record place surroundings) := by
  unfold System.record
  split
  case h_1 => exact invariant
  case h_2 task isTask =>
    split
    case h_1 => exact invariant.conclude _ _ _ isTask
    case h_2 outcome _ => exact invariant.conclude _ _ _ isTask
    case h_3 => exact invariant

theorem Invariant.crash (place : Nat) : Invariant sha256 (system.crash place) := by
  unfold System.crash
  split
  case h_1 => exact invariant
  case h_2 task isTask =>
    exact invariant.setPhase isTask (fun _ => rfl) nofun

theorem Invariant.step (action : Action) : Invariant sha256 (system.step sha256 action) := by
  cases action with
  | commitSubmitIntent surroundings intent =>
    exact invariant.commit surroundings intent
  | claimIntended surroundings permit account limit locked drawn =>
    refine invariant.settle fun after isOk => ?_
    obtain ⟨_, result⟩ := map_snd_eq_ok isOk
    exact (claimIntended_eq_ok result).1
  | preflight => exact invariant
  | recordResponse surroundings permit account attempt outcome =>
    refine invariant.settle fun after isOk => ?_
    obtain ⟨_, result⟩ := map_snd_eq_ok isOk
    exact recordResponse_eq_ok result
  | sendOne surroundings permit account material locked drawn =>
    exact invariant.begin surroundings permit account material locked drawn
  | check place surroundings => exact invariant.check place surroundings
  | submit place outcome => exact invariant.submit place outcome
  | record place surroundings => exact invariant.record place surroundings
  | crash place => exact invariant.crash place
  | erase nowMs now account attempt =>
    exact invariant.settle fun after result => eraseAttempt_eq_ok result

end

theorem invariant_run (actions : List Action) : Invariant sha256 (run sha256 actions start) := by
  induction actions using reverseRecOn with
  | nil => exact invariant_start
  | append_singleton earlier action ih =>
    unfold run at ih ⊢
    rw [foldl_concat]
    exact ih.step action

/-- Two attempts for one revision of an action are the same. -/
theorem Recorded.eq_of_actionKey (recorded : Recorded attempts committed)
    (isCommitted : row ∈ committed)
    (otherCommitted : other ∈ committed) (sameAction : row.actionKey = other.actionKey) :
    row.key = other.key := by
  obtain ⟨new, isNew, follows⟩ := recorded.stored row isCommitted
  obtain ⟨otherNew, otherIsNew, otherFollows⟩ := recorded.stored other otherCommitted
  have same : new = otherNew := attempts.byAction.eq_of_key isNew otherIsNew
    (follows.actionKey.trans (sameAction.trans otherFollows.actionKey.symm))
  rw [← follows.key, ← otherFollows.key, same]

theorem mem_committed_of_actionOf (isAction : system.actionOf submission = some action) :
    ∃ row ∈ system.committed, row.key = submission.key ∧ row.actionKey = action := by
  obtain ⟨row, found, isKey⟩ := Option.map_eq_some_iff.mp isAction
  have sameKey := find?_some found
  exact ⟨row, mem_of_find?_eq_some found, of_decide_eq_true sameKey, isKey⟩

/-- For every interleaving, the transport is called at most once for a revision
of an action, and each call is for a committed attempt and carries the encoding
of a message whose request has the digest that was committed. -/
theorem at_most_one_transmission (sha256 : Bytes → Bytes) (actions : List Action) :
    (∀ action, (run sha256 actions start).submissions.countP (fun submission =>
      decide ((run sha256 actions start).actionOf submission = some action)) ≤ 1) ∧
    ∀ submission ∈ (run sha256 actions start).submissions,
      ((run sha256 actions start).actionOf submission).isSome = true ∧
      Encodes sha256 (run sha256 actions start).committed submission.key submission.body := by
  have invariant := @invariant_run sha256 actions
  constructor
  · intro action
    refine countP_le_one invariant.works.once ?_
    intro submission _ other _ isAction otherAction
    obtain ⟨row, isCommitted, isKey, rowAction⟩ :=
      mem_committed_of_actionOf (of_decide_eq_true isAction)
    obtain ⟨otherRow, otherCommitted, otherKey, otherRowAction⟩ :=
      mem_committed_of_actionOf (of_decide_eq_true otherAction)
    rw [← isKey, ← otherKey]
    exact invariant.recorded.eq_of_actionKey isCommitted otherCommitted
      (rowAction.trans otherRowAction.symm)
  · intro submission listed
    have encodes := invariant.works.encodes submission listed
    refine ⟨?_, encodes⟩
    obtain ⟨row, isCommitted, isKey, _⟩ := encodes
    unfold actionOf
    rw [Option.isSome_map, find?_isSome]
    exact ⟨row, isCommitted, decide_eq_true isKey⟩

/-- A second worker finds nothing to submit. -/
example :
    let send : Action := .sendOne Rehearsal.surroundings Rehearsal.permit 1
      ⟨Rehearsal.request, "+15550100002".toList, .providerPlaintext ['a']⟩ [] id
    (run Rehearsal.sha256 [
      .commitSubmitIntent Rehearsal.surroundings (Rehearsal.intent 11), send,
      .check 0 Rehearsal.surroundings, .submit 0 .lost, .crash 0, send,
      .check 1 Rehearsal.surroundings, .submit 1 .lost]
      start).submissions.length = 1 := by
  decide +kernel

end Invariant
end System
end Zrotext.Provider
