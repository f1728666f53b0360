import Zrotext.Webhook.Outbox

/-!
# Webhook workers

Workers claim deliveries, load the payload, call the sender of the endpoint and
store the result.  Each claim starts a task; a worker may stop in any phase.
The tasks are kept with what became of them.
-/

namespace Zrotext.Webhook

open Foundation Delivery

/-- How far the work on a claim has come. -/
inductive Phase
  | claimed | loaded | refused | keyUnavailable | sent | ended
deriving DecidableEq

/-- A claim with its phase, how often the sender was called for it, and whether
a deferral undid it. -/
structure Task where
  lease : WebhookLease
  phase : Phase
  sends : Nat
  undone : Bool
deriving DecidableEq

/-- What comes of the preparation of a request: the target or the body is
refused, the secret cannot be opened, or the sender is called. -/
inductive Preparation
  | policy | keyUnavailable | send
deriving DecidableEq

namespace Task

def start (lease : WebhookLease) : Task := ⟨lease, .claimed, 0, false⟩

/-- The task belongs to a generation of a delivery. -/
def isOf (deliveryId : Uuid) (generation : Int) (task : Task) : Bool :=
  decide (task.lease.deliveryId = deliveryId) &&
    decide (task.lease.generation = generation)

def load (now : Time) (outbox : Outbox) (task : Task) : Task :=
  match task.phase, loadWebhookPayload task.lease now outbox with
  | .claimed, .ok _ => { task with phase := .loaded }
  | .claimed, .error _ => { task with phase := .ended }
  | _, _ => task

def prepare (preparation : Preparation) (task : Task) : Task :=
  match task.phase, preparation with
  | .loaded, .policy => { task with phase := .refused }
  | .loaded, .keyUnavailable => { task with phase := .keyUnavailable }
  | .loaded, .send => { task with phase := .sent, sends := task.sends + 1 }
  | _, _ => task

/-- A result is stored after the sender was called, or for a refusal. -/
def mayFinish (outcome : WebhookOutcome) (httpStatus : Option Int) (task : Task) : Bool :=
  decide (task.phase = .sent) ||
    (decide (task.phase = .refused) && decide (outcome = .policyRejected) && httpStatus.isNone)

end Task

structure System where
  outbox : Outbox
  tasks : List Task

inductive Action
  | claim (workerId : Text) (attemptId : Uuid)
      (lockedAccounts lockedEndpoints : List Uuid) (now : Time)
  | load (task : Nat) (now : Time)
  | prepare (task : Nat) (preparation : Preparation)
  | finish (task : Nat) (outcome : WebhookOutcome) (httpStatus : Option Int) (now : Time)
  | defer (task : Nat) (now : Time)
  | stop (task : Nat)
  | recover (lockedEndpoints lockedDeliveries : List Uuid) (now : Time)
  | queue (accountId eventId : Uuid) (drawn : Uuid → Uuid) (now : Time)
  | replay (accountId endpointId deliveryId requestId : Uuid) (now : Time)

/-- The identifier that a claim draws for its attempt. -/
def Action.drawn : Action → Option Uuid
  | .claim _ attemptId _ _ _ => some attemptId
  | _ => none

/-- The outbox after a transaction: a failed one is rolled back. -/
def settle (result : Except WebhookError Outbox) (outbox : Outbox) : Outbox :=
  match result with
  | .ok after => after
  | .error _ => outbox

namespace System

variable (system : System)

/-- The leases of all claims, in their order. -/
def leases : List WebhookLease := system.tasks.map Task.lease

/-- One task goes on. -/
def alter (place : Nat) (change : Task → Task) (system : System) : System :=
  match system.tasks[place]? with
  | some task => { system with tasks := system.tasks.set place (change task) }
  | none => system

def claim (workerId : Text) (attemptId : Uuid) (lockedAccounts lockedEndpoints : List Uuid)
    (now : Time) (system : System) : System :=
  match claimWebhook workerId attemptId lockedAccounts lockedEndpoints now system.outbox with
  | .ok (some lease, after) => ⟨after, system.tasks ++ [.start lease]⟩
  | .ok (none, after) => { system with outbox := after }
  | .error _ => system

def finish (place : Nat) (outcome : WebhookOutcome) (httpStatus : Option Int) (now : Time)
    (system : System) : System :=
  match system.tasks[place]? with
  | none => system
  | some task =>
    if task.mayFinish outcome httpStatus then
      { outbox := settle
          (finishWebhook task.lease outcome httpStatus now system.outbox)
          system.outbox
        tasks := system.tasks.set place { task with phase := .ended } }
    else system

def defer (place : Nat) (now : Time) (system : System) : System :=
  match system.tasks[place]? with
  | none => system
  | some task =>
    if task.phase = .keyUnavailable then
      match deferWebhookKeyFailure task.lease now system.outbox with
      | .ok after =>
        { outbox := after, tasks := system.tasks.set place
            { task with phase := .ended, undone := true } }
      | .error _ =>
        { system with
          tasks := system.tasks.set place { task with phase := .ended } }
    else system

def step : Action → System
  | .claim workerId attemptId lockedAccounts lockedEndpoints now =>
    system.claim workerId attemptId lockedAccounts lockedEndpoints now
  | .load place now => system.alter place (·.load now system.outbox)
  | .prepare place preparation => system.alter place (·.prepare preparation)
  | .finish place outcome httpStatus now =>
    system.finish place outcome httpStatus now
  | .defer place now => system.defer place now
  | .stop place => system.alter place ({ · with phase := .ended })
  | .recover lockedEndpoints lockedDeliveries now =>
    { system with
      outbox := recoverExpiredWebhookLeases lockedEndpoints lockedDeliveries
        now system.outbox }
  | .queue accountId eventId drawn now =>
    { system with
      outbox := settle (queueDeliveries accountId eventId drawn now
        system.outbox) system.outbox }
  | .replay accountId endpointId deliveryId requestId now =>
    { system with
      outbox := settle (Webhook.replay accountId endpointId deliveryId
        requestId now system.outbox) system.outbox }

def run (actions : List Action) (system : System) : System := actions.foldl step system

/-- How often the sender was called for a generation of a delivery. -/
def sends (deliveryId : Uuid) (generation : Int) : Nat :=
  ((system.tasks.filter (·.isOf deliveryId generation)).map Task.sends).sum

/-- How many claims of a generation of a delivery there were. -/
def claims (deliveryId : Uuid) (generation : Int) : Nat :=
  system.tasks.countP (·.isOf deliveryId generation)

/-- How many claims of a generation of a delivery were not undone. -/
def standing (deliveryId : Uuid) (generation : Int) : Nat :=
  system.tasks.countP fun task =>
    task.isOf deliveryId generation && !task.undone

end System
end Zrotext.Webhook
