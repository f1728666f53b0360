import Zrotext.Foundation.Program

/-!
# Machines that crash and restart

A machine handles inputs one at a time, each by a program that computes its next
state.  It may crash after any call of any program, and then continues from a
fresh state.  The trace of a run is everything that was ever called and
answered, across all crashes.
-/

namespace Zrotext.Foundation

/-- A state machine whose inputs are handled by programs. -/
structure Machine (signature : Signature) (σ ι : Type) where
  /-- States in which the machine may start or restart. -/
  fresh : σ → Prop
  /-- How an input is handled. -/
  handle : σ → ι → Program signature σ

namespace Machine

variable {signature : Signature} {σ ι γ : Type}
variable (machine : Machine signature σ ι)

/-- The runs of a machine: the trace so far and the current state. -/
inductive Run : List (Event signature) → σ → Prop
  | start {state : σ} : machine.fresh state → Run [] state
  | input {trace events : List (Event signature)} {state next : σ} (input : ι) : Run trace state →
      (machine.handle state input).Runs events (some next) → Run (trace ++ events) next
  | crash {trace events : List (Event signature)} {state restarted : σ} (input : ι) :
      Run trace state → (machine.handle state input).Runs events none → machine.fresh restarted →
      Run (trace ++ events) restarted

variable {machine}

/-- Invariant rule: if fresh states satisfy an invariant and handling an input
keeps it, then every event of every admitted run passes the check and every
state reached satisfies the invariant. -/
theorem Run.along (fresh : ∀ state ghost, machine.fresh state → invariant state ghost)
    (handle : ∀ state input ghost, invariant state ghost →
      Program.Safe monitor check invariant (machine.handle state input) ghost)
    {state : σ}
    (run : machine.Run trace state)
    (ghost : γ)
    (admitted : monitor.Admits ghost trace) :
    monitor.Along check ghost trace ∧ invariant state (monitor.after ghost trace) := by
  induction run with
  | start isFresh => exact ⟨trivial, fresh _ _ isFresh⟩
  | input input _ runs ih =>
    obtain ⟨earlier, later⟩ := (monitor.along_append monitor.admits ghost _ _).mp admitted
    obtain ⟨along, holds⟩ := ih earlier
    obtain ⟨alongNow, finish⟩ := (handle _ input _ holds).sound runs later
    rw [monitor.along_append, monitor.after_append]
    exact ⟨⟨along, alongNow⟩, finish _ rfl⟩
  | crash input _ runs isFresh ih =>
    obtain ⟨earlier, later⟩ := (monitor.along_append monitor.admits ghost _ _).mp admitted
    obtain ⟨along, holds⟩ := ih earlier
    obtain ⟨alongNow, _⟩ := (handle _ input _ holds).sound runs later
    rw [monitor.along_append]
    exact ⟨⟨along, alongNow⟩, fresh _ _ isFresh⟩

end Machine

/-- An environment with its own state that answers every call. -/
def Handler (signature : Signature) (η : Type) := (op : signature.Op) → η → signature.Answer op × η

namespace Program

variable {signature : Signature} {α η : Type}

/-- What a program did against an environment. -/
structure Outcome (signature : Signature) (α η : Type) where
  /-- The result of the program. -/
  value : α
  /-- The environment afterwards. -/
  environment : η
  /-- The answered calls. -/
  events : List (Event signature)

/-- Run a program against an environment. -/
def interpret (handler : Handler signature η) : Program signature α → η → Outcome signature α η
  | .done value, environment => ⟨value, environment, []⟩
  | .call op next, environment =>
    let reply := handler op environment
    let rest := interpret handler (next reply.1) reply.2
    { rest with events := ⟨op, reply.1⟩ :: rest.events }

/-- What an environment makes a program do is one of its runs. -/
theorem interpret_runs (handler : Handler signature η) (program : Program signature α)
    (environment : η) : program.Runs (interpret handler program environment).events
      (some (interpret handler program environment).value) := by
  induction program generalizing environment with
  | done value => exact .done value
  | call op next ih =>
    exact .call (ih _ _)

/-- What every answer of an environment keeps true of it and the trace stays
true while a program runs. -/
theorem interpret_keeps {handler : Handler signature η} {keeps : η → List (Event signature) → Prop}
    (step : ∀ op environment trace, keeps environment trace → keeps (handler op environment).2
        (trace ++ [⟨op, (handler op environment).1⟩]))
    (program : Program signature α) (environment : η) (trace : List (Event signature))
    (holds : keeps environment trace) : keeps (interpret handler program environment).environment
      (trace ++ (interpret handler program environment).events) := by
  induction program generalizing environment trace with
  | done value =>
    rw [interpret, List.append_nil]
    exact holds
  | call op next ih =>
    have rest := ih (handler op environment).1 _ _ (step op environment trace holds)
    rw [List.append_assoc] at rest
    exact rest

end Program

namespace Machine

variable {signature : Signature} {σ ι η : Type}

/-- One move of a machine in a concrete environment. -/
inductive Move (σ ι : Type)
  /-- Handle an input to its end. -/
  | input (input : ι)
  /-- Crash before the next call and restart in this state. -/
  | restart (restarted : σ)

/-- A machine and its environment after some moves, with the trace. -/
structure Simulation (signature : Signature) (σ η : Type) where
  /-- The state of the machine. -/
  state : σ
  /-- The state of the environment. -/
  environment : η
  /-- The answered calls so far. -/
  trace : List (Event signature)

variable (machine : Machine signature σ ι) (handler : Handler signature η)

variable (simulation : Simulation signature σ η)

/-- One move against a concrete environment. -/
def simulateMove : Move σ ι → Simulation signature σ η
  | .input input =>
    let outcome := Program.interpret handler
      (machine.handle simulation.state input) simulation.environment
    { state := outcome.value, environment := outcome.environment
      trace := simulation.trace ++ outcome.events }
  | .restart restarted => { simulation with state := restarted }

variable (moves : List (Move σ ι))

/-- A sequence of moves against a concrete environment. -/
def simulate : Simulation signature σ η :=
  moves.foldl (machine.simulateMove handler) simulation

/-- The restarts of a sequence of moves lead to fresh states. -/
def FreshMoves : Prop :=
  ∀ restarted, Move.restart restarted ∈ moves → machine.fresh restarted

theorem run_simulate (fresh : machine.FreshMoves moves) (inhabited : ι)
    (run : machine.Run simulation.trace simulation.state) :
    machine.Run (machine.simulate handler simulation moves).trace
      (machine.simulate handler simulation moves).state := by
  induction moves generalizing simulation with
  | nil => exact run
  | cons move moves ih =>
    have freshRest : machine.FreshMoves moves := fun restarted member =>
        fresh restarted (List.mem_cons_of_mem move member)
    apply ih (machine.simulateMove handler simulation move) freshRest
    cases move with
    | input input =>
      exact .input input run (Program.interpret_runs handler _ _)
    | restart restarted =>
      have crashed := Run.crash inhabited run (.crash _) (fresh restarted List.mem_cons_self)
      rw [List.append_nil] at crashed
      exact crashed

/-- What every answer of an environment keeps true of it and the trace is true
throughout a simulation. -/
theorem simulate_keeps {handler : Handler signature η} {keeps : η → List (Event signature) → Prop}
    (step : ∀ op environment trace, keeps environment trace → keeps (handler op environment).2
        (trace ++ [⟨op, (handler op environment).1⟩]))
    (simulation : Simulation signature σ η) (moves : List (Move σ ι))
    (holds : keeps simulation.environment simulation.trace) :
    keeps (machine.simulate handler simulation moves).environment
      (machine.simulate handler simulation moves).trace := by
  induction moves generalizing simulation with
  | nil => exact holds
  | cons move moves ih =>
    apply ih (machine.simulateMove handler simulation move)
    cases move with
    | input input => exact Program.interpret_keeps step _ _ _ holds
    | restart restarted => exact holds

end Machine
end Zrotext.Foundation
