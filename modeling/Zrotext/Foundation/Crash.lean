import Zrotext.Foundation.Machine

/-!
# Crashing against an environment

A program that runs against an environment may stop after any of its calls.
What the environment must look like at such a moment is a crash condition, and
the logic below carries one beside the usual postcondition.
-/

namespace Zrotext.Foundation.Program

variable {signature : Signature} {α β ε η : Type}

/-- A program that runs against an environment stops: it finished with a value
or it crashed, and left the environment as it is. -/
inductive Stops (handler : Handler signature η) : Program signature α → η → Option α → η → Prop
  | done (value : α) (environment : η) :
      Stops handler (.done value) environment (some value) environment
  | crash (program : Program signature α) (environment : η) :
      Stops handler program environment none environment
  | call {op : signature.Op} {next : signature.Answer op → Program signature α}
      {environment final : η} {outcome : Option α} : Stops handler (next (handler op environment).1)
        (handler op environment).2 outcome final →
      Stops handler (.call op next) environment outcome final

/-- The run that an environment determines is one way to stop. -/
theorem stops_interpret (handler : Handler signature η) (program : Program signature α)
    (environment : η) : Stops handler program environment
      (some (interpret handler program environment).value)
      (interpret handler program environment).environment := by
  induction program generalizing environment with
  | done value => exact .done value environment
  | call op next ih =>
    exact .call (ih _ _)

/-- The environment after a crash that follows some number of calls. -/
def crashAfter (handler : Handler signature η) : Nat → Program signature α → η → η
  | 0, _, environment => environment
  | _ + 1, .done _, environment => environment
  | calls + 1, .call op next, environment =>
    crashAfter handler calls (next (handler op environment).1) (handler op environment).2

theorem stops_crashAfter (handler : Handler signature η) (calls : Nat)
    (program : Program signature α) (environment : η) : Stops handler program environment none
      (crashAfter handler calls program environment) := by
  induction calls generalizing program environment with
  | zero => exact .crash program environment
  | succ calls ih =>
    cases program with
    | done value => exact .crash _ environment
    | call op next => exact .call (ih _ _)

/-- After every call of the program the environment satisfies the crash
condition, and its result and the final environment satisfy the
postcondition. -/
def Endures (handler : Handler signature η) (crash : η → Prop)
    (post : α → η → Prop) : Program signature α → η → Prop
  | .done value, environment => post value environment
  | .call op next, environment =>
    crash (handler op environment).2 ∧ Endures handler crash post (next (handler op environment).1)
        (handler op environment).2

section Rules

variable {handler : Handler signature η} {crash : η → Prop}

variable {post : α → η → Prop} {program : Program signature α}

@[simp] theorem endures_done (value : α) (environment : η) :
    Endures handler crash post (.done value) environment ↔ post value environment := Iff.rfl

theorem Endures.mono (endures : Endures handler crash strong program environment)
    (weakenCrash : ∀ final, crash final → weakCrash final)
    (weaken : ∀ value final, strong value final → weak value final) :
    Endures handler weakCrash weak program environment := by
  induction program generalizing environment with
  | done value => exact weaken value environment endures
  | call op next ih =>
    exact ⟨weakenCrash _ endures.1, ih _ endures.2⟩

theorem endures_bind {post : β → η → Prop} (program : Program signature α)
    (continuation : α → Program signature β) (environment : η) :
    Endures handler crash post (program >>= continuation) environment ↔ Endures handler crash
        (fun value final => Endures handler crash post (continuation value) final)
        program environment := by
  induction program generalizing environment with
  | done value => rfl
  | call op next ih =>
    exact and_congr_right fun _ => ih _ _

/-- Sequencing of programs that may fail: a failure ends the sequence. -/
theorem endures_except_bind {post : Except ε β → η → Prop}
    (program : ExceptT ε (Program signature) α) (continuation : α → ExceptT ε (Program signature) β)
    (environment : η) : Endures handler crash post (program >>= continuation).run environment ↔
      Endures handler crash (fun outcome final =>
          match outcome with
          | .ok value =>
            Endures handler crash post (continuation value).run final
          | .error failure => post (.error failure) final)
        program.run environment := by
  rw [ExceptT.run_bind, endures_bind]
  refine iff_of_eq (congrArg (fun final =>
    Endures handler crash final program.run environment) ?_)
  funext outcome final
  cases outcome <;> rfl

/-- Soundness for finished and crashed runs. -/
theorem Endures.sound (endures : Endures handler crash post program environment)
    (stops : Stops handler program environment outcome final) (initially : crash environment) :
    (outcome = none → crash final) ∧ ∀ value, outcome = some value → post value final := by
  induction stops with
  | done result environment =>
    refine ⟨nofun, ?_⟩
    intro value finished
    cases finished
    exact endures
  | crash program environment => exact ⟨fun _ => initially, nofun⟩
  | call _ ih => exact ih endures.2 endures.1

theorem Endures.interpret (endures : Endures handler crash post program environment) :
    post (interpret handler program environment).value
      (interpret handler program environment).environment := by
  induction program generalizing environment with
  | done value => exact endures
  | call op next ih => exact ih _ endures.2

end Rules

/-- Whatever the environment answers, a result satisfies the postcondition. -/
def Yields (post : α → Prop) : Program signature α → Prop
  | .done value => post value
  | .call _ next => ∀ answer, Yields post (next answer)

theorem Yields.mono (yields : Yields strong program) (weaken : ∀ value, strong value → weak value) :
    Yields weak program := by
  induction program with
  | done value => exact weaken value yields
  | call op next ih =>
    exact fun answer => ih answer (yields answer)

theorem yields_bind (program : Program signature α)
    (continuation : α → Program signature β) : Yields post (program >>= continuation) ↔
      Yields (fun value => Yields post (continuation value)) program := by
  induction program with
  | done value => rfl
  | call op next ih =>
    exact forall_congr' fun answer => ih answer

theorem yields_except_bind (program : ExceptT ε (Program signature) α)
    (continuation : α → ExceptT ε (Program signature) β) :
    Yields post (program >>= continuation).run ↔ Yields (fun outcome =>
          match outcome with
          | .ok value => Yields post (continuation value).run
          | .error failure => post (.error failure))
        program.run := by
  rw [ExceptT.run_bind, yields_bind]
  refine iff_of_eq (congrArg (fun final => Yields final program.run) ?_)
  funext outcome
  cases outcome <;> rfl

/-- A finished run ends with a result of the program. -/
theorem Yields.sound (yields : Yields post program)
    (runs : Runs program events outcome) (value : α) (finished : outcome = some value) :
    post value := by
  induction runs with
  | done result =>
    cases finished
    exact yields
  | crash program => cases finished
  | call _ ih => exact ih (yields _) finished

end Zrotext.Foundation.Program
