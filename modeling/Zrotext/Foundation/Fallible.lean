import Mathlib

/-!
# Computations that may fail

How a successful sequence of fallible steps comes apart into its steps.
-/

namespace Zrotext.Foundation.Fallible

variable {ε α β : Type}

variable {first : Except ε α} {next : α → Except ε β}

/-- A sequence succeeds exactly if its first step does and the rest succeeds
from there. -/
theorem bind_eq_ok {result : β} : (first >>= next) = .ok result ↔
      ∃ value, first = .ok value ∧ next value = .ok result := by
  cases first with
  | error failure =>
    constructor
    · intro impossible
      cases impossible
    · rintro ⟨value, impossible, _⟩
      cases impossible
  | ok value =>
    constructor
    · intro rest
      exact ⟨value, rfl, rest⟩
    · rintro ⟨other, same, rest⟩
      cases same
      exact rest

/-- Fail unless a condition holds. -/
def require (failure : ε) (condition : Bool) : Except ε Unit :=
  if condition then .ok () else .error failure

/-- The value of an option, or a failure. -/
def demand (failure : ε) : Option α → Except ε α
  | some value => .ok value
  | none => .error failure

theorem require_eq_ok {failure : ε} {condition : Bool} {value : Unit} :
    require failure condition = .ok value ↔ condition := by
  cases condition <;> simp [require]

theorem demand_eq_ok {failure : ε} {option : Option α} {value : α} :
    demand failure option = .ok value ↔ option = some value := by
  cases option <;> simp [demand]

theorem mapError_eq_ok {φ : Type} {rename : ε → φ} {value : α} :
    first.mapError rename = .ok value ↔ first = .ok value := by
  cases first <;> simp [Except.mapError]

/-- A computation fails in acceptable ways only. -/
def FailsOnly (acceptable : ε → Prop) (computation : Except ε α) : Prop :=
  ∀ failure, computation = .error failure → acceptable failure

section FailsOnly

variable {acceptable : ε → Prop}

theorem failsOnly_ok (value : α) :
    FailsOnly acceptable (.ok value : Except ε α) := fun _ impossible =>
  nomatch impossible

theorem failsOnly_require {failure : ε} {condition : Bool} (isAcceptable : acceptable failure) :
    FailsOnly acceptable (require failure condition) := by
  intro other isFailure
  cases condition with
  | true => cases isFailure
  | false =>
    cases isFailure
    exact isAcceptable

theorem failsOnly_demand {failure : ε} {option : Option α} (isAcceptable : acceptable failure) :
    FailsOnly acceptable (demand failure option) := by
  intro other isFailure
  cases option with
  | some value => cases isFailure
  | none =>
    cases isFailure
    exact isAcceptable

theorem failsOnly_mapError {φ : Type} {rename : φ → ε} {computation : Except φ α}
    (isAcceptable : FailsOnly (fun cause => acceptable (rename cause)) computation) :
    FailsOnly acceptable (computation.mapError rename) := by
  intro failure isFailure
  cases result : computation with
  | ok value =>
    rw [result] at isFailure
    cases isFailure
  | error cause =>
    rw [result] at isFailure
    cases isFailure
    exact isAcceptable cause result

theorem failsOnly_bind {first : Except ε α} {next : α → Except ε β}
    (firstFails : FailsOnly acceptable first) (nextFails : ∀ value, first = .ok value →
      FailsOnly acceptable (next value)) :
    FailsOnly acceptable (first >>= next) := by
  intro failure isFailure
  cases result : first with
  | error cause =>
    rw [result] at isFailure
    cases isFailure
    exact firstFails failure result
  | ok value =>
    rw [result] at isFailure
    exact nextFails value result failure isFailure

theorem failsOnly_foldlM {γ : Type} {step : β → γ → Except ε β}
    (stepFails : ∀ state value, FailsOnly acceptable (step state value)) (values : List γ)
    (start : β) : FailsOnly acceptable (values.foldlM step start) := by
  induction values generalizing start with
  | nil => exact failsOnly_ok start
  | cons value rest ih =>
    rw [List.foldlM_cons]
    exact failsOnly_bind (stepFails start value) fun next _ => ih next

end FailsOnly

/-- Two sequences that begin alike succeed alike if their rests do. -/
theorem isOk_bind_congr {γ : Type} {other : α → Except ε γ} (alike : ∀ value, first = .ok value →
      (next value).isOk = (other value).isOk) :
    (first >>= next).isOk = (first >>= other).isOk := by
  cases first with
  | error failure => rfl
  | ok value => exact alike value rfl

/-- A sequence succeeds exactly if its first step does, if the rest cannot
fail. -/
theorem isOk_bind_of_isOk (succeeds : ∀ value, (next value).isOk) :
    (first >>= next).isOk = first.isOk := by
  cases first with
  | error failure => rfl
  | ok value => exact succeeds value

end Zrotext.Foundation.Fallible
