import Mathlib

/-!
# Transactions

A transaction reads and writes a state and may fail.  Its writes up to the
failure stay visible inside the transaction; whether they survive is decided
when it ends.  The rules below compute what a transaction leads to.
-/

namespace Zrotext.Foundation

/-- A transaction on a state. -/
abbrev Transaction (ε σ α : Type) := ExceptT ε (StateM σ) α

namespace Transaction

variable {ε σ α β γ : Type}

/-- The result of a transaction and the state that it has written. -/
def perform (transaction : Transaction ε σ α) (state : σ) : Except ε α × σ :=
  (transaction.run.run state : Id (Except ε α × σ))

/-- End a transaction: its writes are kept for some results and rolled back for
the others. -/
def commitWhen (commits : Except ε α → Bool) (transaction : Transaction ε σ α)
    (state : σ) : Except ε α × σ :=
  let outcome := transaction.perform state
  if commits outcome.1 then outcome else (outcome.1, state)

/-- End a transaction that is rolled back if it fails. -/
def commit (transaction : Transaction ε σ α) (state : σ) : Except ε α × σ :=
  commitWhen Except.isOk transaction state

/-- The value of an option, or a failure. -/
def demand (failure : ε) : Option α → Transaction ε σ α
  | some value => pure value
  | none => throw failure

/-- Fail if a condition holds. -/
def refuse (failure : ε) (condition : Bool) : Transaction ε σ PUnit :=
  if condition then throw failure else pure ⟨⟩

/-- A part of a transaction that is done under a condition. -/
def onlyIf (condition : Prop) [Decidable condition]
    (transaction : Transaction ε σ PUnit) : Transaction ε σ PUnit :=
  if condition then transaction else pure ⟨⟩

/-- The value of a computation that may fail. -/
def compute (result : Except ε α) : Transaction ε σ α :=
  match result with
  | .ok value => pure value
  | .error failure => throw failure

theorem mapError_eq_ok_iff {result : Except ε α} :
    result.mapError rename = .ok value ↔ result = .ok value := by
  cases result <;> simp [Except.mapError]

/-- What a transaction leads to, with a result and with a failure. -/
def Leads (transaction : Transaction ε σ α) (finished : α → σ → Prop) (failed : ε → σ → Prop)
    (state : σ) : Prop :=
  match transaction.perform state with
  | (.ok value, after) => finished value after
  | (.error failure, after) => failed failure after

/-- What a transaction leads to if it finishes. -/
abbrev Finishes (transaction : Transaction ε σ α) (finished : α → σ → Prop) : σ → Prop :=
  Leads transaction finished fun _ _ => True

section Rules

variable {finished : α → σ → Prop} {failed : ε → σ → Prop} {state : σ}

theorem leads_iff : Leads transaction finished failed state ↔
      (∀ value, (transaction.perform state).1 = .ok value →
        finished value (transaction.perform state).2) ∧
      ∀ failure, (transaction.perform state).1 = .error failure →
        failed failure (transaction.perform state).2 := by
  unfold Leads
  obtain ⟨result, after⟩ := transaction.perform state
  cases result <;> simp

theorem leads_pure (value : α) :
    Leads (pure value) finished failed state ↔ finished value state := Iff.rfl

theorem leads_throw (failure : ε) :
    Leads (throw failure) finished failed state ↔ failed failure state :=
  Iff.rfl

theorem leads_bind (transaction : Transaction ε σ α) (continuation : α → Transaction ε σ β) :
    Leads (transaction >>= continuation) ended failed state ↔ Leads transaction
        (fun value after => Leads (continuation value) ended failed after) failed state := by
  have split : (transaction >>= continuation).perform state =
      match transaction.perform state with
      | (.ok value, after) => (continuation value).perform after
      | (.error failure, after) => (.error failure, after) := by
    change ExceptT.bindCont continuation (transaction.perform state).1
      (transaction.perform state).2 = _
    obtain ⟨result, after⟩ := transaction.perform state
    cases result <;> rfl
  unfold Leads
  rw [split]
  obtain ⟨result, after⟩ := transaction.perform state
  cases result <;> rfl

theorem leads_get {finished : σ → σ → Prop} :
    Leads (get : Transaction ε σ σ) finished failed state ↔ finished state state := Iff.rfl

theorem leads_set {finished : PUnit → σ → Prop} (after : σ) :
    Leads (set after : Transaction ε σ PUnit) finished failed state ↔ finished ⟨⟩ after := Iff.rfl

theorem leads_modify {finished : PUnit → σ → Prop} (change : σ → σ) :
    Leads (modify change : Transaction ε σ PUnit) finished failed state ↔
      finished ⟨⟩ (change state) := Iff.rfl

theorem leads_demand (failure : ε) (value : Option α) :
    Leads (demand failure value) finished failed state ↔
      (∀ found, value = some found → finished found state) ∧
        (value = none → failed failure state) := by
  cases value with
  | none => simp [demand, leads_throw]
  | some found => simp [demand, leads_pure]

theorem leads_refuse {finished : PUnit → σ → Prop} (failure : ε) (condition : Bool) :
    Leads (refuse failure condition) finished failed state ↔
      (condition = false → finished ⟨⟩ state) ∧ (condition → failed failure state) := by
  cases condition with
  | true => simp [refuse, leads_throw]
  | false => simp [refuse, leads_pure]

theorem leads_compute (result : Except ε α) : Leads (compute result) finished failed state ↔
      (∀ value, result = .ok value → finished value state) ∧
        ∀ failure, result = .error failure → failed failure state := by
  cases result with
  | ok value => simp [compute, leads_pure]
  | error failure => simp [compute, leads_throw]

theorem leads_ite [Decidable condition] (first second : Transaction ε σ α) :
    Leads (if condition then first else second) finished failed state ↔
      (condition → Leads first finished failed state) ∧
        (¬ condition → Leads second finished failed state) := by
  split_ifs with holds <;> simp [holds]

theorem leads_onlyIf {finished : PUnit → σ → Prop} {condition : Prop} [Decidable condition]
    (transaction : Transaction ε σ PUnit) :
    Leads (onlyIf condition transaction) finished failed state ↔
      (condition → Leads transaction finished failed state) ∧ (¬ condition → finished ⟨⟩ state) :=
  leads_ite transaction (pure ⟨⟩)

/-- Failures under another name. -/
theorem leads_rethrow (transaction : Transaction ε σ α) (rename : ε → ε) :
    Leads (tryCatch transaction fun failure => throw (rename failure)) finished failed state ↔
      Leads transaction finished (fun failure after => failed (rename failure) after) state := by
  have renamed : (tryCatch transaction fun failure =>
      throw (rename failure)).perform state =
      ((transaction.perform state).1.mapError rename, (transaction.perform state).2) := by
    change (match (transaction.perform state).1 with
      | .ok value => (pure (.ok value) : StateM σ (Except ε α))
      | .error failure => _) (transaction.perform state).2 = _
    obtain ⟨result, after⟩ := transaction.perform state
    cases result <;> rfl
  unfold Leads
  rw [renamed]
  obtain ⟨result, after⟩ := transaction.perform state
  cases result <;> rfl

variable {transaction : Transaction ε σ α}

theorem Leads.mono (leads : Leads transaction finished failed state)
    (weakenFinished : ∀ value after, finished value after → weakFinished value after)
    (weakenFailed : ∀ failure after, failed failure after → weakFailed failure after) :
    Leads transaction weakFinished weakFailed state := by
  rw [leads_iff] at leads ⊢
  exact ⟨fun value isValue => weakenFinished _ _ (leads.1 value isValue),
    fun failure isFailure => weakenFailed _ _ (leads.2 failure isFailure)⟩

theorem Leads.imp (leads : Leads transaction finished failed state)
    (weaken : ∀ value after, finished value after → weakFinished value after) :
    Finishes transaction weakFinished state :=
  leads.mono weaken fun _ _ _ => trivial

theorem Leads.and (first : Leads transaction finished failed state)
    (second : Leads transaction otherFinished otherFailed state) : Leads transaction
      (fun value after => finished value after ∧ otherFinished value after)
      (fun failure after => failed failure after ∧ otherFailed failure after) state := by
  rw [leads_iff] at first second ⊢
  exact ⟨fun value isValue => ⟨first.1 value isValue, second.1 value isValue⟩,
    fun failure isFailure =>
      ⟨first.2 failure isFailure, second.2 failure isFailure⟩⟩

theorem Leads.of_fact (holds : fact) (transaction : Transaction ε σ α) :
    Finishes transaction (fun _ _ => fact) state :=
  leads_iff.mpr ⟨fun _ _ => holds, fun _ _ => trivial⟩

/-- What a transaction that ended with a result led to. -/
theorem Leads.of_result (leads : Leads transaction finished failed state)
    (isResult : (transaction.commitWhen commits state).1 = .ok value) :
    finished value (transaction.perform state).2 := by
  refine (leads_iff.mp leads).1 value ?_
  unfold Transaction.commitWhen at isResult
  simp only at isResult
  split_ifs at isResult <;> exact isResult

/-- What holds before a transaction, and after it where its writes are kept,
holds after its end. -/
theorem Leads.commitWhen {commits : Except ε α → Bool} {holds : σ → Prop} (leads : Leads transaction
      (fun value after => commits (.ok value) → holds after)
      (fun failure after => commits (.error failure) → holds after) state)
    (before : holds state) : holds (transaction.commitWhen commits state).2 := by
  unfold Transaction.commitWhen
  rw [leads_iff] at leads
  cases kept : commits (transaction.perform state).1 with
  | false =>
    simp only [kept, Bool.false_eq_true, if_false]
    exact before
  | true =>
    simp only [kept, if_true]
    cases result : (transaction.perform state).1 with
    | ok value => exact leads.1 value result (result ▸ kept)
    | error failure => exact leads.2 failure result (result ▸ kept)

/-- What holds before a transaction and after it finished holds after its
commit. -/
theorem Leads.commit {holds : σ → Prop}
    (leads : Finishes transaction (fun _ after => holds after) state)
    (before : holds state) : holds (transaction.commit state).2 := by
  refine Leads.commitWhen (leads.mono ?_ ?_) before
  · exact fun _ _ holdsAfter _ => holdsAfter
  · intro _ _ _ kept
    cases kept

/-- What a transaction that was committed with a result led to. -/
theorem Leads.of_commit (leads : Leads transaction finished failed state)
    (isResult : (transaction.commit state).1 = .ok value) :
    finished value (transaction.commit state).2 := by
  have kept : (transaction.commit state).2 = (transaction.perform state).2 := by
    unfold Transaction.commit Transaction.commitWhen at isResult ⊢
    cases result : (transaction.perform state).1 with
    | ok found => simp [result, Except.isOk, Except.toBool]
    | error failure =>
      simp [result, Except.isOk, Except.toBool] at isResult
  rw [kept]
  exact leads.of_result isResult

/-- A transaction that cannot fail is committed. -/
theorem Leads.succeeds (leads : Leads transaction finished failed state)
    (never : ∀ failure after, ¬ failed failure after) :
    ∃ value, (transaction.commit state).1 = .ok value ∧
      finished value (transaction.commit state).2 := by
  rw [leads_iff] at leads
  unfold Transaction.commit Transaction.commitWhen
  cases result : (transaction.perform state).1 with
  | ok value =>
    simp only [result, Except.isOk, Except.toBool, if_true]
    exact ⟨value, rfl, leads.1 value result⟩
  | error failure => exact absurd (leads.2 failure result) (never _ _)

end Rules

end Transaction
end Zrotext.Foundation
