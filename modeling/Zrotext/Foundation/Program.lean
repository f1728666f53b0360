import Mathlib

/-!
# Programs that call an environment

A program either finishes with a value or asks its environment for an answer
and continues with whatever it receives.  The environment is not modelled: a
run of a program is any sequence of answered calls that its text allows, and a
run may stop after any of them, which is what a crash of the process looks like
from outside.

Reasoning is relative to a monitor, an observer that keeps its own state along
the events of a run and says which answers it is prepared to see.  `Safe` is the
resulting logic of preconditions and postconditions; its soundness theorem
covers finished and crashed runs alike.
-/

namespace Zrotext.Foundation

/-- The calls a program may make and the type of answer each one expects. -/
structure Signature where
  /-- The calls. -/
  Op : Type
  /-- The answers to one call. -/
  Answer : Op → Type

/-- One answered call. -/
structure Event (signature : Signature) where
  /-- The call. -/
  op : signature.Op
  /-- The answer it received. -/
  answer : signature.Answer op

instance {signature : Signature} [DecidableEq signature.Op]
    [(op : signature.Op) → DecidableEq (signature.Answer op)] : DecidableEq (Event signature)
  | ⟨op, answer⟩, ⟨other, reply⟩ =>
    if same : op = other then
      decidable_of_iff (same ▸ answer = reply) (by
        cases same
        exact ⟨congrArg _, fun equal => by cases equal; rfl⟩)
    else
      .isFalse fun equal => same (congrArg Event.op equal)

/-- A program over a signature with a result in `α`. -/
inductive Program (signature : Signature) (α : Type)
  | done (value : α)
  | call (op : signature.Op) (next : signature.Answer op → Program signature α)

namespace Program

variable {signature : Signature} {α β γ : Type}

/-- Continue with the result of a program. -/
protected def bind : Program signature α → (α → Program signature β) → Program signature β
  | .done value, continuation => continuation value
  | .call op next, continuation =>
    .call op fun answer => (next answer).bind continuation

instance : Monad (Program signature) where
  pure := .done
  bind := Program.bind

@[simp] theorem done_bind (value : α) (continuation : α → Program signature β) :
    (Program.done value >>= continuation) = continuation value := rfl

/-- `Runs program events outcome` says that the program can make exactly the
answered calls `events`, in that order, and then either finish (`some value`)
or crash (`none`). -/
inductive Runs : Program signature α → List (Event signature) → Option α → Prop
  | done (value : α) : Runs (.done value) [] (some value)
  | crash (program : Program signature α) : Runs program [] none
  | call {op : signature.Op} {next : signature.Answer op → Program signature α}
      {answer : signature.Answer op} {events : List (Event signature)} {outcome : Option α} :
      Runs (next answer) events outcome → Runs (.call op next) (⟨op, answer⟩ :: events) outcome

end Program

/-- An observer of events: its state type is `γ`, it may refuse to consider an
answer, and it moves on with every event. -/
structure Monitor (signature : Signature) (γ : Type) where
  /-- The events the observer is prepared to see. -/
  admits : γ → Event signature → Prop
  /-- The observer's next state. -/
  next : γ → Event signature → γ

namespace Monitor

variable {signature : Signature} {γ : Type}

/-- If the observer admits the event, it passes the check and leads to a state
with some property. -/
abbrev Passes (monitor : Monitor signature γ) (check : γ → Event signature → Prop) (ghost : γ)
    (event : Event signature) (good : γ → Prop) : Prop :=
  monitor.admits ghost event → check ghost event ∧ good (monitor.next ghost event)

/-- Observer state after a sequence of events. -/
def after (monitor : Monitor signature γ) (ghost : γ) (events : List (Event signature)) : γ :=
  events.foldl monitor.next ghost

@[simp] theorem after_nil (monitor : Monitor signature γ) (ghost : γ) :
    monitor.after ghost [] = ghost := rfl

@[simp] theorem after_cons (monitor : Monitor signature γ) (ghost : γ) (event : Event signature)
    (events : List (Event signature)) : monitor.after ghost (event :: events) =
      monitor.after (monitor.next ghost event) events := rfl

theorem after_append (monitor : Monitor signature γ) (ghost : γ)
    (first second : List (Event signature)) : monitor.after ghost (first ++ second) =
      monitor.after (monitor.after ghost first) second := by
  simp [after, List.foldl_append]

/-- A property holds of every event of a sequence, each taken together with the
observer state it meets. -/
def Along (monitor : Monitor signature γ) (property : γ → Event signature → Prop) :
    γ → List (Event signature) → Prop
  | _, [] => True
  | ghost, event :: events =>
    property ghost event ∧ monitor.Along property (monitor.next ghost event) events

section

variable (monitor : Monitor signature γ) (property : γ → Event signature → Prop) (ghost : γ)

include monitor property ghost

@[simp] theorem along_nil : monitor.Along property ghost [] := trivial

@[simp] theorem along_cons (event : Event signature) (events : List (Event signature)) :
    monitor.Along property ghost (event :: events) ↔ property ghost event ∧
        monitor.Along property (monitor.next ghost event) events := Iff.rfl

theorem along_append (first second : List (Event signature)) :
    monitor.Along property ghost (first ++ second) ↔ monitor.Along property ghost first ∧
        monitor.Along property (monitor.after ghost first) second := by
  induction first generalizing ghost with
  | nil => simp
  | cons event events ih =>
    simp [ih, and_assoc]

end

instance decidableAlong (monitor : Monitor signature γ) (property : γ → Event signature → Prop)
    [∀ ghost event, Decidable (property ghost event)] :
    (ghost : γ) → (events : List (Event signature)) →
      Decidable (monitor.Along property ghost events)
  | _, [] => .isTrue trivial
  | ghost, event :: events =>
    have := decidableAlong monitor property (monitor.next ghost event) events
    inferInstanceAs (Decidable (property ghost event ∧ _))

theorem Along.at_split {monitor : Monitor signature γ}
    (along : monitor.Along property ghost (before ++ event :: later)) :
    property (monitor.after ghost before) event :=
  ((monitor.along_append property ghost before (event :: later)).mp along).2.1

/-- The observer is prepared to see every event of a sequence. -/
def Admits (monitor : Monitor signature γ) (ghost : γ) (events : List (Event signature)) : Prop :=
  monitor.Along monitor.admits ghost events

instance (monitor : Monitor signature γ) [∀ ghost event, Decidable (monitor.admits ghost event)]
    (ghost : γ) (events : List (Event signature)) : Decidable (monitor.Admits ghost events) :=
  decidableAlong monitor monitor.admits ghost events

end Monitor

namespace Program

variable {signature : Signature} {α β γ : Type}
variable {monitor : Monitor signature γ}
variable {check : γ → Event signature → Prop}

/-- Whatever admitted answers the program receives from an observer state,
every event it takes part in passes `check`, and if it finishes, its value and
the final observer state satisfy `post`. -/
def Safe (monitor : Monitor signature γ) (check : γ → Event signature → Prop)
    (post : α → γ → Prop) : Program signature α → γ → Prop
  | .done value, ghost => post value ghost
  | .call op next, ghost =>
    ∀ answer, monitor.admits ghost ⟨op, answer⟩ → check ghost ⟨op, answer⟩ ∧
        Safe monitor check post (next answer) (monitor.next ghost ⟨op, answer⟩)

variable {post : α → γ → Prop} {program : Program signature α} {ghost : γ}
  {allowed : signature.Op → Prop}

theorem Safe.mono (safe : Safe monitor check strong program ghost)
    (weaken : ∀ value final, strong value final → weak value final) :
    Safe monitor check weak program ghost := by
  induction program generalizing ghost with
  | done value => exact weaken value ghost safe
  | call op next ih =>
    intro answer admitted
    obtain ⟨checked, rest⟩ := safe answer admitted
    exact ⟨checked, ih answer rest⟩

/-- Sequencing: the first program must leave a state from which the second is
safe. -/
theorem Safe.bind {post : β → γ → Prop} (first : Safe monitor check middle program ghost)
    (rest : ∀ value final, middle value final → Safe monitor check post (next value) final) :
    Safe monitor check post (program >>= next) ghost := by
  induction program generalizing ghost with
  | done value => exact rest value ghost first
  | call op _ ih =>
    intro answer admitted
    obtain ⟨checked, safe⟩ := first answer admitted
    exact ⟨checked, ih answer safe⟩

/-- Soundness of the logic for finished and crashed runs. -/
theorem Safe.sound (safe : Safe monitor check post program ghost)
    (runs : Runs program events outcome)
    (admitted : monitor.Admits ghost events) : monitor.Along check ghost events ∧
      ∀ value, outcome = some value → post value (monitor.after ghost events) := by
  induction runs generalizing ghost with
  | done value =>
    refine ⟨trivial, ?_⟩
    intro result equal
    cases equal
    exact safe
  | crash program =>
    refine ⟨trivial, ?_⟩
    intro result equal
    cases equal
  | call runs ih =>
    obtain ⟨checked, rest⟩ := safe _ admitted.1
    obtain ⟨along, finish⟩ := ih rest admitted.2
    exact ⟨⟨checked, along⟩, finish⟩

/-- The program only makes allowed calls, and any result satisfies `post`. -/
def Uses (allowed : signature.Op → Prop) (post : α → Prop) : Program signature α → Prop
  | .done value => post value
  | .call op next => allowed op ∧ ∀ answer, Uses allowed post (next answer)

theorem Uses.mono (uses : Uses allowed strong program) (widen : ∀ op, allowed op → more op)
    (weaken : ∀ value, strong value → weak value) : Uses more weak program := by
  induction program with
  | done value => exact weaken value uses
  | call op next ih =>
    exact ⟨widen op uses.1, fun answer =>
      ih answer (uses.2 answer)⟩

theorem uses_bind {post : β → Prop} (program : Program signature α)
    (continuation : α → Program signature β) : Uses allowed post (program >>= continuation) ↔
      Uses allowed (fun value => Uses allowed post (continuation value)) program := by
  induction program with
  | done value => rfl
  | call op next ih =>
    exact and_congr_right fun _ =>
      forall_congr' fun answer => ih answer

/-- A safe program also guarantees what any of its results satisfies. -/
theorem Safe.and_uses (safe : Safe monitor check post program ghost)
    (uses : Uses allowed result program) :
    Safe monitor check (fun value final => post value final ∧ result value) program ghost := by
  induction program generalizing ghost with
  | done value => exact ⟨safe, uses⟩
  | call op next ih =>
    intro answer admitted
    obtain ⟨checked, rest⟩ := safe answer admitted
    exact ⟨checked, ih answer rest (uses.2 answer)⟩

/-- A program is safe for an observer that ignores all of its calls. -/
theorem Uses.safe {post : α → Prop} (uses : Uses allowed post program) (ghost : γ)
    (ignored : ∀ op answer, allowed op → monitor.Passes check ghost ⟨op, answer⟩ (· = ghost)) :
    Safe monitor check (fun value final => post value ∧ final = ghost) program ghost := by
  induction program with
  | done value => exact ⟨uses, rfl⟩
  | call op next ih =>
    intro answer admitted
    obtain ⟨checked, same⟩ := ignored op answer uses.1 admitted
    refine ⟨checked, ?_⟩
    rw [same]
    exact ih answer (uses.2 answer)

end Program
end Zrotext.Foundation
