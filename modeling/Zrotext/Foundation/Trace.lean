import Mathlib

/-!
# Properties of every element of a trace

A trace is a list with its oldest element first.  A property of an element
together with everything before it holds throughout a trace when it holds at
every position, and it is established one element at a time.
-/

namespace Zrotext.Foundation

open List

variable (property : List α → α → Prop)

/-- The property holds of every element and the elements before it. -/
def Throughout (trace : List α) : Prop := ∀ before element later,
    trace = before ++ element :: later → property before element

theorem throughout_nil : Throughout property [] := by
  intro before element later split
  simp at split

theorem throughout_concat (trace : List α) (element : α) :
    Throughout property (trace ++ [element]) ↔
      Throughout property trace ∧ property trace element := by
  constructor
  · intro holds
    refine ⟨?_, holds trace element [] rfl⟩
    intro before other later split
    apply holds before other (later ++ [element])
    rw [split, append_assoc, cons_append]
  · rintro ⟨holds, last⟩ before other later split
    cases later using reverseRecOn with
    | nil =>
      obtain ⟨sameBefore, sameElement⟩ := append_inj' split rfl
      cases sameElement
      rw [← sameBefore]
      exact last
    | append_singleton later final =>
      rw [← cons_append, ← append_assoc] at split
      exact holds before other later (append_inj' split rfl).1

end Zrotext.Foundation
