import Mathlib

/-!
# Binary search

The search of Rust's slices, which halves a stretch of a sorted list until one
place is left.
-/

namespace Zrotext.Foundation.BinarySearch

open List

variable [LinearOrder α]

/-- The place that is left of the stretch of a size that starts at a base. -/
def locate (rows : List α) (key : α) : (fuel size base : Nat) → Nat
  | 0, _, base => base
  | fuel + 1, size, base =>
    if 1 < size then
      locate rows key fuel (size - size / 2)
        (if rows[base + size / 2]?.any (key < ·) then base else base + size / 2)
    else base

/-- Whether the search finds a key. -/
def contains (rows : List α) (key : α) : Bool :=
  rows[locate rows key rows.length rows.length 0]? == some key

/-- The search ends where the key is, if it is in the stretch. -/
theorem locate_eq {rows : List α} (sorted : rows.Pairwise (· < ·)) (within : index < rows.length)
    (lower : base ≤ index) (upper : index < base + size) (inside : base + size ≤ rows.length)
    (enough : size ≤ fuel + 1) : locate rows rows[index] fuel size base = index := by
  induction fuel generalizing size base with
  | zero =>
    unfold locate
    omega
  | succ fuel ih =>
    unfold locate
    split_ifs with many above
    · have isMiddle : base + size / 2 < rows.length := by omega
      rw [getElem?_eq_getElem isMiddle, Option.any_some, decide_eq_true_eq] at above
      have below : index < base + size / 2 := by
        by_contra reached
        rcases Nat.lt_or_eq_of_le (Nat.le_of_not_lt reached) with less | same
        · exact lt_asymm above (pairwise_iff_getElem.mp sorted _ _ isMiddle within less)
        · simp only [same, lt_irrefl] at above
      exact ih lower (by omega) (by omega) (by omega)
    · have isMiddle : base + size / 2 < rows.length := by omega
      rw [getElem?_eq_getElem isMiddle, Option.any_some, decide_eq_true_eq] at above
      have reached : base + size / 2 ≤ index := by
        by_contra below
        exact above (pairwise_iff_getElem.mp sorted _ _ within isMiddle (by omega))
      exact ih reached (by omega) (by omega) (by omega)
    · omega

/-- In a sorted list the search finds exactly what is listed. -/
theorem contains_iff {rows : List α} (sorted : rows.Pairwise (· < ·)) :
    contains rows key ↔ key ∈ rows := by
  unfold contains
  rw [beq_iff_eq]
  constructor
  · exact mem_of_getElem?
  · intro listed
    obtain ⟨index, within, rfl⟩ := mem_iff_getElem.mp listed
    rw [locate_eq sorted within (Nat.zero_le index) (by omega) (by omega) (by omega)]
    exact getElem?_eq_getElem within

end Zrotext.Foundation.BinarySearch
