import Mathlib

/-!
# Retention of a timed log

A log whose entries carry a time, in any order, is shortened from the front: an
entry is outdated once some entry is newer by more than a window, and the
longest outdated prefix is dropped as long as a floor of entries remains.
Dropping at every append amounts to dropping once from the whole log, and nobody
who looks at the window after the newest entry can tell the difference.
-/

namespace Zrotext.Foundation.Retention

open List

variable {α : Type} (time : α → Nat) (window floor : Nat)

/-- Some entry is newer by more than the window. -/
def Outdated (entries : List α) (entry : α) : Prop :=
  ∃ newer ∈ entries, time entry + window < time newer

instance (entries : List α) : DecidablePred (Outdated time window entries) :=
  fun _ => decidableBEx _ _

/-- The length of the prefix that may be dropped. -/
def agedPrefix (entries : List α) : Nat := min (entries.takeWhile fun entry =>
    decide (Outdated time window entries entry)).length (entries.length - floor)

variable {time window floor}

theorem lt_length_takeWhile_iff (keep : α → Bool) (entries : List α) (index : Nat) :
    index < (entries.takeWhile keep).length ↔ index < entries.length ∧
        ∀ entry ∈ entries.take (index + 1), keep entry := by
  induction entries generalizing index with
  | nil => simp
  | cons entry entries ih =>
    cases kept : keep entry with
    | false => simp [kept]
    | true =>
      cases index with
      | zero => simp [kept]
      | succ index => simp [kept, ih]

/-- An entry is dropped exactly if it and everything before it is outdated and
the floor remains behind it. -/
theorem lt_agedPrefix_iff (entries : List α) (index : Nat) :
    index < agedPrefix time window floor entries ↔
      index < entries.length ∧ index + floor < entries.length ∧ ∀ entry ∈ entries.take (index + 1),
          Outdated time window entries entry := by
  unfold agedPrefix
  rw [Nat.lt_min, lt_length_takeWhile_iff]
  simp only [decide_eq_true_eq]
  constructor
  · rintro ⟨⟨within, outdated⟩, above⟩
    exact ⟨within, by omega, outdated⟩
  · rintro ⟨within, above, outdated⟩
    exact ⟨⟨within, outdated⟩, by omega⟩

theorem agedPrefix_le_length (entries : List α) :
    agedPrefix time window floor entries ≤ entries.length :=
  (Nat.min_le_left _ _).trans (takeWhile_sublist _).length_le

variable {entries : List α} {entry : α} {count : Nat}

/-- Everything in the aged prefix is outdated. -/
theorem outdated_of_mem_take (aged : count ≤ agedPrefix time window floor entries)
    (dropped : entry ∈ entries.take count) : Outdated time window entries entry := by
  cases count with
  | zero => cases dropped
  | succ index =>
    exact ((lt_agedPrefix_iff entries index).mp aged).2.2 entry dropped

theorem exists_newest (time : α → Nat) (listed : entry ∈ entries) :
    ∃ newest ∈ entries, ∀ other ∈ entries, time other ≤ time newest := by
  induction entries generalizing entry with
  | nil => cases listed
  | cons first entries ih =>
    cases entries with
    | nil => exact ⟨first, mem_singleton_self first, by simp⟩
    | cons next entries =>
      obtain ⟨newest, member, above⟩ := ih (mem_cons_self (a := next))
      by_cases later : time first ≤ time newest
      · refine ⟨newest, mem_cons_of_mem first member, ?_⟩
        exact forall_mem_cons.mpr ⟨later, above⟩
      · refine ⟨first, mem_cons_self, ?_⟩
        refine forall_mem_cons.mpr ⟨Nat.le_refl _, ?_⟩
        intro other listed
        exact (above other listed).trans (by omega)

/-- For every entry one at least as new is retained. -/
theorem exists_retained (aged : count ≤ agedPrefix time window floor entries)
    (listed : entry ∈ entries) : ∃ retained ∈ entries.drop count, time entry ≤ time retained := by
  obtain ⟨newest, member, above⟩ := exists_newest time listed
  refine ⟨newest, ?_, above entry listed⟩
  rw [← take_append_drop count entries, mem_append] at member
  rcases member with dropped | retained
  · obtain ⟨newer, listedNewer, later⟩ := outdated_of_mem_take aged dropped
    have bound := above newer listedNewer
    omega
  · exact retained

theorem outdated_drop_iff (aged : count ≤ agedPrefix time window floor entries) (entry : α) :
    Outdated time window (entries.drop count) entry ↔ Outdated time window entries entry := by
  constructor
  · rintro ⟨newer, member, later⟩
    exact ⟨newer, mem_of_mem_drop member, later⟩
  · rintro ⟨newer, member, later⟩
    obtain ⟨retained, kept, above⟩ := exists_retained aged member
    exact ⟨retained, kept, later.trans_le above⟩

theorem Outdated.append (outdated : Outdated time window entries entry) (more : List α) :
    Outdated time window (entries ++ more) entry := by
  obtain ⟨newer, member, later⟩ := outdated
  exact ⟨newer, mem_append_left more member, later⟩

/-- A longer log may drop at least as much. -/
theorem agedPrefix_le_append (entries more : List α) : agedPrefix time window floor entries ≤
      agedPrefix time window floor (entries ++ more) := by
  refine le_of_forall_lt ?_
  intro index below
  rw [lt_agedPrefix_iff] at below ⊢
  obtain ⟨within, above, outdated⟩ := below
  rw [length_append, take_append_of_le_length within]
  exact ⟨by omega, by omega, fun entry dropped =>
    (outdated entry dropped).append more⟩

/-- A smaller window may drop at least as much. -/
theorem agedPrefix_le_of_window_le (shrinks : smaller ≤ larger)
    (entries : List α) : agedPrefix time larger floor entries ≤
      agedPrefix time smaller floor entries := by
  refine le_of_forall_lt ?_
  intro index below
  rw [lt_agedPrefix_iff] at below ⊢
  obtain ⟨within, above, outdated⟩ := below
  refine ⟨within, above, fun entry dropped => ?_⟩
  obtain ⟨newer, member, later⟩ := outdated entry dropped
  exact ⟨newer, member, by omega⟩

/-- What is left of a log drops what the whole log still had to drop. -/
theorem agedPrefix_drop (aged : count ≤ agedPrefix time window floor entries) :
    agedPrefix time window floor (entries.drop count) =
      agedPrefix time window floor entries - count := by
  have short := aged.trans (agedPrefix_le_length entries)
  have shifted : ∀ index, index < agedPrefix time window floor (entries.drop count) ↔
        count + index < agedPrefix time window floor entries := by
    intro index
    have taken : entries.take (count + index + 1) =
        entries.take count ++ (entries.drop count).take (index + 1) := by
      rw [Nat.add_assoc, take_add]
    rw [lt_agedPrefix_iff, lt_agedPrefix_iff, length_drop, taken, forall_mem_append]
    simp only [outdated_drop_iff aged]
    constructor
    · rintro ⟨within, above, outdated⟩
      exact ⟨by omega, by omega, fun entry dropped =>
        outdated_of_mem_take aged dropped, outdated⟩
    · rintro ⟨within, above, _, outdated⟩
      exact ⟨by omega, by omega, outdated⟩
  refine eq_of_forall_lt_iff ?_
  intro index
  rw [shifted]
  omega

/-- Nothing that was dropped lies inside the window at a time after every
entry. -/
theorem filter_drop (aged : count ≤ agedPrefix time window floor entries)
    (past : ∀ entry ∈ entries, time entry ≤ now)
    (insideWindow : ∀ entry, inside entry → now ≤ time entry + window) :
    (entries.drop count).filter inside = entries.filter inside := by
  have none : (entries.take count).filter inside = [] := by
    rw [filter_eq_nil_iff]
    intro entry dropped isInside
    obtain ⟨newer, member, later⟩ := outdated_of_mem_take aged dropped
    have bound := past newer member
    have recent := insideWindow entry isInside
    omega
  conv_rhs => rw [← take_append_drop count entries, filter_append, none, nil_append]

end Zrotext.Foundation.Retention
