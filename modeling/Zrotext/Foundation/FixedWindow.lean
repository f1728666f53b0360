import Mathlib

/-!
# Counters with fixed windows

A counter admits a bounded number of charges in a window.  The first charge
after the end of a window starts the next one.  Windows start at arbitrary
times, so an interval as long as a window meets at most two of them.
-/

namespace Zrotext.Foundation.FixedWindow

open List

/-- A charge, and whether it started a window. -/
structure Charge (τ : Type) where
  time : τ
  starts : Bool

/-- A window that was started, and the charges in it. -/
structure Counter (τ : Type) where
  startedAt : τ
  attempts : Int

variable {τ : Type} [AddCommGroup τ] [LinearOrder τ]

/-- The charges that a counter has admitted. -/
inductive Charged (maximum : Int) (window : τ) : List (Charge τ) → Option (Counter τ) → Prop
  | unused : Charged maximum window [] none
  | start {history : List (Charge τ)} {counter : Option (Counter τ)} {now : τ} :
      Charged maximum window history counter → (∀ charge ∈ history, charge.time ≤ now) →
      (∀ current ∈ counter, current.startedAt ≤ now - window) →
      Charged maximum window (history ++ [⟨now, true⟩]) (some ⟨now, 1⟩)
  | count {history : List (Charge τ)} {current : Counter τ} {now : τ} :
      Charged maximum window history (some current) → (∀ charge ∈ history, charge.time ≤ now) →
      current.attempts < maximum → Charged maximum window (history ++ [⟨now, false⟩])
        (some ⟨current.startedAt, current.attempts + 1⟩)

variable {maximum : Int} {window : τ} {history : List (Charge τ)}
  {counter : Option (Counter τ)}

namespace Charged

/-- What a counter admitted earlier. -/
theorem of_append (charged : Charged maximum window (history ++ later) counter) :
    ∃ before, Charged maximum window history before := by
  induction later using reverseRecOn generalizing counter with
  | nil => exact ⟨counter, append_nil history ▸ charged⟩
  | append_singleton later last ih =>
    rw [← append_assoc] at charged
    generalize isWhole : history ++ later ++ [last] = whole at charged
    cases charged with
    | unused => exact absurd isWhole (by simp)
    | start charged | count charged =>
      rw [← (append_inj' isWhole rfl).1] at charged
      exact ih charged

theorem one_le_attempts (charged : Charged maximum window history (some current)) :
    1 ≤ current.attempts := by
  generalize isCounter : some current = counter at charged
  induction charged generalizing current with
  | unused => cases isCounter
  | start => cases isCounter; exact le_refl 1
  | count _ _ _ ih =>
    cases isCounter
    have counted := ih rfl
    simp only
    omega

theorem attempts_le (charged : Charged maximum window history (some current))
    (positive : 1 ≤ maximum) : current.attempts ≤ maximum := by
  cases charged with
  | start => exact positive
  | count _ _ room => exact room

/-- What is counted was charged since the start of the window. -/
theorem attempts_le_length (charged : Charged maximum window history (some current)) :
    current.attempts ≤
      (history.filter fun charge => decide (current.startedAt ≤ charge.time)).length := by
  generalize isCounter : some current = counter at charged
  induction charged generalizing current with
  | unused => cases isCounter
  | start => cases isCounter; simp
  | @count history previous now charged latest _ ih =>
    cases isCounter
    have counted := ih rfl
    have started : previous.startedAt ≤ now := by
      by_contra! early
      rw [filter_eq_nil_iff.mpr fun charge listed => by
        simpa using (latest charge listed).trans_lt early] at counted
      exact absurd (charged.one_le_attempts.trans counted) (by simp)
    simpa [started] using counted

/-- The charges since the start of the window are counted. -/
theorem length_le_attempts (charged : Charged maximum window (before ++ first :: rest)
    (some current))
    (within : ∀ charge ∈ rest, charge.starts = false) :
    (rest.length : Int) + 1 ≤ current.attempts := by
  generalize isWhole : before ++ first :: rest = whole at charged
  generalize isCounter : some current = counter at charged
  induction charged generalizing rest current with
  | unused => cases isCounter
  | start =>
    cases isCounter
    cases rest using reverseRecOn with
    | nil => simp
    | append_singleton rest last =>
      rw [← cons_append, ← append_assoc] at isWhole
      have isLast := singleton_inj.mp (append_inj' isWhole rfl).2
      have continues := within last (by simp)
      rw [isLast] at continues
      cases continues
  | @count history previous now charged _ _ ih =>
    cases isCounter
    cases rest using reverseRecOn with
    | nil =>
      have counted := charged.one_le_attempts
      simp only [length_nil]
      omega
    | append_singleton rest last =>
      rw [← cons_append, ← append_assoc] at isWhole
      have bounded := ih (fun charge listed => within charge (by simp [listed]))
        (append_inj' isWhole rfl).1 rfl
      simp only [length_append, length_singleton]
      push_cast
      omega

/-- A window admits no more than the maximum. -/
theorem length_le_maximum (charged : Charged maximum window (before ++ (block ++ later)) counter)
    (positive : 1 ≤ maximum)
    (within : ∀ charge ∈ block.tail, charge.starts = false) : (block.length : Int) ≤ maximum := by
  cases block with
  | nil => exact zero_le_one.trans positive
  | cons first rest =>
    rw [← append_assoc] at charged
    obtain ⟨reached, charged⟩ := charged.of_append
    cases reached with
    | none =>
      generalize isWhole : before ++ first :: rest = whole at charged
      cases charged
      exact absurd isWhole (by simp)
    | some current =>
      exact (charged.length_le_attempts within).trans (charged.attempts_le positive)

section

variable (charged : Charged maximum window history counter)

include charged

theorem sorted : history.Pairwise fun earlier later => earlier.time ≤ later.time := by
  induction charged with
  | unused => exact .nil
  | start _ latest _ ih
  | count _ latest _ ih =>
    rw [pairwise_append]
    refine ⟨ih, pairwise_singleton _ _, ?_⟩
    intro earlier listed later isLast
    rw [mem_singleton.mp isLast]
    exact latest earlier listed

/-- The counter keeps the last start. -/
theorem le_startedAt (listed : charge ∈ history) (starts : charge.starts) :
    ∃ current, counter = some current ∧ charge.time ≤ current.startedAt := by
  induction charged with
  | unused => cases listed
  | @start history counter now _ latest _ _ =>
    rcases mem_append.mp listed with old | isLast
    · exact ⟨_, rfl, latest charge old⟩
    · rw [mem_singleton.mp isLast]
      exact ⟨_, rfl, le_refl _⟩
  | count _ _ _ ih =>
    rcases mem_append.mp listed with old | isLast
    · obtain ⟨current, isCurrent, bounded⟩ := ih old
      cases isCurrent
      exact ⟨_, rfl, bounded⟩
    · rw [mem_singleton.mp isLast] at starts
      cases starts

/-- Windows start at least a window apart. -/
theorem spaced [IsOrderedAddMonoid τ] :
    history.Pairwise fun earlier later => earlier.starts →
      later.starts → earlier.time + window ≤ later.time := by
  induction charged with
  | unused => exact .nil
  | @start history counter now charged _ ended ih =>
    rw [pairwise_append]
    refine ⟨ih, pairwise_singleton _ _, ?_⟩
    intro earlier listed later isLast starts _
    obtain ⟨current, isCurrent, bounded⟩ := charged.le_startedAt listed starts
    rw [mem_singleton.mp isLast]
    exact le_sub_iff_add_le.mp (bounded.trans (ended current isCurrent))
  | count _ _ _ ih =>
    rw [pairwise_append]
    refine ⟨ih, pairwise_singleton _ _, ?_⟩
    intro earlier listed later isLast _ starts
    rw [mem_singleton.mp isLast] at starts
    cases starts

end

end Charged

/-- The charge lies in an interval as long as a window. -/
def inside (window since : τ) (charge : Charge τ) : Bool :=
  decide (since ≤ charge.time) && decide (charge.time < since + window)

omit [AddCommGroup τ] in
/-- In a sorted list, what comes before a moment is a first part. -/
theorem filter_eq_takeWhile (moment : τ) (sorted : history.Pairwise fun earlier later =>
      earlier.time ≤ later.time) :
    history.filter (fun charge => decide (charge.time < moment)) =
        history.takeWhile (fun charge => decide (charge.time < moment)) ∧
      history.filter (fun charge => decide (moment ≤ charge.time)) =
        history.dropWhile (fun charge => decide (charge.time < moment)) := by
  induction history with
  | nil => exact ⟨rfl, rfl⟩
  | cons first rest ih =>
    obtain ⟨first_le, restSorted⟩ := pairwise_cons.mp sorted
    obtain ⟨earlier, later⟩ := ih restSorted
    by_cases isEarly : first.time < moment
    · simp [isEarly, not_le.mpr isEarly, earlier, later]
    · have late : ∀ charge ∈ rest, moment ≤ charge.time :=
        fun charge listed => (not_lt.mp isEarly).trans (first_le charge listed)
      have nothing : rest.filter (fun charge => decide (charge.time < moment)) = [] := by
        simpa using late
      have everything : rest.filter (fun charge => decide (moment ≤ charge.time)) = rest := by
        simpa using late
      simp [isEarly, not_lt.mp isEarly, nothing, everything]

/-- What lies in an interval stands together in a sorted list. -/
theorem filter_inside_eq (since : τ) (sorted : history.Pairwise fun earlier later =>
      earlier.time ≤ later.time) :
    ∃ before later, history = before ++ (history.filter (inside window since) ++ later) := by
  let isEarly := fun charge : Charge τ => decide (charge.time < since)
  let isSoon := fun charge : Charge τ => decide (charge.time < since + window)
  have rest : history.filter (fun charge => decide (since ≤ charge.time)) =
      history.dropWhile isEarly := (filter_eq_takeWhile since sorted).2
  have restSorted : (history.dropWhile isEarly).Pairwise
      fun earlier later => earlier.time ≤ later.time :=
    sorted.sublist (dropWhile_sublist _)
  have together : history.filter (inside window since) =
      (history.dropWhile isEarly).takeWhile isSoon := by
    rw [← (filter_eq_takeWhile (since + window) restSorted).1, ← rest, filter_filter]
    refine filter_congr fun charge _ => ?_
    exact Bool.and_comm _ _
  refine ⟨history.takeWhile isEarly, (history.dropWhile isEarly).dropWhile isSoon, ?_⟩
  rw [together, takeWhile_append_dropWhile, takeWhile_append_dropWhile]

namespace Charged

variable [IsOrderedAddMonoid τ]

/-- An interval as long as a window meets at most two windows. -/
theorem length_inside_le (charged : Charged maximum window history counter) (positive : 1 ≤ maximum)
    (since : τ) : ((history.filter (inside window since)).length : Int) ≤ 2 * maximum := by
  obtain ⟨before, later, isHistory⟩ : ∃ before later, history =
        before ++ (history.filter (inside window since) ++ later) :=
    filter_inside_eq since charged.sorted
  have spaced := charged.spaced.sublist
    (filter_sublist : (history.filter (inside window since)).Sublist _)
  have within : ∀ charge ∈ history.filter (inside window since),
      since ≤ charge.time ∧ charge.time < since + window := by
    intro charge listed
    have isInside := (mem_filter.mp listed).2
    simpa [inside] using isInside
  generalize history.filter (inside window since) = found at *
  let continues := fun charge : Charge τ => !charge.starts
  have split : found = found.takeWhile continues ++ found.dropWhile continues :=
    takeWhile_append_dropWhile.symm
  have first : ((found.takeWhile continues).length : Int) ≤ maximum := by
    have block : Charged maximum window (before ++
        (found.takeWhile continues ++ (found.dropWhile continues ++ later)))
          counter := by
      rw [← append_assoc (found.takeWhile continues), ← split, ← isHistory]
      exact charged
    refine block.length_le_maximum positive fun charge listed => ?_
    have continued := mem_takeWhile_imp (mem_of_mem_tail listed)
    simpa [continues] using continued
  have second : ((found.dropWhile continues).length : Int) ≤ maximum := by
    have block : Charged maximum window ((before ++ found.takeWhile continues)
        ++ (found.dropWhile continues ++ later)) counter := by
      rw [append_assoc, ← append_assoc (found.takeWhile continues), ← split, ← isHistory]
      exact charged
    refine block.length_le_maximum positive fun charge listed => ?_
    have subset := dropWhile_sublist continues (l := found)
    cases isRest : found.dropWhile continues with
    | nil =>
      rw [isRest] at listed
      cases listed
    | cons start rest =>
      have starts : start.starts := by
        have stopped := head_dropWhile_not continues (l := found) (by simp [isRest])
        simpa [isRest, continues] using stopped
      rw [isRest] at listed subset
      have apart := (pairwise_cons.mp (spaced.sublist subset)).1 charge listed starts
      by_contra restarts
      have late := apart (Bool.eq_true_of_not_eq_false restarts)
      have inRange := within charge (subset.subset (mem_cons_of_mem _ listed))
      have since_le := (within start (subset.subset mem_cons_self)).1
      exact absurd inRange.2 (not_lt.mpr ((add_le_add_left since_le window).trans late))
  have total := congrArg length split
  rw [length_append] at total
  omega

end Charged

end Zrotext.Foundation.FixedWindow
