import Zrotext.Foundation.Table

/-!
# Tables with a primary key

The rows of such a table have distinct keys, so a key names at most one row.
-/

namespace Zrotext.Foundation

open List

/-- A table whose rows have distinct keys. -/
structure Keyed {ρ κ : Type} (key : ρ → κ) where
  rows : List ρ
  distinct : (rows.map key).Nodup

namespace Keyed

variable {ρ κ : Type} {key : ρ → κ}

@[ext]
theorem ext {table other : Keyed key} (sameRows : table.rows = other.rows) : table = other := by
  cases table
  cases other
  cases sameRows
  rfl

instance [DecidableEq ρ] : DecidableEq (Keyed key) := fun table other =>
  decidable_of_iff (table.rows = other.rows) ⟨ext, congrArg rows⟩

/-- No rows. -/
def empty : Keyed key := ⟨[], nodup_nil⟩

/-- Remove the rows that a condition selects. -/
def remove (selects : ρ → Bool) (table : Keyed key) : Keyed key where
  rows := Table.delete selects table.rows
  distinct := table.distinct.sublist (filter_sublist.map key)

/-- Change the rows that a condition selects, without changing their keys. -/
def revise (selects : ρ → Bool) (change : ρ → ρ) (keeps : ∀ row, key (change row) = key row)
    (table : Keyed key) : Keyed key where
  rows := Table.update selects change table.rows
  distinct := by
    rw [Table.map_update key keeps]
    exact table.distinct

/-- Insert a row whose key is not there. -/
def add (row : ρ) (table : Keyed key) (absent : key row ∉ table.rows.map key) : Keyed key where
  rows := table.rows ++ [row]
  distinct := Table.nodup_map_concat table.distinct fun _ listed same =>
    absent (same ▸ mem_map_of_mem listed)

variable {table : Keyed key}

theorem eq_of_key (present : row ∈ table.rows) (otherPresent : other ∈ table.rows)
    (sameKey : key row = key other) : row = other :=
  inj_on_of_nodup_map table.distinct present otherPresent sameKey

variable [DecidableEq κ]

/-- The row of a key. -/
def lookup (sought : κ) (table : Keyed key) : Option ρ :=
  table.rows.find? fun row => decide (key row = sought)

/-- Insert a row in the place of the row with the same key. -/
def put (row : ρ) (table : Keyed key) : Keyed key :=
  if present : key row ∈ table.rows.map key then
    { rows := table.rows.map fun known =>
        if key known = key row then row else known
      distinct := by
        have sameKeys : (table.rows.map fun known =>
            if key known = key row then row else known).map key =
              table.rows.map key := by
          rw [map_map]
          refine map_congr_left fun known _ => ?_
          simp only [Function.comp_apply]
          split_ifs with same
          · exact same.symm
          · rfl
        rw [sameKeys]
        exact table.distinct }
  else
    table.add row present

theorem lookup_eq_some_iff :
    table.lookup sought = some row ↔ row ∈ table.rows ∧ key row = sought := by
  unfold lookup
  constructor
  · intro found
    exact ⟨mem_of_find?_eq_some found, of_decide_eq_true (find?_some
        (p := fun row => decide (key row = sought)) found)⟩
  · rintro ⟨present, rfl⟩
    cases found : table.rows.find? fun other => decide (key other = key row) with
    | none =>
      exact absurd (decide_eq_true rfl) (find?_eq_none.mp found row present)
    | some other =>
      have sameKey : key other = key row := of_decide_eq_true (find?_some
          (p := fun other => decide (key other = key row)) found)
      rw [table.eq_of_key (mem_of_find?_eq_some found) present sameKey]

theorem lookup_eq_none_iff : table.lookup sought = none ↔ ∀ row ∈ table.rows, key row ≠ sought := by
  unfold lookup
  rw [find?_eq_none]
  simp only [decide_eq_true_eq, ne_eq]

theorem mem_put_iff : other ∈ (table.put row).rows ↔
      other = row ∨ (other ∈ table.rows ∧ key other ≠ key row) := by
  unfold put
  split_ifs with present
  · simp only [mem_map]
    constructor
    · rintro ⟨known, listed, rfl⟩
      split_ifs with same
      · exact .inl rfl
      · exact .inr ⟨listed, same⟩
    · rintro (rfl | ⟨listed, different⟩)
      · obtain ⟨known, listed, same⟩ := mem_map.mp present
        exact ⟨known, listed, by simp [same]⟩
      · exact ⟨other, listed, by simp [different]⟩
  · simp only [add, mem_append, mem_singleton]
    constructor
    · rintro (listed | rfl)
      · refine .inr ⟨listed, fun same => present ?_⟩
        rw [← same]
        exact mem_map_of_mem listed
      · exact .inl rfl
    · rintro (rfl | ⟨listed, _⟩)
      · exact .inr rfl
      · exact .inl listed

theorem lookup_put_self (row : ρ) (table : Keyed key) :
    (table.put row).lookup (key row) = some row :=
  lookup_eq_some_iff.mpr ⟨mem_put_iff.mpr (.inl rfl), rfl⟩

theorem lookup_put_of_ne (different : sought ≠ key row) :
    (table.put row).lookup sought = table.lookup sought := by
  cases found : table.lookup sought with
  | some other =>
    obtain ⟨present, rfl⟩ := lookup_eq_some_iff.mp found
    exact lookup_eq_some_iff.mpr ⟨mem_put_iff.mpr (.inr ⟨present, different⟩), rfl⟩
  | none =>
    rw [lookup_eq_none_iff] at found ⊢
    intro other present
    rcases mem_put_iff.mp present with rfl | ⟨old, _⟩
    · exact different.symm
    · exact found other old

theorem lookup_put (row : ρ) (table : Keyed key) (sought : κ) : (table.put row).lookup sought =
      if sought = key row then some row else table.lookup sought := by
  split_ifs with same
  · rw [same, lookup_put_self]
  · exact lookup_put_of_ne same

theorem lookup_remove (selects : ρ → Bool) (table : Keyed key) (sought : κ) :
    (table.remove selects).lookup sought =
      (table.lookup sought).filter fun row => !selects row := by
  have mem_remove : ∀ row, row ∈ (table.remove selects).rows ↔
      row ∈ table.rows ∧ selects row = false := by
    intro row
    simp [remove, Table.delete]
  cases found : (table.lookup sought).filter fun row => !selects row with
  | some row =>
    obtain ⟨isRow, kept⟩ := Option.filter_eq_some_iff.mp found
    obtain ⟨present, isKey⟩ := lookup_eq_some_iff.mp isRow
    exact lookup_eq_some_iff.mpr ⟨(mem_remove row).mpr ⟨present, by simpa using kept⟩, isKey⟩
  | none =>
    rw [lookup_eq_none_iff]
    rintro row present rfl
    obtain ⟨old, kept⟩ := (mem_remove row).mp present
    rw [lookup_eq_some_iff.mpr ⟨old, rfl⟩] at found
    simp [kept] at found

/-- A column in which a row says what the row with its key says. -/
theorem map_put {α : Type} (column : ρ → α) (present : known ∈ table.rows)
    (sameKey : key known = key row) (same : column known = column row) :
    (table.put row).rows.map column = table.rows.map column := by
  unfold put
  rw [dif_pos (mem_map.mpr ⟨known, present, sameKey⟩), map_map]
  refine map_congr_left fun other listed => ?_
  simp only [Function.comp_apply]
  split_ifs with isKey
  · rw [table.eq_of_key listed present (isKey.trans sameKey.symm), same]
  · rfl

/-- A row with a new key comes last. -/
theorem rows_put_of_none (absent : table.lookup (key row) = none) :
    (table.put row).rows = table.rows ++ [row] := by
  have notMem : key row ∉ table.rows.map key := by
    rw [mem_map]
    rintro ⟨known, listed, sameKey⟩
    exact lookup_eq_none_iff.mp absent known listed sameKey
  unfold put
  rw [dif_neg notMem]
  rfl

end Keyed
end Zrotext.Foundation
