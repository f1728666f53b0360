import Mathlib

/-!
# Tables with unique indexes

A table is a list of rows.  A unique index says which two rows clash; a row is
inserted only if it clashes with no row that is there, and rows are rewritten
only if no two of them clash afterwards.
-/

namespace Zrotext.Foundation.Table

open List

variable {ρ ι κ : Type}

/-- A unique index of a table. -/
structure Index (ρ ι : Type) where
  name : ι
  clashes : ρ → ρ → Bool
  symmetric : ∀ row other, clashes row other = clashes other row

/-- Rows that share a key clash.  Rows without a key are outside the index. -/
def sameKey [DecidableEq κ] (key : ρ → Option κ) (row other : ρ) : Bool :=
  (key row).isSome && key row == key other

/-- The index on a key. -/
def Index.on [DecidableEq κ] (name : ι) (key : ρ → Option κ) : Index ρ ι where
  name
  clashes := sameKey key
  symmetric := by
    intro row other
    unfold sameKey
    cases key row <;> cases key other <;> simp [eq_comm]

theorem sameKey_eq_false_iff [DecidableEq κ] {key : ρ → Option κ} {row other : ρ} :
    sameKey key row other = false ↔ ∀ value, key row = some value → key other ≠ some value := by
  unfold sameKey
  cases key row with
  | none => simp
  | some value =>
    simp only [Option.isSome_some, Bool.true_and, beq_eq_false_iff_ne, ne_eq,
      Option.some.injEq, forall_eq']
    exact not_congr eq_comm

theorem Index.on_free_iff [DecidableEq κ] {name : ι} {key : ρ → Option κ} {row other : ρ} :
    (Index.on name key).clashes row other = false ↔
      ∀ value, key row = some value → key other ≠ some value :=
  sameKey_eq_false_iff

/-- No two rows clash. -/
def Unique (index : Index ρ ι) (rows : List ρ) : Prop :=
  rows.Pairwise fun row other => index.clashes row other = false

instance (index : Index ρ ι) (rows : List ρ) : Decidable (Unique index rows) :=
  inferInstanceAs (Decidable (rows.Pairwise _))

/-- Two rows with the same key are one row. -/
theorem Unique.eq_of_key [DecidableEq κ] {name : ι} {key : ρ → Option κ} {rows : List ρ}
    (unique : Unique (Index.on name key) rows) {row other : ρ} {value : κ} (present : row ∈ rows)
    (otherPresent : other ∈ rows) (isKey : key row = some value)
    (otherKey : key other = some value) : row = other := by
  by_contra different
  have symmetric : Std.Symm fun first second =>
      (Index.on name key).clashes first second = false := by
    refine ⟨fun first second free => ?_⟩
    rw [(Index.on name key).symmetric]
    exact free
  have free : sameKey key row other = false :=
    List.Pairwise.forall unique present otherPresent different
  exact sameKey_eq_false_iff.mp free value isKey otherKey

variable {row : ρ} {rows : List ρ} {change : ρ → ρ} {selects : ρ → Bool}
  {column : ρ → κ}

theorem Unique.append (unique : Unique index rows)
    (free : ∀ other ∈ rows, index.clashes row other = false) : Unique index (rows ++ [row]) := by
  refine pairwise_append.mpr ⟨unique, pairwise_singleton _ _, ?_⟩
  intro other present last isLast
  rw [mem_singleton.mp isLast, index.symmetric]
  exact free other present

/-- Insert a row, or name the first index that it would break. -/
def insert (indexes : List (Index ρ ι)) (row : ρ) (rows : List ρ) : Except ι (List ρ) :=
  match indexes.find? fun index => rows.any (index.clashes row) with
  | some index => .error index.name
  | none => .ok (rows ++ [row])

/-- Change the rows that a condition selects. -/
def update (selects : ρ → Bool) (change : ρ → ρ) (rows : List ρ) : List ρ :=
  rows.map fun row => if selects row then change row else row

/-- Remove the rows that a condition selects. -/
def delete (selects : ρ → Bool) (rows : List ρ) : List ρ := rows.filter fun row => !selects row

/-- Change the rows that a condition selects, or name the first index that this
would break. -/
def rewrite (indexes : List (Index ρ ι)) (selects : ρ → Bool) (change : ρ → ρ)
    (rows : List ρ) : Except ι (List ρ) :=
  let changed := update selects change rows
  match indexes.find? fun index => !decide (Unique index changed) with
  | some index => .error index.name
  | none => .ok changed

theorem insert_eq_ok_iff {indexes : List (Index ρ ι)} {rows after : List ρ} :
    insert indexes row rows = .ok after ↔ after = rows ++ [row] ∧
        ∀ index ∈ indexes, ∀ other ∈ rows, index.clashes row other = false := by
  unfold insert
  cases found : indexes.find? fun index => rows.any (index.clashes row) with
  | some index =>
    have clashes := find?_some found
    have listed := mem_of_find?_eq_some found
    obtain ⟨other, present, clash⟩ := any_eq_true.mp clashes
    simp only [reduceCtorEq, false_iff, not_and]
    intro _ free
    rw [free index listed other present] at clash
    cases clash
  | none =>
    simp only [Except.ok.injEq]
    constructor
    · rintro rfl
      refine ⟨rfl, fun index listed other present => ?_⟩
      have free := find?_eq_none.mp found index listed
      rw [Bool.not_eq_true, any_eq_false] at free
      exact Bool.eq_false_iff.mpr (free other present)
    · exact fun both => both.1.symm

theorem rewrite_eq_ok_iff {indexes : List (Index ρ ι)} {rows after : List ρ} :
    rewrite indexes selects change rows = .ok after ↔ after = update selects change rows ∧
        ∀ index ∈ indexes, Unique index after := by
  unfold rewrite
  simp only
  cases found : indexes.find? fun index =>
      !decide (Unique index (update selects change rows)) with
  | some index =>
    have broken := find?_some found
    rw [Bool.not_eq_true', decide_eq_false_iff_not] at broken
    simp only [reduceCtorEq, false_iff, not_and]
    rintro rfl unique
    exact broken (unique index (mem_of_find?_eq_some found))
  | none =>
    simp only [Except.ok.injEq]
    constructor
    · rintro rfl
      refine ⟨rfl, fun index listed => ?_⟩
      have holds := find?_eq_none.mp found index listed
      simpa using holds
    · exact fun both => both.1.symm

theorem mem_update_iff : row ∈ update selects change rows ↔
      (row ∈ rows ∧ selects row = false) ∨ ∃ old ∈ rows, selects old ∧ row = change old := by
  unfold update
  rw [mem_map]
  constructor
  · rintro ⟨old, present, rfl⟩
    cases selected : selects old with
    | true => exact .inr ⟨old, present, selected, by simp⟩
    | false => exact .inl ⟨by simpa using present, by simpa using selected⟩
  · rintro (⟨present, unselected⟩ | ⟨old, present, selected, rfl⟩)
    · exact ⟨row, present, by simp [unselected]⟩
    · exact ⟨old, present, by simp [selected]⟩

/-- A change that keeps a column keeps the list of its values. -/
theorem map_update (column : ρ → κ) (keeps : ∀ row, column (change row) = column row)
    (rows : List ρ) : (update selects change rows).map column = rows.map column := by
  unfold update
  rw [map_map]
  refine map_congr_left fun row _ => ?_
  simp only [Function.comp_apply]
  split_ifs
  · exact keeps row
  · rfl

/-- A change that keeps a column keeps its values. -/
theorem exists_update_iff (keeps : ∀ row, column (change row) = column row) :
    (∃ row ∈ update selects change rows, column row = value) ↔
      ∃ row ∈ rows, column row = value := by
  rw [← mem_map, ← mem_map, map_update column keeps]

/-- A change that keeps the key of an index keeps the index. -/
theorem Unique.update [DecidableEq κ] {name : ι} {key : ρ → Option κ} {rows : List ρ}
    (unique : Unique (Index.on name key) rows) {selects : ρ → Bool} {change : ρ → ρ}
    (keeps : ∀ row, key (change row) = key row) :
    Unique (Index.on name key) (Table.update selects change rows) := by
  unfold Unique Table.update
  rw [pairwise_map]
  have same : ∀ row, key (if selects row then change row else row) = key row := by
    intro row
    split_ifs
    · exact keeps row
    · rfl
  refine unique.imp ?_
  intro row other free
  change sameKey key _ _ = false
  rw [sameKey_eq_false_iff, same, same]
  exact sameKey_eq_false_iff.mp free

/-- Changing one row keeps an index if the new key is not taken. -/
theorem Unique.update_one [DecidableEq κ] {name : ι} {key : ρ → Option κ} {rows : List ρ}
    (unique : Unique (Index.on name key) rows) {selects : ρ → Bool} {change : ρ → ρ}
    (atMostOne : rows.Pairwise fun row other =>
      ¬ (selects row ∧ selects other))
    (free : ∀ row ∈ rows, selects row → ∀ other ∈ rows,
      selects other = false → ∀ value, key (change row) = some value → key other ≠ some value) :
    Unique (Index.on name key) (Table.update selects change rows) := by
  unfold Unique Table.update
  rw [pairwise_map]
  refine (unique.and atMostOne).imp_of_mem ?_
  rintro row other present otherPresent ⟨unclashing, notBoth⟩
  rw [Index.on_free_iff] at unclashing ⊢
  cases selected : selects row with
  | true =>
    cases otherSelected : selects other with
    | true => exact absurd ⟨selected, otherSelected⟩ notBoth
    | false =>
      simpa using free row present selected other otherPresent otherSelected
  | false =>
    cases otherSelected : selects other with
    | true =>
      intro value isKey isOther
      exact free other otherPresent otherSelected row present selected value isOther isKey
    | false => simpa using unclashing

theorem Unique.delete (unique : Unique index rows) (selects : ρ → Bool) :
    Unique index (Table.delete selects rows) :=
  List.Pairwise.sublist filter_sublist unique

section Parts

variable {selects : ρ → Bool} {change : ρ → ρ}

variable {holds : ρ → Bool} {rows : List ρ}

/-- A part of a table that a change keeps is updated by itself. -/
theorem filter_update (keeps : ∀ row, holds (change row) = holds row) (rows : List ρ) :
    (update selects change rows).filter holds = update selects change (rows.filter holds) := by
  unfold update
  rw [filter_map]
  congr 1
  refine filter_congr fun row _ => ?_
  simp only [Function.comp_apply]
  split_ifs
  · exact keeps row
  · rfl

theorem filter_delete (holds : ρ → Bool) (rows : List ρ) :
    (delete selects rows).filter holds = delete selects (rows.filter holds) := by
  unfold delete
  rw [filter_filter, filter_filter]
  exact filter_congr fun row _ => Bool.and_comm _ _

theorem update_of_unselected (unselected : ∀ row ∈ rows, selects row = false) :
    update selects change rows = rows := by
  refine (map_congr_left fun row present => ?_).trans (map_id rows)
  simp [unselected row present]

/-- A part of a table that a change reaches as a whole. -/
theorem filter_update_of_selected {rows : List ρ} (isPart : rows.filter holds = part)
    (selected : ∀ row ∈ part, selects row)
    (keeps : ∀ row, holds (change row) = holds row := by intro row; rfl) :
    (update selects change rows).filter holds = part.map change := by
  rw [filter_update keeps, isPart]
  refine map_congr_left fun row present => ?_
  simp [selected row present]

section Keys

variable [BEq κ] [LawfulBEq κ] {key : ρ → κ} {sought target : κ}

theorem mem_part (isPart : rows.filter (key · == sought) = part) :
    row ∈ part ↔ row ∈ rows ∧ key row = sought := by
  rw [← isPart, mem_filter, beq_iff_eq]

/-- A part beside which there is nothing is the table. -/
theorem eq_part (isPart : rows.filter (key · == sought) = part)
    (others : ∀ other, other ≠ sought → rows.filter (key · == other) = []) : rows = part := by
  rw [← isPart, eq_comm, filter_eq_self]
  intro row present
  rw [beq_iff_eq]
  by_contra different
  cases (mem_part (others _ different)).mpr ⟨present, rfl⟩

/-- A part of a table that a change does not reach. -/
theorem filter_update_of_unselected
    (unselected : ∀ row ∈ rows, key row = sought → selects row = false)
    (keeps : ∀ row, key (change row) = key row := by intro row; rfl) :
    (update selects change rows).filter (key · == sought) = rows.filter (key · == sought) := by
  rw [filter_update fun row => by rw [keeps]]
  refine update_of_unselected fun row present => ?_
  obtain ⟨listed, isKey⟩ := (mem_part rfl).mp present
  exact unselected row listed isKey

theorem filter_update_of_ne (different : target ≠ sought)
    (only : ∀ row ∈ rows, selects row → key row = target := by simp +contextual)
    (keeps : ∀ row, key (change row) = key row := by intro row; rfl) :
    (update selects change rows).filter (key · == sought) = rows.filter (key · == sought) := by
  refine filter_update_of_unselected (fun row present isKey => ?_) keeps
  refine Bool.eq_false_iff.mpr fun selected => different ?_
  rw [← only row present selected, isKey]

end Keys

/-- Whether a row is changed matters only for the rows of the table. -/
theorem update_congr (same : ∀ row ∈ rows, selects row = others row) :
    update selects change rows = update others change rows := by
  refine map_congr_left fun row present => ?_
  rw [same row present]

theorem filter_append_of_none (none : ∀ row ∈ added, holds row = false) :
    (rows ++ added).filter holds = rows.filter holds := by
  have outside : added.filter holds = [] :=
    filter_eq_nil_iff.mpr fun row present => by simp [none row present]
  rw [filter_append, outside, append_nil]

/-- The first rows of an owner. -/
theorem filter_append_of_owned {owner : ρ → κ} [DecidableEq κ] {id : κ}
    (isEmpty : rows.filter (owner · == id) = []) (owned : ∀ row ∈ added, owner row = id) :
    (rows ++ added).filter (owner · == id) = added := by
  rw [filter_append, isEmpty, nil_append]
  exact filter_eq_self.mpr fun row present => beq_iff_eq.mpr (owned row present)

/-- New rows of one owner leave the rows of another owner. -/
theorem filter_append_of_other {owner : ρ → κ} [DecidableEq κ] {id other : κ}
    (owned : ∀ row ∈ added, owner row = id) (different : other ≠ id) :
    (rows ++ added).filter (owner · == other) = rows.filter (owner · == other) :=
  filter_append_of_none fun row present =>
    beq_eq_false_iff_ne.mpr (owned row present ▸ different.symm)

theorem delete_of_unselected (unselected : ∀ row ∈ rows, selects row = false) :
    delete selects rows = rows := by
  refine filter_eq_self.mpr fun row present => ?_
  rw [unselected row present, Bool.not_false]

theorem delete_of_selected (selected : ∀ row ∈ rows, selects row) :
    delete selects rows = [] := by
  refine filter_eq_nil_iff.mpr fun row present => ?_
  simp [selected row present]

end Parts

theorem countP_update_of_keeps (keeps : ∀ row, holds (change row) = holds row)
    (rows : List ρ) : (update selects change rows).countP holds = rows.countP holds := by
  rw [countP_eq_length_filter, filter_update keeps, countP_eq_length_filter]
  exact length_map _

theorem countP_delete (holds : ρ → Bool) (rows : List ρ) : (delete selects rows).countP holds +
        rows.countP (fun row => holds row && selects row) =
      rows.countP holds := by
  unfold delete
  rw [countP_filter]
  induction rows with
  | nil => rfl
  | cons row rows ih =>
    simp only [countP_cons]
    cases holds row <;> cases selects row <;> simp <;> omega

/-- What a change does to a count is what it does among the selected rows. -/
theorem countP_update (selects holds : ρ → Bool) (change : ρ → ρ) (rows : List ρ) :
    (update selects change rows).countP holds + (rows.filter selects).countP holds =
      rows.countP holds + (rows.filter selects).countP (fun row => holds (change row)) := by
  unfold update
  induction rows with
  | nil => rfl
  | cons row rest ih =>
    cases selected : selects row with
    | false =>
      rw [filter_cons_of_neg (by simp [selected]), map_cons,
        selected, if_neg Bool.false_ne_true, countP_cons,
        countP_cons]
      omega
    | true =>
      rw [filter_cons_of_pos selected, map_cons, selected,
        if_pos rfl, countP_cons, countP_cons, countP_cons,
        countP_cons]
      omega

theorem countP_set {holds : ρ → Bool} {rows : List ρ} {place : Nat} {row : ρ}
    (found : rows[place]? = some row) (next : ρ) :
    (rows.set place next).countP holds + (if holds row then 1 else 0) =
      rows.countP holds + if holds next then 1 else 0 := by
  induction rows generalizing place with
  | nil => cases found
  | cons first rest ih =>
    cases place with
    | zero =>
      cases found
      rw [set_cons_zero, countP_cons, countP_cons]
      omega
    | succ place =>
      have later := ih found
      rw [set_cons_succ, countP_cons, countP_cons]
      omega

theorem map_set_of_same {next : ρ} (found : rows[place]? = some row)
    (same : column next = column row) : (rows.set place next).map column = rows.map column := by
  rw [map_set, same]
  refine ext_getElem? fun index => ?_
  rw [getElem?_set]
  split_ifs with here inside
  · rw [← here, getElem?_map, found, Option.map_some]
  · rw [← here, getElem?_eq_none (Nat.le_of_not_lt inside)]
  · rfl

/-- A new row in the place of another leaves the rest there. -/
theorem mem_set_of_ne (found : rows[place]? = some row)
    (present : other ∈ rows) (different : other ≠ row) (next : ρ) :
    other ∈ rows.set place next := by
  obtain ⟨index, isOther⟩ := mem_iff_getElem?.mp present
  have elsewhere : place ≠ index := by
    rintro rfl
    rw [found] at isOther
    exact different (Option.some.inj isOther).symm
  refine mem_iff_getElem?.mpr ⟨index, ?_⟩
  rw [getElem?_set_ne elsewhere, isOther]

/-- What holds of the rows and of one more holds of the rows with it. -/
theorem forall_mem_concat {holds : ρ → Prop} (known : ∀ other ∈ rows, holds other)
    (isLast : holds row) : ∀ other ∈ rows ++ [row], holds other :=
  forall_mem_append.mpr ⟨known, forall_mem_singleton.mpr isLast⟩

/-- A row with a new value in a column comes last. -/
theorem nodup_map_concat (distinct : (rows.map column).Nodup)
    (isNew : ∀ known ∈ rows, column known ≠ column row) : ((rows ++ [row]).map column).Nodup := by
  rw [map_append, map_singleton, nodup_append]
  refine ⟨distinct, nodup_singleton _, ?_⟩
  rintro value isKnown _ isLast rfl
  obtain ⟨known, listed, rfl⟩ := mem_map.mp isKnown
  exact isNew known listed (mem_singleton.mp isLast)

/-- Rows that a condition holds of have one key, so there is at most one. -/
theorem countP_le_one (distinct : (rows.map key).Nodup)
    (same : ∀ row ∈ rows, ∀ other ∈ rows, holds row →
      holds other → key row = key other) :
    rows.countP holds ≤ 1 := by
  induction rows with
  | nil => exact Nat.zero_le 1
  | cons first rest ih =>
    rw [map_cons, nodup_cons] at distinct
    rw [countP_cons]
    split_ifs with isFirst
    · have noOther : rest.countP holds = 0 := by
        refine countP_eq_zero.mpr fun other listed isOther => ?_
        refine distinct.1 (mem_map.mpr ⟨other, listed, ?_⟩)
        exact same other (mem_cons_of_mem _ listed) first mem_cons_self isOther isFirst
      omega
    · exact ih distinct.2 fun row listed other isListed =>
        same row (mem_cons_of_mem _ listed) other (mem_cons_of_mem _ isListed)

/-- With distinct keys, one row has the key of a row. -/
theorem filter_key_eq_singleton [DecidableEq κ] {key : ρ → κ} {rows : List ρ}
    (distinct : (rows.map key).Nodup) {row : ρ} (present : row ∈ rows) :
    rows.filter (fun other => key other == key row) = [row] := by
  induction rows with
  | nil => cases present
  | cons first rest ih =>
    rw [map_cons, nodup_cons] at distinct
    rcases mem_cons.mp present with rfl | later
    · have others : rest.filter (fun other => key other == key row) = [] := by
        refine filter_eq_nil_iff.mpr fun other listed isKey => ?_
        rw [beq_iff_eq] at isKey
        exact distinct.1 (mem_map.mpr ⟨other, listed, isKey⟩)
      rw [filter_cons_of_pos (by simp), others]
    · have different : (key first == key row) = false := by
        rw [beq_eq_false_iff_ne]
        intro isKey
        exact distinct.1 (mem_map.mpr ⟨row, later, isKey.symm⟩)
      rw [filter_cons_of_neg (by simp [different])]
      exact ih distinct.2 later

/-- An index leaves at most one row under a key. -/
theorem Unique.filter_le_one [DecidableEq κ] {name : ι} {key : ρ → κ} {rows : List ρ}
    (unique : Unique (Index.on name fun row => some (key row)) rows) (value : κ) :
    (rows.filter (fun row => key row == value)).length ≤ 1 := by
  have pairwise := List.Pairwise.sublist (filter_sublist (p := fun row => key row == value)) unique
  have held : ∀ row ∈ rows.filter (fun row => key row == value), key row = value := by
    intro row present
    exact beq_iff_eq.mp (mem_filter.mp present).2
  generalize rows.filter (fun row => key row == value) = part at pairwise held ⊢
  match part with
  | [] => exact Nat.zero_le 1
  | [_] => exact Nat.le_refl 1
  | first :: second :: _ =>
    have free := (pairwise_cons.mp pairwise).1 second mem_cons_self
    refine absurd ?_ (Index.on_free_iff.mp free (key first) rfl)
    rw [held first mem_cons_self, held second (mem_cons_of_mem _ mem_cons_self)]

theorem length_flatMap_le_one {τ : Type} {partners : ρ → List τ} (single : rows.length ≤ 1)
    (partnersSingle : ∀ row ∈ rows, (partners row).length ≤ 1) :
    (rows.flatMap partners).length ≤ 1 := by
  match rows with
  | [] => exact Nat.zero_le 1
  | [row] =>
    rw [flatMap_singleton]
    exact partnersSingle row (mem_singleton_self row)
  | _ :: _ :: _ => simp at single

theorem nodup_map_of_filter [DecidableEq κ] {key : ρ → κ} {rows : List ρ} (single : ∀ value,
      (rows.filter (fun row => key row == value)).length ≤ 1) :
    (rows.map key).Nodup := by
  rw [nodup_iff_count_le_one]
  intro value
  rw [count, countP_map, countP_eq_length_filter]
  exact single value

/-- Rows with at most one partner each keep their distinct keys in the join. -/
theorem nodup_join {τ : Type} {partners : ρ → List τ} {key : τ → κ} (rowKey : ρ → κ)
    (distinct : (rows.map rowKey).Nodup) (single : ∀ row ∈ rows, (partners row).length ≤ 1)
    (keyed : ∀ row ∈ rows, ∀ partner ∈ partners row, key partner = rowKey row) :
    ((rows.flatMap partners).map key).Nodup := by
  refine List.Nodup.sublist ?_ distinct
  rw [map_flatMap, map_eq_flatMap]
  refine List.Sublist.flatMap_right rows fun row present => ?_
  have short := single row present
  have isKey := keyed row present
  cases isPartners : partners row with
  | nil => exact nil_sublist _
  | cons partner rest =>
    rw [isPartners] at short isKey
    have noRest : rest = [] := length_eq_zero_iff.mp (by simpa using short)
    rw [noRest, map_singleton, isKey partner mem_cons_self]

end Zrotext.Foundation.Table
