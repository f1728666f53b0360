import Mathlib

/-!
# Folding records by key

A list of records is condensed into one entry per key: the first record of a
key opens an entry and every further one is folded into it.  The entries come
out with distinct keys, and each is the fold of exactly the records that carry
its key, so counting entries counts keys.
-/

namespace Zrotext.Foundation

open List

/-- How records of type `ρ` are folded into entries of type `ν` under keys of
type `κ`. -/
structure KeyedFold (κ ρ ν : Type) where
  /-- Key of a record. -/
  recordKey : ρ → κ
  /-- Key of an entry. -/
  entryKey : ν → κ
  /-- An entry that no record has been folded into. -/
  blank : κ → ν
  /-- Fold one record into an entry. -/
  fold : ν → ρ → ν
  entryKey_blank : ∀ key, entryKey (blank key) = key
  entryKey_fold : ∀ entry record, entryKey (fold entry record) = entryKey entry

namespace KeyedFold

variable {κ ρ ν : Type} [DecidableEq κ]
variable (keyed : KeyedFold κ ρ ν)

/-- Fold a record into the first entry with its key, or open a new entry at the
end. -/
def add : List ν → ρ → List ν
  | [], record => [keyed.fold (keyed.blank (keyed.recordKey record)) record]
  | entry :: entries, record =>
    if keyed.entryKey entry = keyed.recordKey record then
      keyed.fold entry record :: entries
    else
      entry :: add entries record

variable (records : List ρ)

/-- The entries of a list of records. -/
def collect : List ν := records.foldl keyed.add []

/-- The records that carry one key. -/
def recordsOf (key : κ) : List ρ :=
  records.filter fun record => keyed.recordKey record = key

theorem recordsOf_eq_nil_iff (key : κ) : keyed.recordsOf records key = [] ↔
      key ∉ records.map keyed.recordKey := by
  unfold recordsOf
  rw [filter_eq_nil_iff, mem_map]
  simp

/-- The fold of the records that carry one key. -/
def tally (key : κ) : ν :=
  (keyed.recordsOf records key).foldl keyed.fold (keyed.blank key)

@[simp] theorem entryKey_tally (key : κ) : keyed.entryKey (keyed.tally records key) = key := by
  unfold tally
  generalize keyed.recordsOf records key = selected
  have carried : ∀ entry, keyed.entryKey (selected.foldl keyed.fold entry) =
      keyed.entryKey entry := by
    induction selected with
    | nil => exact fun entry => rfl
    | cons record rest ih =>
      intro entry
      rw [foldl_cons, ih, keyed.entryKey_fold]
  rw [carried, keyed.entryKey_blank]

theorem tally_concat (record : ρ) (key : κ) :
    keyed.tally (records ++ [record]) key =
      if keyed.recordKey record = key then
        keyed.fold (keyed.tally records key) record
      else
        keyed.tally records key := by
  unfold tally recordsOf
  by_cases same : keyed.recordKey record = key <;>
    simp [filter_append, same]

/-- One more record folds into the entry of its key and leaves the others. -/
theorem add_of_map {keys : List κ} (entryKey_entryOf : ∀ key, keyed.entryKey (entryOf key) = key)
    (distinct : keys.Nodup) (record : ρ) (absent : keyed.recordKey record ∉ keys →
      entryOf (keyed.recordKey record) = keyed.blank (keyed.recordKey record)) :
    keyed.add (keys.map entryOf) record = ((if keyed.recordKey record ∈ keys then keys
        else keys ++ [keyed.recordKey record]).map fun key =>
          if keyed.recordKey record = key then
            keyed.fold (entryOf key) record
          else
            entryOf key) := by
  induction keys with
  | nil => simp [add, absent]
  | cons key keys ih =>
    obtain ⟨fresh, distinctRest⟩ := nodup_cons.mp distinct
    by_cases same : keyed.recordKey record = key
    · subst same
      have others : ∀ other ∈ keys, (if keyed.recordKey record = other then
            keyed.fold (entryOf other) record else entryOf other) =
            entryOf other := by
        intro other member
        apply if_neg
        intro equal
        exact fresh (equal ▸ member)
      simp only [map_cons, add, entryKey_entryOf, if_true, mem_cons, true_or]
      rw [map_congr_left others]
    · have different : ¬ key = keyed.recordKey record := fun equal => same equal.symm
      have rest := ih distinctRest fun missing =>
        absent (by simp [same, missing])
      simp only [map_cons, add, entryKey_entryOf, if_neg different, rest, mem_cons, same, false_or]
      split <;> simp [same]

/-- The entries are the tallies of the keys that occur, each once. -/
theorem collect_eq_map_tally : ∃ keys : List κ, keys.Nodup ∧
        (∀ key, key ∈ keys ↔ key ∈ records.map keyed.recordKey) ∧
        keyed.collect records = keys.map (keyed.tally records) := by
  induction records using reverseRecOn with
  | nil => exact ⟨[], by simp, by simp, rfl⟩
  | append_singleton records record ih =>
    obtain ⟨keys, distinct, occur, collected⟩ := ih
    have step := keyed.add_of_map
      (keyed.entryKey_tally records) distinct record (by
        intro missing
        rw [occur, ← keyed.recordsOf_eq_nil_iff] at missing
        rw [tally, missing]
        rfl)
    have collectedStep : keyed.collect (records ++ [record]) =
        keyed.add (keys.map (keyed.tally records)) record := by
      rw [← collected]
      simp [collect]
    refine ⟨if keyed.recordKey record ∈ keys then keys
      else keys ++ [keyed.recordKey record], ?_, ?_, ?_⟩
    · split
      · exact distinct
      case isFalse missing =>
        exact nodup_append.mpr ⟨distinct, by simp, by
          intro key member other same
          rw [mem_singleton.mp same]
          exact fun equal => missing (equal ▸ member)⟩
    · intro key
      rw [map_append, mem_append, ← occur]
      split
      case isTrue present =>
        simp only [map_cons, map_nil, mem_singleton]
        exact ⟨Or.inl, fun either => either.elim id fun equal =>
          equal ▸ present⟩
      case isFalse missing => simp
    · rw [collectedStep, step]
      exact map_congr_left fun key _ =>
        (keyed.tally_concat records record key).symm

/-- An entry comes from a key that occurs and is the tally of that key. -/
theorem mem_collect_iff (entry : ν) : entry ∈ keyed.collect records ↔
      ∃ key ∈ records.map keyed.recordKey, keyed.tally records key = entry := by
  obtain ⟨keys, _, occur, collected⟩ := keyed.collect_eq_map_tally records
  simp only [collected, mem_map, occur]

/-- Counting entries counts the keys of any duplicate-free list that covers the
records. -/
theorem countP_collect (roster : List κ) (distinct : roster.Nodup)
    (covers : ∀ record ∈ records, keyed.recordKey record ∈ roster) (property : ν → Bool) :
    (keyed.collect records).countP property = roster.countP fun key =>
        !(keyed.recordsOf records key).isEmpty && property (keyed.tally records key) := by
  obtain ⟨keys, keysDistinct, occur, collected⟩ := keyed.collect_eq_map_tally records
  have sameKeys : List.Perm keys
      (roster.filter fun key => !(keyed.recordsOf records key).isEmpty) := by
    rw [perm_ext_iff_of_nodup keysDistinct (distinct.filter _)]
    intro key
    rw [occur, mem_filter, Bool.not_eq_true', ← Bool.not_eq_true,
      List.isEmpty_iff, keyed.recordsOf_eq_nil_iff, not_not]
    refine ⟨fun member => ⟨?_, member⟩, And.right⟩
    obtain ⟨record, recordMember, rfl⟩ := mem_map.mp member
    exact covers record recordMember
  rw [collected, countP_map, sameKeys.countP_eq, countP_filter]
  exact countP_congr fun key _ => by simp [and_comm]

section

variable {keyed} {records others : List ρ}
  (commutes : ∀ entry first second,
    keyed.fold (keyed.fold entry first) second = keyed.fold (keyed.fold entry second) first)
  (absorbs : ∀ entry record, keyed.fold (keyed.fold entry record) record = keyed.fold entry record)

include commutes absorbs

omit [DecidableEq κ] in
theorem foldl_absorbs (covered : ∀ record ∈ others, record ∈ records) (entry : ν) :
    records.foldl keyed.fold (others.foldl keyed.fold entry) = records.foldl keyed.fold entry := by
  have once : ∀ record ∈ records, ∀ entry,
      records.foldl keyed.fold (keyed.fold entry record) = records.foldl keyed.fold entry := by
    clear covered
    induction records with
    | nil => nofun
    | cons head records ih =>
      intro record listed entry
      rw [foldl_cons, foldl_cons]
      rcases mem_cons.mp listed with rfl | later
      · rw [absorbs]
      · rw [commutes, ih record later]
  induction others generalizing entry with
  | nil => rfl
  | cons record others ih =>
    obtain ⟨here, rest⟩ := forall_mem_cons.mp covered
    rw [foldl_cons, ih rest, once record here]

/-- When neither order nor repetition matters to the fold, the entries depend
on the set of records only. -/
theorem collect_perm (same : ∀ record, record ∈ records ↔ record ∈ others) :
    (keyed.collect records).Perm (keyed.collect others) := by
  have tallies : keyed.tally records = keyed.tally others := by
    funext key
    have sameHere : ∀ record, record ∈ keyed.recordsOf records key ↔
        record ∈ keyed.recordsOf others key := by
      intro record
      rw [recordsOf, recordsOf, mem_filter, mem_filter, same]
    have swap : Perm (keyed.recordsOf others key ++ keyed.recordsOf records key)
        (keyed.recordsOf records key ++ keyed.recordsOf others key) := perm_append_comm
    have swapped := swap.foldl_eq' (fun first _ second _ entry => commutes entry first second)
      (keyed.blank key)
    rw [foldl_append, foldl_append,
      foldl_absorbs commutes absorbs fun record => (sameHere record).mpr,
      foldl_absorbs commutes absorbs fun record => (sameHere record).mp] at swapped
    exact swapped
  obtain ⟨keys, distinct, occur, collected⟩ := keyed.collect_eq_map_tally records
  obtain ⟨otherKeys, otherDistinct, otherOccur, otherCollected⟩ := keyed.collect_eq_map_tally others
  rw [collected, otherCollected, tallies]
  refine Perm.map _ ((perm_ext_iff_of_nodup distinct otherDistinct).mpr fun key => ?_)
  simp only [occur, otherOccur, mem_map, same]

end

end KeyedFold
end Zrotext.Foundation
