import Zrotext.Delivery.RequestBytes

/-!
# The entitlement fingerprint

The bytes that are hashed into the fingerprint of the test entitlements are a
canonical form of the configuration: neither list has a length before it, but
no length of an entry can be taken for the mark that ends the list.
-/

namespace Zrotext.Billing

open Foundation Delivery List

structure TestQuotaPlan where
  priceId : Text
  outboundLimit : Int
  deviceLimit : Option Int
deriving DecidableEq

/-- A text after its length. -/
def sized (text : Text) : Bytes := bigEndian 8 (utf8 text).length ++ utf8 text

/-- The bytes of a plan. -/
def TestQuotaPlan.bytes (plan : TestQuotaPlan) : Bytes :=
  sized plan.priceId ++ bigEndian 8 plan.outboundLimit ++ bigEndian 8 (plan.deviceLimit.getD (-1))

/-- Texts are compared byte by byte. -/
def comparesBy (key : α → Text) (left right : α) : Bool :=
  decide (utf8 (key left) ≤ utf8 (key right))

/-- The bytes that `quota_configuration_fingerprint` hashes. -/
def quotaConfigurationBytes (prices : List Text) (plans : List TestQuotaPlan) (readerKey : Text) :
    Bytes :=
  utf8 "stripe-test-entitlements-v1\x00".toList ++
    (prices.mergeSort (comparesBy id)).flatMap sized ++ utf8 "\x00plans\x00".toList ++
    (plans.mergeSort (comparesBy TestQuotaPlan.priceId)).flatMap TestQuotaPlan.bytes ++
    utf8 "\x00reader-key\x00".toList ++ utf8 readerKey

/-- A plan with a short price identifier and limits that are not negative. -/
structure TestQuotaPlan.Valid (plan : TestQuotaPlan) : Prop where
  short : (utf8 plan.priceId).length ≤ 255
  outbound : 0 ≤ plan.outboundLimit ∧ plan.outboundLimit < 2 ^ 63
  devices : ∀ limit ∈ plan.deviceLimit, 0 ≤ limit ∧ limit < 2 ^ 63

/-- A configuration with at most one plan for a price. -/
structure QuotaConfiguration where
  prices : List Text
  plans : List TestQuotaPlan
  readerKey : Text
  pricesShort : ∀ price ∈ prices, (utf8 price).length ≤ 255
  plansValid : ∀ plan ∈ plans, plan.Valid
  distinct : (plans.map TestQuotaPlan.priceId).Nodup

theorem mergeSort_eq_of_perm {key : α → Text} {first second : List α} (perm : first.Perm second)
    (distinct : ∀ left ∈ first, ∀ right ∈ first, key left = key right → left = right) :
    first.mergeSort (comparesBy key) = second.mergeSort (comparesBy key) := by
  have sorted : ∀ values : List α, (values.mergeSort (comparesBy key)).Pairwise
      fun left right => utf8 (key left) ≤ utf8 (key right) := by
    intro values
    refine (pairwise_mergeSort ?_ ?_ values).imp fun before => of_decide_eq_true before
    · intro left middle right below above
      exact decide_eq_true (List.le_trans (of_decide_eq_true below) (of_decide_eq_true above))
    · intro left right
      simp only [Bool.or_eq_true, decide_eq_true_eq]
      exact List.le_total _ _
  refine Perm.eq_of_pairwise ?_ (sorted first) (sorted second)
    ((mergeSort_perm _ _).trans (perm.trans (mergeSort_perm _ _).symm))
  intro left right inFirst inSecond below above
  rw [mem_mergeSort] at inFirst inSecond
  exact distinct left inFirst right (perm.mem_iff.mpr inSecond)
    (utf8_inj (List.le_antisymm below above))

/-- Entries that start with two zero bytes are told from the mark after them. -/
theorem flatMap_append_inj {encode : α → Bytes} {valid : α → Prop} {first second : List α}
    (unambiguous : ∀ left right leftRest rightRest, valid left → valid right →
      encode left ++ leftRest = encode right ++ rightRest → left = right ∧ leftRest = rightRest)
    (starts : ∀ value, valid value → ∃ rest, encode value = 0 :: 0 :: rest) (isMark : mark ≠ 0)
    (firstValid : ∀ value ∈ first, valid value) (secondValid : ∀ value ∈ second, valid value)
    (same : first.flatMap encode ++ 0 :: mark :: firstRest =
      second.flatMap encode ++ 0 :: mark :: secondRest) :
    first = second ∧ firstRest = secondRest := by
  induction first generalizing second with
  | nil =>
    cases second with
    | nil => exact ⟨rfl, by simpa using same⟩
    | cons value second =>
      obtain ⟨rest, isStart⟩ := starts value (secondValid value mem_cons_self)
      simp [isStart, isMark] at same
  | cons value first ih =>
    obtain ⟨here, firstLater⟩ := forall_mem_cons.mp firstValid
    cases second with
    | nil =>
      obtain ⟨rest, isStart⟩ := starts value here
      simp [isStart, isMark.symm] at same
    | cons other second =>
      obtain ⟨there, secondLater⟩ := forall_mem_cons.mp secondValid
      rw [flatMap_cons, flatMap_cons, append_assoc, append_assoc] at same
      obtain ⟨rfl, later⟩ := unambiguous _ _ _ _ here there same
      obtain ⟨rfl, rest⟩ := ih firstLater secondLater later
      exact ⟨rfl, rest⟩

theorem sized_inj {left right : Text} (leftShort : (utf8 left).length ≤ 255)
    (rightShort : (utf8 right).length ≤ 255)
    (same : sized left ++ leftRest = sized right ++ rightRest) :
    left = right ∧ leftRest = rightRest := by
  rw [sized, sized, append_assoc, append_assoc] at same
  obtain ⟨texts, rest⟩ := sized_append_inj (by omega) (by omega) same
  exact ⟨utf8_inj texts, rest⟩

theorem sized_starts {text : Text} (short : (utf8 text).length ≤ 255) :
    ∃ rest, sized text = 0 :: 0 :: rest := by
  have first : ((utf8 text).length : Int) / 72057594037927936 % 256 = 0 := by omega
  have second : ((utf8 text).length : Int) / 281474976710656 % 256 = 0 := by omega
  refine ⟨bigEndian 6 (utf8 text).length ++ utf8 text, ?_⟩
  simp [sized, bigEndian, range_succ, first, second]

theorem TestQuotaPlan.Valid.starts {plan : TestQuotaPlan} (valid : plan.Valid) :
    ∃ rest, plan.bytes = 0 :: 0 :: rest := by
  obtain ⟨rest, isStart⟩ := sized_starts valid.short
  rw [TestQuotaPlan.bytes, isStart]
  exact ⟨_, rfl⟩

theorem TestQuotaPlan.Valid.devices_bounds {plan : TestQuotaPlan} (valid : plan.Valid) :
    -1 ≤ plan.deviceLimit.getD (-1) ∧ plan.deviceLimit.getD (-1) < 2 ^ 63 ∧
      (plan.deviceLimit.getD (-1) = -1 → plan.deviceLimit = none) := by
  have devices := valid.devices
  cases isLimit : plan.deviceLimit with
  | none => exact ⟨by decide, by decide, fun _ => rfl⟩
  | some limit =>
    have bounds := devices limit isLimit
    rw [Option.getD_some]
    exact ⟨by omega, bounds.2, fun absent => by omega⟩

theorem plan_bytes_inj {left right : TestQuotaPlan} (leftValid : left.Valid)
    (rightValid : right.Valid) (same : left.bytes ++ leftRest = right.bytes ++ rightRest) :
    left = right ∧ leftRest = rightRest := by
  simp only [TestQuotaPlan.bytes, append_assoc] at same
  obtain ⟨price, same⟩ := sized_inj leftValid.short rightValid.short same
  have leftOutbound := leftValid.outbound
  have rightOutbound := rightValid.outbound
  obtain ⟨outbound, same⟩ := bigEndian_append_inj (by omega) same
  have leftDevices := leftValid.devices_bounds
  have rightDevices := rightValid.devices_bounds
  obtain ⟨limit, rest⟩ := bigEndian_append_inj (by omega) same
  refine ⟨?_, rest⟩
  have devices : left.deviceLimit = right.deviceLimit := by
    cases isLeft : left.deviceLimit <;> cases isRight : right.deviceLimit <;> simp_all
  obtain ⟨⟩ := left
  obtain ⟨⟩ := right
  rw [TestQuotaPlan.mk.injEq]
  exact ⟨price, outbound, devices⟩

/-- The hashed bytes are a canonical form of the configuration. -/
theorem fingerprint_canonical (first second : QuotaConfiguration) :
    quotaConfigurationBytes first.prices first.plans first.readerKey =
        quotaConfigurationBytes second.prices second.plans second.readerKey ↔
      first.prices.Perm second.prices ∧ (∀ plan, plan ∈ first.plans ↔ plan ∈ second.plans) ∧
        first.readerKey = second.readerKey := by
  unfold quotaConfigurationBytes
  constructor
  · intro same
    have plansMark : utf8 "\x00plans\x00".toList = [0, 112, 108, 97, 110, 115, 0] := by decide
    have readerMark : utf8 "\x00reader-key\x00".toList =
      [0, 114, 101, 97, 100, 101, 114, 45, 107, 101, 121, 0] := by decide
    simp only [append_assoc, append_cancel_left_eq, plansMark, readerMark, cons_append,
      nil_append] at same
    obtain ⟨prices, same⟩ := flatMap_append_inj
      (fun _ _ _ _ => sized_inj) (fun _ => sized_starts) (by decide)
      (fun price listed => first.pricesShort price (mem_mergeSort.mp listed))
      (fun price listed => second.pricesShort price (mem_mergeSort.mp listed)) same
    simp only [cons.injEq, true_and] at same
    obtain ⟨plans, same⟩ := flatMap_append_inj
      (fun _ _ _ _ => plan_bytes_inj) (fun _ => TestQuotaPlan.Valid.starts) (by decide)
      (fun plan listed => first.plansValid plan (mem_mergeSort.mp listed))
      (fun plan listed => second.plansValid plan (mem_mergeSort.mp listed)) same
    simp only [cons.injEq, true_and] at same
    refine ⟨?_, ?_, utf8_inj same⟩
    · have sorted := mergeSort_perm first.prices (comparesBy id)
      rw [prices] at sorted
      exact sorted.symm.trans (mergeSort_perm _ _)
    · intro plan
      rw [← mem_mergeSort, plans, mem_mergeSort]
  · rintro ⟨prices, plans, readerKey⟩
    have samePlans : first.plans.Perm second.plans :=
      (perm_ext_iff_of_nodup first.distinct.of_map second.distinct.of_map).mpr plans
    have sortedPrices : first.prices.mergeSort (comparesBy id) =
        second.prices.mergeSort (comparesBy id) :=
      mergeSort_eq_of_perm prices fun _ _ _ _ => id
    rw [sortedPrices, mergeSort_eq_of_perm samePlans fun _ left _ right =>
      inj_on_of_nodup_map first.distinct left right, readerKey]

/-- A configuration of two prices, with and without a limit of devices. -/
def sampleConfiguration (readerKey : String) : QuotaConfiguration where
  prices := ["price_b".toList, "price_a".toList]
  plans := [⟨"price_b".toList, 50, none⟩, ⟨"price_a".toList, 100, some 2⟩]
  readerKey := readerKey.toList
  pricesShort := by decide
  plansValid := by
    simp only [forall_mem_cons]
    exact ⟨⟨by decide, by decide, by decide⟩, ⟨by decide, by decide, by decide⟩, by simp⟩
  distinct := by decide

/-- The same configuration with its lists the other way round. -/
def QuotaConfiguration.reversed (configuration : QuotaConfiguration) : QuotaConfiguration where
  prices := configuration.prices.reverse
  plans := configuration.plans.reverse
  readerKey := configuration.readerKey
  pricesShort := by simpa using configuration.pricesShort
  plansValid := by simpa using configuration.plansValid
  distinct := by simpa using configuration.distinct

/-- The order of the lists leaves no trace in the bytes, and the key does. -/
theorem fingerprint_canonical_sample :
    let configuration := sampleConfiguration "reader"
    let bytes := fun configuration : QuotaConfiguration =>
      quotaConfigurationBytes configuration.prices configuration.plans configuration.readerKey
    configuration.reversed.prices ≠ configuration.prices ∧
      bytes configuration.reversed = bytes configuration ∧
      bytes (sampleConfiguration "other") ≠ bytes configuration := by
  refine ⟨by decide,
    (fingerprint_canonical _ _).mpr ⟨reverse_perm _, fun _ => mem_reverse, rfl⟩, ?_⟩
  intro same
  exact absurd ((fingerprint_canonical _ _).mp same).2.2 (by decide)

end Zrotext.Billing
