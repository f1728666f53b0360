import Zrotext.Foundation.Text

/-!
# Segment estimates

Both estimators divide the length of a text by the size of a part and round up.
No character is divided between parts, so one part more may be needed.
-/

namespace Zrotext.Template

open Foundation List

/-- The characters of one septet. -/
def gsmDefault : Text :=
  ("@£$¥èéùìòÇ\nØø\rÅåΔ_ΦΓΛΩΠΨΣΘΞÆæßÉ !\"#¤%&'()*+,-./0123456789:;<=>?¡" ++
    "ABCDEFGHIJKLMNOPQRSTUVWXYZÄÖÑÜ§¿abcdefghijklmnopqrstuvwxyzäöñüà").toList

/-- The characters that cost an escape more. -/
def gsmExtension : Text := "\x0c^\x7b\x7d\\[~]|€".toList

inductive Encoding
  | gsm | ucs2
deriving DecidableEq

structure SegmentEstimate where
  encoding : Encoding
  (parts perPart length : Nat)
  empty : Bool
deriving DecidableEq

/-- The estimate of a length: a lone part may have another size than one of
several. -/
def estimate (encoding : Encoding) (length : Nat) (empty : Bool) : Option SegmentEstimate :=
  let (single, multiple) := if encoding = .gsm then (160, 153) else (70, 67)
  let (parts, perPart) :=
    if length ≤ single then (1, single) else ((length + multiple - 1) / multiple, multiple)
  if 6 < parts then none else some { encoding, parts, perPart, length, empty }

/-- A control character that no alphabet carries. -/
def isControl (code : Nat) : Bool :=
  decide (code < 0x20) && code != 0x0a && code != 0x0d && code != 0x0c

namespace Rust

/-- What a character costs. -/
def width (encoding : Encoding) (char : Char) : Nat :=
  if encoding = .gsm then if gsmExtension.contains char then 2 else 1
  else if char.toNat < 0x10000 then 1 else 2

def estimateSegments (text : Text) : Option SegmentEstimate :=
  if text.any fun char => isControl char.toNat then none
  else
    let encoding := if text.all fun char => gsmExtension.contains char || gsmDefault.contains char
      then .gsm else .ucs2
    estimate encoding (text.map (width encoding)).sum text.isEmpty

theorem width_le (encoding : Encoding) (char : Char) : width encoding char ≤ 2 := by
  unfold width
  split <;> split <;> decide

end Rust

namespace TypeScript

/-- The characters of a string, each with its code units. -/
def characters : List Nat → List (List Nat)
  | [] => []
  | [unit] => [[unit]]
  | high :: low :: rest =>
    if (0xd800 ≤ high ∧ high ≤ 0xdbff) ∧ 0xdc00 ≤ low ∧ low ≤ 0xdfff then
      [high, low] :: characters rest
    else [high] :: characters (low :: rest)

/-- A character is in an alphabet. -/
def among (alphabet : Text) (char : List Nat) : Bool :=
  alphabet.any fun known => char == [known.toNat]

/-- What a character costs. -/
def width (encoding : Encoding) (char : List Nat) : Nat :=
  if encoding = .gsm then if among gsmExtension char then 2 else 1 else char.length

/-- A lone surrogate or a control character. -/
def isInvalid : List Nat → Bool
  | [unit] => decide (0xd800 ≤ unit ∧ unit ≤ 0xdfff) || isControl unit
  | _ => false

def estimateSegments (text : List Nat) : Option SegmentEstimate :=
  if (characters text).any isInvalid then none
  else if (characters text).all fun char => among gsmDefault char || among gsmExtension char then
    estimate .gsm ((characters text).map (width .gsm)).sum text.isEmpty
  else estimate .ucs2 text.length text.isEmpty

theorem width_le (encoding : Encoding) {char : List Nat} (narrow : char.length ≤ 2) :
    width encoding char ≤ 2 := by
  unfold width
  split
  · split <;> decide
  · exact narrow

theorem characters_spec (text : List Nat) : (characters text).flatten = text ∧
    ∀ char ∈ characters text, char.length ≤ 2 := by
  fun_induction characters text with
  | case1 => exact ⟨rfl, nofun⟩
  | case2 unit => exact ⟨rfl, by simp⟩
  | case3 high low rest _ ih | case4 high low rest _ ih =>
    rw [flatten_cons, ih.1]
    exact ⟨rfl, forall_mem_cons.mpr ⟨by simp, ih.2⟩⟩

end TypeScript

/-- The items can be cut into pieces that stay within a budget. -/
def Fits (width : α → Nat) (items : List α) (count budget : Nat) : Prop :=
  ∃ pieces : List (List α), pieces.length = count ∧ pieces.flatten = items ∧
    ∀ piece ∈ pieces, (piece.map width).sum ≤ budget

variable {width : α → Nat}

/-- A first piece that nothing more fits into, or all there is. -/
theorem exists_piece (narrow : ∀ item ∈ items, width item ≤ slack + 1) (budget : Nat) :
    ∃ piece rest, piece ++ rest = items ∧ (piece.map width).sum ≤ budget ∧
      (rest = [] ∨ budget ≤ (piece.map width).sum + slack) := by
  induction items generalizing budget with
  | nil => exact ⟨[], [], rfl, Nat.zero_le _, .inl rfl⟩
  | cons item items ih =>
    obtain ⟨here, later⟩ := forall_mem_cons.mp narrow
    by_cases fits : width item ≤ budget
    · obtain ⟨piece, rest, rfl, within, full⟩ := ih later (budget - width item)
      refine ⟨item :: piece, rest, rfl, ?_, full.imp_right ?_⟩ <;> rw [map_cons, sum_cons] <;> omega
    · exact ⟨[], item :: items, rfl, Nat.zero_le _, .inr (by rw [map_nil, sum_nil]; omega)⟩

/-- Pieces that each waste little are few. -/
theorem fits_of_sum_le {others : Nat} (narrow : ∀ item ∈ items, width item ≤ slack + 1)
    (wide : slack ≤ budget)
    (enough : (items.map width).sum + others * slack ≤ (others + 1) * budget) :
    Fits width items (others + 1) budget := by
  induction others generalizing items with
  | zero =>
    refine ⟨[items], rfl, by simp, ?_⟩
    simp only [forall_mem_singleton]
    omega
  | succ others ih =>
    obtain ⟨piece, rest, rfl, within, full⟩ := exists_piece narrow budget
    rw [map_append, sum_append, Nat.succ_mul, Nat.succ_mul] at enough
    have left : (rest.map width).sum + others * slack ≤ (others + 1) * budget := by
      rcases full with rfl | full
      · have := Nat.mul_le_mul_left others wide
        rw [map_nil, sum_nil, Nat.succ_mul]
        omega
      · omega
    obtain ⟨pieces, isCount, rfl, budgets⟩ :=
      ih (fun item listed => narrow item (mem_append_right piece listed)) left
    exact ⟨piece :: pieces, by rw [length_cons, isCount], rfl,
      forall_mem_cons.mpr ⟨within, budgets⟩⟩

/-- The items fit in one part more than estimated, and in the estimated parts
if there is one, if these leave a unit for each other part or if no item is
wide. -/
def Achievable (width : α → Nat) (items : List α) (estimate : SegmentEstimate) : Prop :=
  Fits width items (estimate.parts + 1) estimate.perPart ∧
    (estimate.parts = 1 ∨
      estimate.length + (estimate.parts - 1) ≤ estimate.parts * estimate.perPart ∨
      (∀ item ∈ items, width item = 1) → Fits width items estimate.parts estimate.perPart)

/-- What is true of each estimate of items of at most two units. -/
theorem achievable_of_estimate {empty : Bool} {width : Encoding → α → Nat}
    (narrow : ∀ item ∈ items, width encoding item ≤ 2)
    (estimated : estimate encoding (items.map (width encoding)).sum empty = some result) :
    Achievable (width result.encoding) items result := by
  have bounds : result.encoding = encoding ∧ result.length = (items.map (width encoding)).sum ∧
      result.length ≤ result.parts * result.perPart ∧ 1 ≤ result.parts ∧ result.parts ≤ 6 ∧
      67 ≤ result.perPart := by
    unfold estimate at estimated
    cases encoding <;> simp only [reduceCtorEq, if_true, if_false] at estimated <;>
      split at estimated <;> split at estimated <;> cases estimated <;>
      refine ⟨rfl, rfl, ?_⟩ <;> simp only at * <;> omega
  obtain ⟨rfl, isLength, enough, positive, few, wide⟩ := bounds
  obtain ⟨others, isParts⟩ := Nat.exists_eq_add_of_le' positive
  rw [isLength, isParts] at enough
  rw [Achievable, isLength, isParts, Nat.add_sub_cancel]
  refine ⟨fits_of_sum_le narrow (by omega) ?_, ?_⟩
  · rw [Nat.succ_mul (others + 1)]
    omega
  · rintro (single | spare | plain)
    · obtain rfl : others = 0 := by omega
      exact fits_of_sum_le narrow (by omega) (by omega)
    · exact fits_of_sum_le narrow (by omega) (by omega)
    · exact fits_of_sum_le (fun item listed => Nat.le_of_eq (plain item listed)) (Nat.zero_le _)
        (by omega)

/-- Accepted texts fit in one part more than either estimator says, and mostly
in the parts it says. -/
theorem segment_estimates_achievable :
    (∀ text result, Rust.estimateSegments text = some result →
      Achievable (Rust.width result.encoding) text result) ∧
    ∀ text result, TypeScript.estimateSegments text = some result →
      (TypeScript.characters text).flatten = text ∧
        Achievable (TypeScript.width result.encoding) (TypeScript.characters text) result := by
  refine ⟨?_, ?_⟩
  · intro text result estimated
    unfold Rust.estimateSegments at estimated
    split at estimated
    · cases estimated
    · exact achievable_of_estimate (fun char _ => Rust.width_le _ char) estimated
  · intro text result estimated
    obtain ⟨joined, narrow⟩ := TypeScript.characters_spec text
    have costs {encoding} : ∀ char ∈ TypeScript.characters text,
        TypeScript.width encoding char ≤ 2 :=
      fun char listed => TypeScript.width_le encoding (narrow char listed)
    refine ⟨joined, ?_⟩
    unfold TypeScript.estimateSegments at estimated
    split at estimated
    · cases estimated
    · split at estimated
      · exact achievable_of_estimate costs estimated
      · have isLength : text.length =
            ((TypeScript.characters text).map (TypeScript.width .ucs2)).sum := by
          conv_lhs => rw [← joined, length_flatten]
          rfl
        rw [isLength] at estimated
        exact achievable_of_estimate costs estimated

/-- Two parts are estimated for 153 characters of two septets, but hold 152. -/
theorem segment_estimate_exceeded : ∃ result,
    Rust.estimateSegments (replicate 153 '€') = some result ∧
    ¬ Fits (Rust.width result.encoding) (replicate 153 '€') result.parts result.perPart := by
  refine ⟨⟨.gsm, 2, 153, 306, false⟩, by decide +kernel, ?_⟩
  rintro ⟨pieces, isTwo, joined, within⟩
  obtain ⟨first, second, rfl⟩ := length_eq_two.mp isTwo
  have cost : ∀ count, ((replicate count '€').map (Rust.width .gsm)).sum = count * 2 := by
    intro count
    rw [map_replicate, sum_replicate_nat]
    rfl
  simp only [flatten_cons, flatten_nil, append_nil, append_eq_replicate_iff] at joined
  obtain ⟨total, isFirst, isSecond⟩ := joined
  simp only [forall_mem_cons] at within
  rw [isFirst, isSecond, cost, cost] at within
  omega

end Zrotext.Template
