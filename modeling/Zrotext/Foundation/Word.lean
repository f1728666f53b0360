import Mathlib

/-!
# Unsigned machine words

Fixed-width unsigned integers are modelled by `Fin`, whose own addition is the
wrapping one.  The checked and saturating operations below are the ones a
program uses when it must not wrap.
-/

namespace Zrotext.Foundation

/-- Unsigned 32-bit words. -/
abbrev U32 := Fin (2 ^ 32)

/-- Unsigned 64-bit words. -/
abbrev U64 := Fin (2 ^ 64)

/-- The 128 bits of a UUID. -/
abbrev Identifier := Fin (2 ^ 128)

instance U32.neZero : NeZero (2 ^ 32) := ⟨(Nat.two_pow_pos 32).ne'⟩

instance U64.neZero : NeZero (2 ^ 64) := ⟨(Nat.two_pow_pos 64).ne'⟩

instance Identifier.neZero : NeZero (2 ^ 128) := ⟨(Nat.two_pow_pos 128).ne'⟩

namespace Word

variable {width : Nat}

/-- Addition of two words, refused when the sum does not fit. -/
def checkedAdd (left right : Fin width) : Option (Fin width) :=
  if fits : left.val + right.val < width then
    some ⟨left.val + right.val, fits⟩
  else
    none

theorem checkedAdd_eq_some_iff :
    checkedAdd left right = some sum ↔ sum.val = left.val + right.val := by
  unfold checkedAdd
  split
  case isTrue fits =>
    simp only [Option.some.injEq, Fin.ext_iff]
    exact eq_comm
  case isFalse tooLarge =>
    simp only [reduceCtorEq, false_iff]
    intro equal
    exact tooLarge (equal ▸ sum.isLt)

variable (word : Fin width)

/-- The word one above `word`, or `word` itself at the top of the range. -/
def saturatingSucc : Fin width :=
  if fits : word.val + 1 < width then ⟨word.val + 1, fits⟩ else word

theorem saturatingSucc_val_le : (saturatingSucc word).val ≤ word.val + 1 := by
  unfold saturatingSucc
  split <;> simp

/-- The word one below `word`, or zero. -/
def saturatingPred : Fin width := ⟨word.val - 1, by omega⟩

@[simp] theorem saturatingPred_val : (saturatingPred word).val = word.val - 1 := rfl

/-- Difference of two words, or zero when it would be negative. -/
def saturatingSub (left right : Fin width) : Fin width := ⟨left.val - right.val, by omega⟩

end Word
end Zrotext.Foundation
