/-
# Decimal shifts in machine arithmetic

A reading comes with a power of ten. Whoever wants it in a unit of its own moves the decimal point,
by multiplying with powers of ten in a signed machine word or by dividing. `shift` is what is
meant, for every exponent; `mulWord` is what the machine does, in a word of `w` bits.
-/
import Mathlib.Data.Rat.Floor
import Mathlib.Tactic.NormNum
import Mathlib.Tactic.Ring

namespace DecimalShift

/-- The number `v * 10 ^ k` without what stands behind the decimal point, for a `v` that is not
negative. -/
def shift (v : ℤ) (k : ℤ) : ℤ := ⌊(v : ℚ) * (10 : ℚ) ^ k⌋

/-- A product in a signed word of `w` bits: what does not fit is cut off. -/
def mulWord (w : ℕ) (a b : ℤ) : ℤ := Int.bmod (a * b) (2 ^ w)

end DecimalShift
