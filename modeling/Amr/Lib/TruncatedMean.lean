/-
# A running mean in whole numbers

`advance k mean x` is the `k`-th mean of a row of numbers from the one before and the number `x`: the
old mean less its share, plus the share of `x`, both shares truncated. The rounding errors add up, but
the mean does not leave the range of the numbers: `advance` is monotone in both arguments and a number
is its own mean with itself.
-/
import Mathlib

namespace TruncatedMean

def advance (k mean x : ℕ) : ℕ := mean - mean / k + x / k

/-- A number is its own mean. -/
theorem advance_self (k x : ℕ) : advance k x x = x := by
  unfold advance
  have := Nat.div_le_self x k
  omega

/-- The first number is the first mean. -/
theorem advance_one (x : ℕ) : advance 1 0 x = x := by simp [advance]

/-- What stays of a mean without its share. -/
theorem sub_share_mono (k : ℕ) : Monotone fun mean => mean - mean / k := by
  refine monotone_nat_of_le_succ fun mean => ?_
  have hstep : (mean + 1) / k ≤ mean / k + 1 := by
    rw [Nat.succ_div]
    split_ifs <;> omega
  have := Nat.div_le_self mean k
  omega

theorem advance_mono (k : ℕ) {mean mean' x x' : ℕ} (hmean : mean ≤ mean') (hx : x ≤ x') :
    advance k mean x ≤ advance k mean' x' :=
  Nat.add_le_add (sub_share_mono k hmean) (Nat.div_le_div_right hx)

/-- A mean stays above what the old one and the number are above of. -/
theorem le_advance (k : ℕ) {lo mean x : ℕ} (hmean : lo ≤ mean) (hx : lo ≤ x) :
    lo ≤ advance k mean x := by
  rw [← advance_self k lo]
  exact advance_mono k hmean hx

/-- A mean stays below what the old one and the number are below of. -/
theorem advance_le (k : ℕ) {hi mean x : ℕ} (hmean : mean ≤ hi) (hx : x ≤ hi) :
    advance k mean x ≤ hi := by
  rw [← advance_self k hi]
  exact advance_mono k hmean hx

/-- `mean` lies between two of the numbers of a row; the mean of no number is 0. -/
structure Within (mean : ℕ) (xs : List ℕ) : Prop where
  above : xs ≠ [] → ∃ lo ∈ xs, lo ≤ mean
  below : xs ≠ [] → ∃ hi ∈ xs, mean ≤ hi
  none : xs = [] → mean = 0

theorem Within.start : Within 0 [] := ⟨fun h => absurd rfl h, fun h => absurd rfl h, fun _ => rfl⟩

/-- **The mean of a row stays within it.** The `k`-th number is taken in with the count `k`. -/
theorem Within.advance {mean : ℕ} {xs : List ℕ} (h : Within mean xs) (x : ℕ) :
    Within (advance (xs.length + 1) mean x) (x :: xs) := by
  by_cases hxs : xs = []
  · have hmean : mean = 0 := h.none hxs
    rw [hxs, hmean, List.length_nil, zero_add, advance_one]
    exact ⟨fun _ => ⟨x, List.mem_cons_self, le_rfl⟩, fun _ => ⟨x, List.mem_cons_self, le_rfl⟩,
      fun hnil => absurd hnil (List.cons_ne_nil _ _)⟩
  obtain ⟨lo, hlo, hle⟩ := h.above hxs
  obtain ⟨hi, hhi, hge⟩ := h.below hxs
  refine ⟨fun _ => ?_, fun _ => ?_, fun hnil => absurd hnil (List.cons_ne_nil _ _)⟩
  · rcases Nat.le_total lo x with hlx | hxl
    · exact ⟨lo, List.mem_cons_of_mem _ hlo, le_advance _ hle hlx⟩
    · exact ⟨x, List.mem_cons_self, le_advance _ (hxl.trans hle) le_rfl⟩
  · rcases Nat.le_total x hi with hxh | hhx
    · exact ⟨hi, List.mem_cons_of_mem _ hhi, advance_le _ hge hxh⟩
    · exact ⟨x, List.mem_cons_self, advance_le _ (hge.trans hhx) le_rfl⟩

/-- A mean is no more than a bound of the numbers. -/
theorem Within.lt {mean bound : ℕ} {xs : List ℕ} (h : Within mean xs) (hpos : 0 < bound)
    (hxs : ∀ x ∈ xs, x < bound) : mean < bound := by
  by_cases hnil : xs = []
  · rw [h.none hnil]
    exact hpos
  · obtain ⟨hi, hhi, hle⟩ := h.below hnil
    exact hle.trans_lt (hxs hi hhi)

end TruncatedMean
