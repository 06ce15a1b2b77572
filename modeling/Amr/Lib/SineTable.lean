/-
# The integer parts of sines

Tables of constants are taken from sines of whole numbers, the integer part of `M * |sin n|`. Here
such an entry is computed with integers and proved: the sine and the cosine of 1 from their series,
those of the other numbers by turning through 1 again and again, all as multiples of `1 / K`, with
a bound on what the rounding has added up to.
-/
import Mathlib.Analysis.Complex.Trigonometric
import Mathlib.Analysis.Complex.Exponential
import Mathlib.Tactic.NormNum.NatFactorial

namespace SineTable

open Finset Complex

/-! ### The sine and the cosine of 1 -/

def cosSum (n : ℕ) : ℚ := ∑ j ∈ range n, (-1) ^ j / (2 * j).factorial

def sinSum (n : ℕ) : ℚ := ∑ j ∈ range n, (-1) ^ j / (2 * j + 1).factorial

/-- The series of the exponential at `I`, in its real and its imaginary terms. -/
theorem exp_sum_I (n : ℕ) :
    ∑ m ∈ range (2 * n), I ^ m / (m.factorial : ℂ) = (cosSum n : ℂ) + (sinSum n : ℂ) * I := by
  induction n with
  | zero => simp [cosSum, sinSum]
  | succ n ih =>
    have hpow : I ^ (2 * n) = (-1) ^ n := by rw [pow_mul, I_sq]
    rw [Nat.mul_succ, sum_range_succ, sum_range_succ, ih, cosSum, cosSum, sinSum, sinSum,
      sum_range_succ, sum_range_succ, pow_succ, hpow]
    push_cast
    ring

/-- The partial sums are near the values, both within the bound of the exponential. -/
theorem sums_near {n : ℕ} (hn : 0 < n) :
    |Real.cos 1 - cosSum n| ≤ (2 * n + 1) / ((2 * n).factorial * (2 * n)) ∧
      |Real.sin 1 - sinSum n| ≤ (2 * n + 1) / ((2 * n).factorial * (2 * n)) := by
  have hexp : exp I = (Real.cos 1 : ℂ) + (Real.sin 1 : ℂ) * I := by
    have := exp_mul_I 1
    rw [one_mul] at this
    rw [this]
    push_cast
    rfl
  have hbound := exp_bound (x := I) (le_of_eq norm_I) (n := 2 * n) (by omega)
  have hdiff : (Real.cos 1 : ℂ) + (Real.sin 1 : ℂ) * I - ((cosSum n : ℂ) + (sinSum n : ℂ) * I) =
      ((Real.cos 1 - cosSum n : ℝ) : ℂ) + ((Real.sin 1 - sinSum n : ℝ) : ℂ) * I := by
    push_cast
    ring
  have hright : ((2 * n).succ : ℝ) * ((2 * n).factorial * (2 * n : ℕ) : ℝ)⁻¹ =
      (2 * n + 1) / ((2 * n).factorial * (2 * n)) := by
    push_cast
    rw [div_eq_mul_inv]
  rw [exp_sum_I, hexp, hdiff, norm_I, one_pow, one_mul, hright] at hbound
  have hre := (abs_re_le_norm _).trans hbound
  have him := (abs_im_le_norm _).trans hbound
  simp only [add_re, add_im, ofReal_re, ofReal_im, re_ofReal_mul, im_ofReal_mul, I_re, I_im,
    mul_zero, mul_one, add_zero, zero_add] at hre him
  exact ⟨hre, him⟩

/-! ### Turning -/

def K : ℤ := 2 ^ 120

/-- `K * cos 1` without its fraction. -/
def cosOne : ℤ := 718184951147075946983144219864494525

/-- `K * sin 1` without its fraction. -/
def sinOne : ℤ := 1118506790647359666268926078808821564

/-- Multiples of `1 / K` that are near the cosine and the sine of an angle. -/
def Near (p : ℤ × ℤ) (x e : ℝ) : Prop :=
  |(p.1 : ℝ) - K * Real.cos x| ≤ e ∧ |(p.2 : ℝ) - K * Real.sin x| ≤ e

theorem cosOne_near : |(cosOne : ℚ) - K * cosSum 18| ≤ 1 := by
  norm_num [cosSum, sum_range_succ, Nat.factorial, cosOne, K, abs_le]

theorem sinOne_near : |(sinOne : ℚ) - K * sinSum 18| ≤ 1 := by
  norm_num [sinSum, sum_range_succ, Nat.factorial, sinOne, K, abs_le]

/-- A multiple near a partial sum is near what the sum approximates. -/
theorem near_of_sum {c : ℤ} {q : ℚ} {x b : ℝ} (hc : |(c : ℚ) - K * q| ≤ 1) (hx : |x - q| ≤ b)
    (hb : K * b ≤ 1) : |(c : ℝ) - K * x| ≤ 2 := by
  have hc' : |(c : ℝ) - K * q| ≤ 1 := by exact_mod_cast hc
  have hK : (0 : ℝ) ≤ K := by norm_num [K]
  calc |(c : ℝ) - K * x| = |((c : ℝ) - K * q) - K * (x - q)| := by ring_nf
    _ ≤ |(c : ℝ) - K * q| + |K * (x - q)| := abs_sub _ _
    _ = |(c : ℝ) - K * q| + K * |x - q| := by rw [abs_mul, abs_of_nonneg hK]
    _ ≤ 1 + 1 := add_le_add hc' ((mul_le_mul_of_nonneg_left hx hK).trans hb)
    _ = 2 := by norm_num

theorem near_one : Near (cosOne, sinOne) 1 2 := by
  have hsums := sums_near (n := 18) (by decide)
  have hb : (K : ℝ) * ((2 * (18 : ℕ) + 1) / ((2 * 18).factorial * (2 * (18 : ℕ)))) ≤ 1 := by
    norm_num [K, Nat.factorial]
  exact ⟨near_of_sum cosOne_near hsums.1 hb, near_of_sum sinOne_near hsums.2 hb⟩

/-- The angle is turned through 1. -/
def turn (p : ℤ × ℤ) : ℤ × ℤ :=
  ((p.1 * cosOne - p.2 * sinOne) / K, (p.2 * cosOne + p.1 * sinOne) / K)

theorem abs_mul_le_of_le {x y a : ℝ} (hx : |x| ≤ 1) (hy : |y| ≤ a) : |x * y| ≤ a := by
  rw [abs_mul]
  calc |x| * |y| ≤ 1 * |y| := mul_le_mul_of_nonneg_right hx (abs_nonneg y)
    _ = |y| := one_mul _
    _ ≤ a := hy

/-- A quotient of integers without its fraction. -/
theorem abs_ediv_sub_le (q : ℤ) : |((q / K : ℤ) : ℝ) - q / K| ≤ 1 := by
  have hK : (0 : ℝ) < K := by norm_num [K]
  have hle : ((q / K : ℤ) : ℝ) * K ≤ q := by
    exact_mod_cast Int.ediv_mul_le q (by decide : K ≠ 0)
  have hlt : (q : ℝ) < (((q / K : ℤ) : ℝ) + 1) * K := by
    exact_mod_cast Int.lt_ediv_add_one_mul_self q (by decide : 0 < K)
  rw [abs_le]
  refine ⟨?_, ?_⟩
  · have := (div_lt_iff₀ hK).2 hlt
    linarith
  · have := (le_div_iff₀ hK).2 hle
    linarith

/-- A sum of two products, each of a multiple with one that is at most `K`. -/
theorem near_combine {a b u v : ℤ} {α β γ δ e : ℝ} (ha : |(a : ℝ) - K * α| ≤ e)
    (hb : |(b : ℝ) - K * β| ≤ e) (hu : |(u : ℝ) - K * γ| ≤ 2) (hv : |(v : ℝ) - K * δ| ≤ 2)
    (hα : |α| ≤ 1) (hβ : |β| ≤ 1) (huK : |(u : ℝ) / K| ≤ 1) (hvK : |(v : ℝ) / K| ≤ 1) :
    |(((a * u + b * v) / K : ℤ) : ℝ) - K * (α * γ + β * δ)| ≤ 2 * e + 5 := by
  have hK : (K : ℝ) ≠ 0 := by norm_num [K]
  have hsplit : (((a * u + b * v) / K : ℤ) : ℝ) - K * (α * γ + β * δ) =
      ((((a * u + b * v) / K : ℤ) : ℝ) - ((a * u + b * v : ℤ) : ℝ) / K) +
        (u / K * (a - K * α) + α * (u - K * γ)) + (v / K * (b - K * β) + β * (v - K * δ)) := by
    push_cast
    field_simp
    ring
  have h1 := abs_ediv_sub_le (a * u + b * v)
  have h2 := abs_mul_le_of_le huK ha
  have h3 := abs_mul_le_of_le hα hu
  have h4 := abs_mul_le_of_le hvK hb
  have h5 := abs_mul_le_of_le hβ hv
  rw [hsplit]
  rw [abs_le] at *
  refine ⟨?_, ?_⟩ <;> linarith [h1.1, h1.2, h2.1, h2.2, h3.1, h3.2, h4.1, h4.2, h5.1, h5.2]

/-- One turn doubles what the rounding has added up to, and adds a little. -/
theorem Near.turn {p : ℤ × ℤ} {x e : ℝ} (h : Near p x e) : Near (turn p) (x + 1) (2 * e + 5) := by
  have hcK : |(cosOne : ℝ) / K| ≤ 1 := by norm_num [cosOne, K, abs_le]
  have hsK : |(sinOne : ℝ) / K| ≤ 1 := by norm_num [sinOne, K, abs_le]
  have hnegK : |((-sinOne : ℤ) : ℝ) / K| ≤ 1 := by
    push_cast
    rwa [neg_div, abs_neg]
  have hneg : |((-sinOne : ℤ) : ℝ) - K * -Real.sin 1| ≤ 2 := by
    have := near_one.2
    rw [abs_sub_comm] at this
    push_cast
    ring_nf at this ⊢
    exact this
  refine ⟨?_, ?_⟩
  · have hcos := near_combine h.1 h.2 near_one.1 hneg (Real.abs_cos_le_one x)
      (Real.abs_sin_le_one x) hcK hnegK
    rw [mul_neg, mul_neg, ← sub_eq_add_neg, ← sub_eq_add_neg, ← Real.cos_add] at hcos
    exact hcos
  · have hsin := near_combine h.2 h.1 near_one.1 near_one.2 (Real.abs_sin_le_one x)
      (Real.abs_cos_le_one x) hcK hsK
    rw [← Real.sin_add] at hsin
    exact hsin

def angle : ℕ → ℤ × ℤ
  | 0 => (K, 0)
  | n + 1 => turn (angle n)

theorem near_angle (n : ℕ) : Near (angle n) n (5 * (2 ^ n - 1)) := by
  induction n with
  | zero => simp [Near, angle]
  | succ n ih =>
    have h := ih.turn
    have he : 2 * (5 * ((2 : ℝ) ^ n - 1)) + 5 = 5 * (2 ^ (n + 1) - 1) := by ring
    rw [he] at h
    exact_mod_cast h

/-! ### The entries -/

/-- The entry `t` is what the computation says, with the rounding on either side. -/
def Entry (M n t : ℕ) : Prop :=
  t * K ≤ M * (|(angle n).2| - 5 * 2 ^ n) ∧ M * (|(angle n).2| + 5 * 2 ^ n) < (t + 1) * K

instance (M n t : ℕ) : Decidable (Entry M n t) := inferInstanceAs (Decidable (_ ∧ _))

/-- **An entry of the table is the integer part of the sine.** -/
theorem floor_sin {M n t : ℕ} (h : Entry M n t) : ⌊(M : ℝ) * |Real.sin n|⌋₊ = t := by
  have hK : (0 : ℝ) < K := by norm_num [K]
  have hM : (0 : ℝ) ≤ M := Nat.cast_nonneg M
  have hlow : (t : ℝ) * K ≤ M * (|((angle n).2 : ℝ)| - 5 * 2 ^ n) := by exact_mod_cast h.1
  have hhigh : (M : ℝ) * (|((angle n).2 : ℝ)| + 5 * 2 ^ n) < (t + 1) * K := by
    exact_mod_cast h.2
  -- the multiple and the sine differ by no more than the rounding
  have hnear : |(|((angle n).2 : ℝ)| - K * |Real.sin n|)| ≤ 5 * 2 ^ n := by
    have habs : K * |Real.sin n| = |K * Real.sin n| := by rw [abs_mul, abs_of_pos hK]
    rw [habs]
    refine (abs_abs_sub_abs_le_abs_sub _ _).trans ((near_angle n).2.trans ?_)
    linarith
  obtain ⟨hleft, hright⟩ := abs_le.1 hnear
  rw [Nat.floor_eq_iff (mul_nonneg hM (abs_nonneg _))]
  refine ⟨le_of_mul_le_mul_right ?_ hK, lt_of_mul_lt_mul_right ?_ hK.le⟩
  · calc (t : ℝ) * K ≤ M * (|((angle n).2 : ℝ)| - 5 * 2 ^ n) := hlow
      _ ≤ M * (K * |Real.sin n|) := mul_le_mul_of_nonneg_left (by linarith) hM
      _ = M * |Real.sin n| * K := by ring
  · calc (M : ℝ) * |Real.sin n| * K = M * (K * |Real.sin n|) := by ring
      _ ≤ M * (|((angle n).2 : ℝ)| + 5 * 2 ^ n) := mul_le_mul_of_nonneg_left (by linarith) hM
      _ < (t + 1) * K := hhigh

end SineTable
