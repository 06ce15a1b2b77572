/-
# Numbers with 53 binary digits

The nearest number with 53 significant binary digits, the even one of two that are as near, as IEEE
arithmetic in binary64 computes it of a result in the range of the normal numbers; and the decimal
text of a number with some digits after the point, rounded in the same way. Rounding keeps to a bound
that is a power of two, and gives 0 for 0 only.
-/
import Mathlib.Data.Int.Log
import Mathlib.Data.Rat.Floor
import Mathlib.Tactic.Linarith
import Mathlib.Tactic.Ring
import Mathlib.Tactic.FieldSimp

namespace Binary64

/-! ### To the nearest integer -/

/-- The nearest integer, the even one of two that are as near. -/
def roundEven (q : ℚ) : ℤ :=
  if q - ⌊q⌋ < 1 / 2 then ⌊q⌋
  else if 1 / 2 < q - ⌊q⌋ then ⌊q⌋ + 1
  else if ⌊q⌋ % 2 = 0 then ⌊q⌋
  else ⌊q⌋ + 1

variable (q : ℚ)

theorem floor_le_roundEven : ⌊q⌋ ≤ roundEven q := by
  unfold roundEven
  split_ifs <;> omega

theorem roundEven_le_floor_add_one : roundEven q ≤ ⌊q⌋ + 1 := by
  unfold roundEven
  split_ifs <;> omega

theorem le_roundEven {n : ℤ} {q : ℚ} (h : (n : ℚ) ≤ q) : n ≤ roundEven q :=
  (Int.le_floor.2 h).trans (floor_le_roundEven q)

/-- An integer that bounds a number bounds what it is rounded to. -/
theorem roundEven_le {n : ℤ} {q : ℚ} (h : q ≤ n) : roundEven q ≤ n := by
  rcases lt_or_eq_of_le (Int.floor_le_iff.2 (h.trans_lt (lt_add_one _))) with hlt | heq
  · exact (roundEven_le_floor_add_one q).trans hlt
  · have hfloor := Int.floor_le q
    have hq : q - ⌊q⌋ = 0 := by
      rw [heq] at hfloor ⊢
      linarith
    unfold roundEven
    rw [hq, if_pos (by norm_num)]
    exact heq.le

/-! ### To 53 digits -/

/-- The weight of the last of 53 digits. -/
def ulp (q : ℚ) : ℚ := 2 ^ (Int.log 2 q - 52)

/-- A positive number to 53 digits. -/
def magnitude (q : ℚ) : ℚ := roundEven (q / ulp q) * ulp q

/-- The nearest number with 53 digits. -/
def nearest (q : ℚ) : ℚ :=
  if q = 0 then 0 else if q < 0 then -magnitude (-q) else magnitude q

theorem ulp_pos : 0 < ulp q := zpow_pos (by norm_num) _

theorem zpow_log_eq : (2 : ℚ) ^ Int.log 2 q = 2 ^ 52 * ulp q := by
  unfold ulp
  rw [zpow_sub₀ (by norm_num : (2 : ℚ) ≠ 0)]
  norm_num
  ring

/-- What a positive number is rounded to has its first digit. -/
theorem zpow_log_le_magnitude {q : ℚ} (hq : 0 < q) : (2 : ℚ) ^ Int.log 2 q ≤ magnitude q := by
  have hlog : (2 : ℚ) ^ Int.log 2 q ≤ q := by exact_mod_cast Int.zpow_log_le_self one_lt_two hq
  rw [zpow_log_eq] at hlog
  have hdigits : ((2 ^ 52 : ℤ) : ℚ) ≤ q / ulp q := by
    rw [le_div_iff₀ (ulp_pos q)]
    exact_mod_cast hlog
  have hround : ((2 ^ 52 : ℤ) : ℚ) ≤ roundEven (q / ulp q) := by
    exact_mod_cast le_roundEven hdigits
  calc (2 : ℚ) ^ Int.log 2 q = ((2 ^ 52 : ℤ) : ℚ) * ulp q := by
        rw [zpow_log_eq]
        norm_num
    _ ≤ roundEven (q / ulp q) * ulp q := mul_le_mul_of_nonneg_right hround (ulp_pos q).le

theorem magnitude_pos {q : ℚ} (hq : 0 < q) : 0 < magnitude q :=
  (zpow_pos (by norm_num) _).trans_le (zpow_log_le_magnitude hq)

/-- What a positive number is rounded to is at most the next power of two. -/
theorem magnitude_le_zpow_succ :
    magnitude q ≤ (2 : ℚ) ^ (Int.log 2 q + 1) := by
  have hlog : q < (2 : ℚ) ^ (Int.log 2 q + 1) := by
    exact_mod_cast Int.lt_zpow_succ_log_self one_lt_two q
  have hnext : (2 : ℚ) ^ (Int.log 2 q + 1) = ((2 ^ 53 : ℤ) : ℚ) * ulp q := by
    rw [zpow_add_one₀ (by norm_num : (2 : ℚ) ≠ 0), zpow_log_eq]
    push_cast
    ring
  rw [hnext] at hlog ⊢
  have hdigits : q / ulp q ≤ ((2 ^ 53 : ℤ) : ℚ) := by
    rw [div_le_iff₀ (ulp_pos q)]
    exact hlog.le
  refine mul_le_mul_of_nonneg_right ?_ (ulp_pos q).le
  exact_mod_cast roundEven_le hdigits

/-- A power of two is not rounded. -/
theorem magnitude_zpow (k : ℤ) : magnitude ((2 : ℚ) ^ k) = 2 ^ k := by
  have hlog : Int.log 2 ((2 : ℚ) ^ k) = k := by
    have := Int.log_zpow (R := ℚ) one_lt_two k
    rwa [Nat.cast_ofNat] at this
  have hpow : (2 : ℚ) ^ k = ((2 ^ 52 : ℤ) : ℚ) * ulp ((2 : ℚ) ^ k) := by
    have := zpow_log_eq ((2 : ℚ) ^ k)
    rw [hlog] at this
    exact_mod_cast this
  have hdiv : (2 : ℚ) ^ k / ulp ((2 : ℚ) ^ k) = ((2 ^ 52 : ℤ) : ℚ) :=
    (div_eq_iff (ulp_pos _).ne').2 hpow
  have hround : roundEven ((2 ^ 52 : ℤ) : ℚ) = 2 ^ 52 :=
    le_antisymm (roundEven_le le_rfl) (le_roundEven le_rfl)
  rw [magnitude, hdiv, hround]
  exact hpow.symm

/-- Rounding keeps to a bound that is a power of two. -/
theorem magnitude_le {q : ℚ} (hq : 0 < q) {k : ℤ} (h : q ≤ 2 ^ k) : magnitude q ≤ 2 ^ k := by
  rcases lt_or_eq_of_le h with hlt | rfl
  · have hlog : Int.log 2 q < k := (Int.lt_zpow_iff_log_lt one_lt_two hq).1 (by exact_mod_cast hlt)
    exact (magnitude_le_zpow_succ q).trans (zpow_le_zpow_right₀ one_le_two (by omega))
  · exact (magnitude_zpow k).le

theorem abs_nearest_le {q : ℚ} {k : ℤ} (h : |q| ≤ 2 ^ k) : |nearest q| ≤ 2 ^ k := by
  unfold nearest
  split_ifs with hzero hneg
  · rw [abs_zero]
    exact (zpow_pos (by norm_num) _).le
  · rw [abs_neg, abs_of_pos (magnitude_pos (neg_pos.2 hneg))]
    rw [abs_of_neg hneg] at h
    exact magnitude_le (neg_pos.2 hneg) h
  · have hpos : 0 < q := lt_of_le_of_ne (not_lt.1 hneg) (Ne.symm hzero)
    rw [abs_of_pos (magnitude_pos hpos)]
    rw [abs_of_pos hpos] at h
    exact magnitude_le hpos h

/-- Only 0 is rounded to 0. -/
theorem nearest_eq_zero_iff : nearest q = 0 ↔ q = 0 := by
  unfold nearest
  split_ifs with hzero hneg
  · simp [hzero]
  · have := magnitude_pos (neg_pos.2 hneg)
    constructor
    · intro h
      linarith
    · intro h
      exact absurd h hzero
  · have := magnitude_pos (lt_of_le_of_ne (not_lt.1 hneg) (Ne.symm hzero))
    constructor
    · intro h
      linarith
    · intro h
      exact absurd h hzero

/-! ### In decimal -/

/-- The multiple of `10 ^ -d` that a number is rounded to, without its sign. -/
def scaled (d : ℕ) (q : ℚ) : ℕ := (roundEven (|q| * 10 ^ d)).toNat

/-- `%.<d>f`, with some digits after the point. -/
def fixed (d : ℕ) (q : ℚ) : List Char :=
  (if q < 0 then ['-'] else []) ++ Nat.toDigits 10 (scaled d q / 10 ^ d) ++ ['.'] ++
    (Nat.toDigits 10 (scaled d q % 10 ^ d)).leftpad d '0'

theorem scaled_le {d : ℕ} {q : ℚ} {n : ℕ} (h : |q| ≤ n) : scaled d q ≤ n * 10 ^ d := by
  have hle : |q| * 10 ^ d ≤ ((n * 10 ^ d : ℕ) : ℤ) := by
    push_cast
    exact mul_le_mul_of_nonneg_right h (by positivity)
  have := roundEven_le hle
  unfold scaled
  omega

theorem length_fixed {d : ℕ} (hd : 0 < d) (q : ℚ) :
    (fixed d q).length = (if q < 0 then 1 else 0) +
      (Nat.toDigits 10 (scaled d q / 10 ^ d)).length + 1 + d := by
  have hfraction : ((Nat.toDigits 10 (scaled d q % 10 ^ d)).leftpad d '0').length = d := by
    rw [List.length_leftpad]
    exact max_eq_left ((Nat.length_toDigits_le_iff (by norm_num) hd).2
      (Nat.mod_lt _ (by positivity)))
  unfold fixed
  rw [List.length_append, List.length_append, List.length_append, hfraction, List.length_singleton]
  split_ifs <;> rfl

/-- A text has `m` digits at most before the point if the number has. -/
theorem length_fixed_le_iff {d m : ℕ} (hd : 0 < d) (hm : 0 < m) (q : ℚ) :
    (fixed d q).length ≤ (if q < 0 then 1 else 0) + m + 1 + d ↔ scaled d q < 10 ^ (m + d) := by
  have hdigits : (Nat.toDigits 10 (scaled d q / 10 ^ d)).length ≤ m ↔
      scaled d q < 10 ^ (m + d) := by
    rw [Nat.length_toDigits_le_iff (by norm_num) hm, Nat.div_lt_iff_lt_mul (by positivity),
      ← pow_add]
  rw [length_fixed hd, ← hdigits]
  omega

end Binary64
