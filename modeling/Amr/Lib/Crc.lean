/-
# Cyclic redundancy checks, bit by bit

A register of `w` bits is stepped by a shift, to the right or to the left, and the polynomial is
added where a one is shifted out. A step is linear in exclusive or, so that `n` steps of a register
are those of its low `n` bits, and the rest of it shifted: this is what a table over the low bits
computes. Feeding up to `w` bits to the register that shifts left is adding them at its top and
stepping as often. If the polynomial has a constant term a step loses nothing; hence two strings
that differ only within `w` consecutive bits are always told apart.
-/
import Mathlib

namespace Crc

variable {w : ℕ} {p x y : BitVec w} {bs cs : List Bool} {b c : Bool} {i n : ℕ}

/-! ### Steps -/

/-- A step of a register that shifts right. -/
def stepRight (p x : BitVec w) : BitVec w := (x >>> 1) ^^^ (if x.getLsbD 0 then p else 0)

/-- A step of a register that shifts left. -/
def stepLeft (p x : BitVec w) : BitVec w := (x <<< 1) ^^^ (if x.msb then p else 0)

/-- A sum of two registers that take a word or not. -/
theorem ite_xor (p : BitVec w) (b c : Bool) :
    (if (b ^^ c) then p else 0) = (if b then p else 0) ^^^ (if c then p else 0) := by
  cases b <;> cases c <;> simp

theorem xor_xor_xor_comm (x y u v : BitVec w) : (x ^^^ y) ^^^ (u ^^^ v) = (x ^^^ u) ^^^ (y ^^^ v) := by
  rw [BitVec.xor_assoc, ← BitVec.xor_assoc y, BitVec.xor_comm y, BitVec.xor_assoc,
    ← BitVec.xor_assoc]

theorem stepRight_xor (p x y : BitVec w) :
    stepRight p (x ^^^ y) = stepRight p x ^^^ stepRight p y := by
  rw [stepRight, BitVec.getLsbD_xor, ite_xor, BitVec.ushiftRight_xor_distrib, xor_xor_xor_comm]
  rfl

theorem stepLeft_xor (p x y : BitVec w) :
    stepLeft p (x ^^^ y) = stepLeft p x ^^^ stepLeft p y := by
  rw [stepLeft, BitVec.msb_xor, ite_xor, BitVec.shiftLeft_xor_distrib, xor_xor_xor_comm]
  rfl

theorem stepRight_iterate_xor (p x y : BitVec w) (n : ℕ) :
    (stepRight p)^[n] (x ^^^ y) = (stepRight p)^[n] x ^^^ (stepRight p)^[n] y := by
  induction n generalizing x y with
  | zero => rfl
  | succ n ih => rw [Function.iterate_succ_apply, stepRight_xor, ih]; rfl

/-- While zeros are shifted out, a step is a shift. -/
theorem stepRight_iterate_of_low (h : ∀ i < n, x.getLsbD i = false) :
    (stepRight p)^[n] x = x >>> n := by
  induction n generalizing x with
  | zero => simp
  | succ n ih =>
    have hstep : stepRight p x = x >>> 1 := by
      rw [stepRight, h 0 (Nat.succ_pos n), if_neg Bool.false_ne_true]
      exact BitVec.xor_zero
    rw [Function.iterate_succ_apply, hstep, ih fun i hi => by
        rw [BitVec.getLsbD_ushiftRight]
        exact h (1 + i) (by omega),
      ← BitVec.shiftRight_add, Nat.add_comm]

/-- **What a table needs to hold**: `n` steps are those of the low `n` bits, and a shift of the
rest. -/
theorem stepRight_iterate_eq (p x : BitVec w) (n : ℕ) :
    (stepRight p)^[n] x = (stepRight p)^[n] (x &&& BitVec.ofNat w (2 ^ n - 1)) ^^^ (x >>> n) := by
  have hbit : ∀ i, (BitVec.ofNat w (2 ^ n - 1)).getLsbD i = (decide (i < w) && decide (i < n)) := by
    intro i
    rw [BitVec.getLsbD_ofNat, Nat.testBit_two_pow_sub_one]
  have hsplit : x = (x &&& BitVec.ofNat w (2 ^ n - 1)) ^^^ (x &&& ~~~BitVec.ofNat w (2 ^ n - 1)) := by
    refine BitVec.eq_of_getLsbD_eq fun i hi => ?_
    rw [BitVec.getLsbD_xor, BitVec.getLsbD_and, BitVec.getLsbD_and, BitVec.getLsbD_not]
    cases x.getLsbD i <;> cases (BitVec.ofNat w (2 ^ n - 1)).getLsbD i <;> simp [hi]
  have hlow : ∀ i < n, (x &&& ~~~BitVec.ofNat w (2 ^ n - 1)).getLsbD i = false := by
    intro i hi
    rw [BitVec.getLsbD_and, BitVec.getLsbD_not, hbit, decide_eq_true hi]
    cases decide (i < w) <;> simp
  have hrest : (x &&& ~~~BitVec.ofNat w (2 ^ n - 1)) >>> n = x >>> n := by
    refine BitVec.eq_of_getLsbD_eq fun i hi => ?_
    rw [BitVec.getLsbD_ushiftRight, BitVec.getLsbD_ushiftRight, BitVec.getLsbD_and,
      BitVec.getLsbD_not, hbit, decide_eq_false (by omega : ¬ n + i < n)]
    by_cases hw : n + i < w
    · simp [hw]
    · rw [BitVec.getLsbD_of_ge x (n + i) (by omega), Bool.false_and]
  conv_lhs => rw [hsplit]
  rw [stepRight_iterate_xor, stepRight_iterate_of_low hlow, hrest]

/-- A step to the left loses nothing. -/
theorem eq_zero_of_stepLeft (hp : p.getLsbD 0 = true) (h : stepLeft p x = 0) : x = 0 := by
  have hmsb : x.msb = false := by
    have hlow := congrArg (fun v => BitVec.getLsbD v 0) h
    rw [stepLeft] at hlow
    cases hx : x.msb with
    | false => rfl
    | true => simp [hx, hp] at hlow
  rw [stepLeft, hmsb, if_neg Bool.false_ne_true] at h
  have hshift : x <<< 1 = 0 := by simpa using h
  refine BitVec.eq_of_getLsbD_eq fun i hi => ?_
  by_cases hi' : i + 1 < w
  · have hbit := congrArg (fun v => BitVec.getLsbD v (i + 1)) hshift
    rw [BitVec.getLsbD_eq_getElem hi]
    simpa [BitVec.getLsbD_shiftLeft, hi'] using hbit
  · have hlast : i = w - 1 := by omega
    rw [BitVec.msb_eq_getLsbD_last] at hmsb
    rw [hlast, hmsb]
    simp

theorem eq_zero_of_stepLeft_iterate (hp : p.getLsbD 0 = true) (h : (stepLeft p)^[n] x = 0) :
    x = 0 := by
  induction n generalizing x with
  | zero => exact h
  | succ n ih => exact eq_zero_of_stepLeft hp (ih h)

/-! ### Feeding bits -/

/-- A bit at the top of a register. -/
def top (b : Bool) : BitVec w := if b then BitVec.twoPow w (w - 1) else 0

/-- The bits are fed to the register one after the other. -/
def feed (p : BitVec w) : BitVec w → List Bool → BitVec w
  | x, [] => x
  | x, b :: bs => feed p (stepLeft p (x ^^^ top b)) bs

/-- The bits, from the top of a register down. -/
def load : List Bool → BitVec w
  | [] => 0
  | b :: bs => top b ^^^ (load bs >>> 1)

theorem feed_append (p x : BitVec w) (bs cs : List Bool) :
    feed p x (bs ++ cs) = feed p (feed p x bs) cs := by
  induction bs generalizing x with
  | nil => rfl
  | cons b bs ih => exact ih _

theorem top_xor (b c : Bool) : (top (b ^^ c) : BitVec w) = top b ^^^ top c := ite_xor _ b c

/-- **Feeding is linear.** -/
theorem feed_xor (hlen : bs.length = cs.length) :
    feed p (x ^^^ y) (List.zipWith xor bs cs) = feed p x bs ^^^ feed p y cs := by
  induction bs generalizing x y cs with
  | nil =>
    obtain rfl := List.length_eq_zero_iff.mp hlen.symm
    rfl
  | cons b bs ih =>
    cases cs with
    | nil => cases hlen
    | cons c cs =>
      rw [List.zipWith_cons_cons, feed, top_xor, xor_xor_xor_comm, stepLeft_xor,
        ih (Nat.succ.inj hlen)]
      rfl

theorem getMsbD_top (hi : i < w) : (top b : BitVec w).getMsbD i = (b && decide (i = 0)) := by
  rw [top]
  cases b with
  | false => simp
  | true =>
    rw [if_pos rfl, BitVec.getMsbD_eq_getLsbD, BitVec.getLsbD_twoPow, decide_eq_true hi,
      decide_eq_true (by omega : w - 1 < w), Bool.true_and, Bool.true_and, Bool.true_and]
    exact decide_eq_decide.mpr (by omega)

/-- What is loaded stands at the top. -/
theorem getMsbD_load (hi : i < w) : (load bs : BitVec w).getMsbD i = bs.getD i false := by
  induction bs generalizing i with
  | nil => simp [load]
  | cons b bs ih =>
    rw [load, BitVec.getMsbD_xor, getMsbD_top hi, BitVec.getMsbD_ushiftRight]
    cases i with
    | zero => simp [hi]
    | succ i =>
      rw [Nat.add_sub_cancel, ih (by omega), decide_eq_true hi]
      simp

/-- A register with a free bit below holds the loaded bits one place further down. -/
theorem stepLeft_load_shift (hlen : bs.length < w) : stepLeft p (load bs >>> 1) = load bs := by
  have hmsb : (load bs >>> 1 : BitVec w).msb = false := by
    rw [BitVec.msb_ushiftRight]
    simp
  have hlow : (load bs : BitVec w).getLsbD 0 = false := by
    rw [BitVec.getLsbD_eq_getMsbD, decide_eq_true (by omega : 0 < w), Bool.true_and,
      getMsbD_load (by omega)]
    exact List.getD_eq_default _ _ (by omega)
  rw [stepLeft, hmsb, if_neg Bool.false_ne_true]
  refine BitVec.eq_of_getLsbD_eq fun i hi => ?_
  rw [BitVec.getLsbD_xor, BitVec.getLsbD_shiftLeft, BitVec.getLsbD_ushiftRight]
  cases i with
  | zero => simp [hlow]
  | succ i => simp [hi, Nat.add_comm 1 i]

/-- **Feeding up to `w` bits** is adding them at the top, and stepping as often. -/
theorem feed_eq (hlen : bs.length ≤ w) :
    feed p x bs = (stepLeft p)^[bs.length] (x ^^^ load bs) := by
  induction bs generalizing x with
  | nil =>
    rw [feed, load]
    exact BitVec.xor_zero.symm
  | cons b bs ih =>
    have hlen' : bs.length < w := hlen
    rw [feed, ih hlen'.le, List.length_cons, Function.iterate_succ_apply, load, ← BitVec.xor_assoc,
      stepLeft_xor p (x ^^^ top b), stepLeft_load_shift hlen']

theorem feed_replicate_zero (n : ℕ) : feed p 0 (List.replicate n false) = 0 := by
  induction n with
  | zero => rfl
  | succ n ih =>
    have hstep : stepLeft p (0 ^^^ top false) = 0 := by simp [top, stepLeft]
    rw [List.replicate_succ, feed, hstep]
    exact ih

theorem eq_zero_of_feed_replicate (hp : p.getLsbD 0 = true)
    (h : feed p x (List.replicate n false) = 0) : x = 0 := by
  induction n generalizing x with
  | zero => exact h
  | succ n ih =>
    have hstep := eq_zero_of_stepLeft hp (ih h)
    simpa [top] using hstep

/-- Up to `w` bits that a cleared register does not show are zeros. -/
theorem eq_false_of_feed (hp : p.getLsbD 0 = true) (hlen : bs.length ≤ w) (h : feed p 0 bs = 0) :
    ∀ b ∈ bs, b = false := by
  rw [feed_eq hlen] at h
  have hload := eq_zero_of_stepLeft_iterate hp h
  rw [show (0 : BitVec w) ^^^ load bs = load bs from BitVec.zero_xor] at hload
  intro b hb
  obtain ⟨i, hi, rfl⟩ := List.getElem_of_mem hb
  have hbit : (load bs : BitVec w).getMsbD i = bs.getD i false := getMsbD_load (by omega)
  rw [hload, List.getD_eq_getElem _ _ hi] at hbit
  rw [← hbit]
  simp

/-- **Bursts are detected**: strings of one length that differ, within `w` consecutive bits only,
leave different registers. -/
theorem feed_ne_of_burst (hp : p.getLsbD 0 = true) (hlen : bs.length = cs.length) (hne : bs ≠ cs)
    (hburst : ∀ j, j < i ∨ i + w ≤ j → bs[j]? = cs[j]?) : feed p x bs ≠ feed p x cs := by
  intro heq
  have hdiff : feed p 0 (List.zipWith xor bs cs) = 0 := by
    have hlin := feed_xor (p := p) (x := x) (y := x) hlen
    rw [heq, BitVec.xor_self, BitVec.xor_self] at hlin
    exact hlin
  -- the difference is zeros, up to `w` bits, and zeros again
  obtain ⟨e, he⟩ : ∃ e, e = List.zipWith xor bs cs := ⟨_, rfl⟩
  have hbit : ∀ j, j < i ∨ i + w ≤ j → ∀ b, e[j]? = some b → b = false := by
    intro j hj b hb
    rw [he, List.getElem?_zipWith, hburst j hj] at hb
    cases hc : cs[j]? with
    | none => simp [hc] at hb
    | some c => simpa [hc] using hb.symm
  have hfirst : e.take i = List.replicate (e.take i).length false := by
    refine List.eq_replicate_of_mem fun b hb => ?_
    obtain ⟨j, hj, rfl⟩ := List.getElem_of_mem hb
    have hji : j < i := by rw [List.length_take] at hj; omega
    refine hbit j (.inl hji) _ ?_
    rw [List.getElem_take, List.getElem?_eq_getElem]
  have hrest : (e.drop i).drop w = List.replicate ((e.drop i).drop w).length false := by
    refine List.eq_replicate_of_mem fun b hb => ?_
    obtain ⟨j, hj, rfl⟩ := List.getElem_of_mem hb
    refine hbit (i + (w + j)) (.inr (by omega)) _ ?_
    rw [List.getElem_drop, List.getElem_drop, List.getElem?_eq_getElem]
  have hmiddle : feed p 0 ((e.drop i).take w) = 0 := by
    rw [← he, ← List.take_append_drop i e, feed_append, hfirst, feed_replicate_zero,
      ← List.take_append_drop w (e.drop i), feed_append, hrest] at hdiff
    exact eq_zero_of_feed_replicate hp hdiff
  have hzero := eq_false_of_feed hp (List.length_take_le ..) hmiddle
  have hall : ∀ b ∈ e, b = false := by
    intro b hb
    rw [← List.take_append_drop i e, ← List.take_append_drop w (e.drop i)] at hb
    rcases List.mem_append.mp hb with hb | hb
    · rw [hfirst] at hb
      exact List.eq_of_mem_replicate hb
    · rcases List.mem_append.mp hb with hb | hb
      · exact hzero b hb
      · rw [hrest] at hb
        exact List.eq_of_mem_replicate hb
  refine hne (List.ext_getElem hlen fun j hj hj' => ?_)
  have hmem : (bs[j] ^^ cs[j]) ∈ e := by
    rw [he]
    exact List.mem_iff_getElem.mpr ⟨j, by simp [hj, hj'], by simp⟩
  simpa using hall _ hmem

end Crc
