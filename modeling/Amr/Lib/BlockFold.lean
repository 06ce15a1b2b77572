/-
# Folding over blocks

A state that takes a stream in blocks of `n` elements. What a stream has left when its whole blocks
were taken waits for more, and so does whoever is given the stream in pieces: the state after the
pieces, and what is left of them, is what it is after the whole stream.
-/
import Mathlib.Tactic.Linarith

namespace BlockFold

variable {σ β : Type*} (f : σ → List β → σ) (n : ℕ)

/-- The first `k` blocks are taken. -/
def blocks : ℕ → σ → List β → σ
  | 0, s, _ => s
  | k + 1, s, xs => blocks k (f s (xs.take n)) (xs.drop n)

/-- The whole blocks of a stream are taken. -/
def absorb (s : σ) (xs : List β) : σ := blocks f n (xs.length / n) s xs

/-- What is left of a stream when its whole blocks were taken. -/
def rest (xs : List β) : List β := xs.drop (n * (xs.length / n))

variable {n}

theorem length_rest (xs : List β) : (rest n xs).length = xs.length % n := by
  rw [rest, List.length_drop]
  have := Nat.div_add_mod xs.length n
  omega

theorem length_rest_lt (hn : 0 < n) (xs : List β) : (rest n xs).length < n := by
  rw [length_rest]
  exact Nat.mod_lt _ hn

/-- Blocks that a stream has are not changed by what is appended to it. -/
theorem blocks_append {k : ℕ} (s : σ) {xs : List β} (ys : List β) (h : n * k ≤ xs.length) :
    blocks f n k s (xs ++ ys) = blocks f n k s xs := by
  induction k generalizing s xs with
  | zero => rfl
  | succ k ih =>
    rw [Nat.mul_succ] at h
    have htake : (xs ++ ys).take n = xs.take n := List.take_append_of_le_length (by omega)
    have hdrop : (xs ++ ys).drop n = xs.drop n ++ ys := List.drop_append_of_le_length (by omega)
    rw [blocks, blocks, htake, hdrop]
    refine ih _ ?_
    rw [List.length_drop]
    omega

/-- First some blocks, then others. -/
theorem blocks_add (j k : ℕ) (s : σ) (xs : List β) :
    blocks f n (j + k) s xs = blocks f n k (blocks f n j s xs) (xs.drop (n * j)) := by
  induction j generalizing s xs with
  | zero => rw [Nat.zero_add, Nat.mul_zero, List.drop_zero, blocks]
  | succ j ih =>
    rw [Nat.succ_add, blocks, ih, blocks, List.drop_drop, Nat.mul_succ, Nat.add_comm]

/-- The whole blocks of two streams, one after the other, are those of the first, and then those of
what it left with the second behind it. -/
theorem length_append_div (hn : 0 < n) (xs ys : List β) :
    (xs ++ ys).length / n = xs.length / n + (rest n xs ++ ys).length / n := by
  have hxs : xs.length + ys.length = xs.length % n + ys.length + n * (xs.length / n) := by
    have := Nat.div_add_mod xs.length n
    omega
  rw [List.length_append, List.length_append, length_rest, hxs, Nat.add_mul_div_left _ _ hn,
    Nat.add_comm]

theorem drop_append_rest (xs ys : List β) :
    (xs ++ ys).drop (n * (xs.length / n)) = rest n xs ++ ys :=
  List.drop_append_of_le_length (Nat.mul_div_le _ _)

/-- **A stream in two pieces:** the state takes them as it takes the whole. -/
theorem absorb_append (hn : 0 < n) (s : σ) (xs ys : List β) :
    absorb f n s (xs ++ ys) = absorb f n (absorb f n s xs) (rest n xs ++ ys) := by
  rw [absorb, length_append_div hn, blocks_add, drop_append_rest,
    blocks_append f s ys (Nat.mul_div_le _ _)]
  rfl

/-- **A stream in two pieces:** what is left is what the whole leaves. -/
theorem rest_append (hn : 0 < n) (xs ys : List β) :
    rest n (xs ++ ys) = rest n (rest n xs ++ ys) := by
  rw [rest, length_append_div hn, Nat.mul_add, ← List.drop_drop, drop_append_rest]
  rfl

/-! ### Short streams and single blocks -/

theorem absorb_of_lt {xs : List β} (h : xs.length < n) (s : σ) : absorb f n s xs = s := by
  rw [absorb, Nat.div_eq_of_lt h, blocks]

theorem rest_of_lt {xs : List β} (h : xs.length < n) : rest n xs = xs := by
  rw [rest, Nat.div_eq_of_lt h, Nat.mul_zero, List.drop_zero]

/-- A whole block is taken. -/
theorem absorb_block (hn : 0 < n) {b : List β} (hb : b.length = n) (s : σ) (ys : List β) :
    absorb f n s (b ++ ys) = absorb f n (f s b) ys := by
  have hlen : (b ++ ys).length / n = ys.length / n + 1 := by
    rw [List.length_append, hb, Nat.add_div_left _ hn]
  rw [absorb, hlen, blocks, List.take_left' hb, List.drop_left' hb]
  rfl

theorem absorb_single (hn : 0 < n) {b : List β} (hb : b.length = n) (s : σ) :
    absorb f n s b = f s b := by
  have h := absorb_block f hn hb s []
  have hnil : ([] : List β).length < n := hn
  rwa [List.append_nil, absorb_of_lt f hnil] at h

theorem rest_block (hn : 0 < n) {b : List β} (hb : b.length = n) (ys : List β) :
    rest n (b ++ ys) = rest n ys := by
  have hone : rest n b = [] := by
    rw [rest, hb, Nat.div_self hn, Nat.mul_one, ← hb, List.drop_length]
  rw [rest_append hn, hone, List.nil_append]

end BlockFold
