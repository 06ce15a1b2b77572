/-
# Bytes in runs and blocks

`splice` replaces some bytes of a run and `memcpy` is the copy between two runs, which is refused
where it would leave one of them. A block that is read from a store, changed by a splice and put
back changes the bytes of the splice only, and runs that are put next to each other are one.
-/
import Amr.Lib.ByteStore

namespace ByteStore

/-- A run of bytes with `bs` from position `k` on. -/
def splice (xs : List UInt8) (k : ℕ) (bs : List UInt8) : List UInt8 :=
  xs.take k ++ bs ++ xs.drop (k + bs.length)

/-- The copy of `n` bytes between two runs, if it stays inside both. -/
def memcpy (dst : List UInt8) (k : ℕ) (src : List UInt8) (j n : ℕ) : Option (List UInt8) :=
  if k + n ≤ dst.length ∧ j + n ≤ src.length then some (splice dst k ((src.drop j).take n))
  else none

variable {xs bs : List UInt8}

theorem length_splice {k : ℕ} (h : k + bs.length ≤ xs.length) :
    (splice xs k bs).length = xs.length := by
  simp only [splice, List.length_append, List.length_take, List.length_drop]
  omega

theorem splice_all (h : bs.length = xs.length) : splice xs 0 bs = bs := by
  simp [splice, h]

theorem splice_splice {xs bs cs : List UInt8} {k : ℕ} (h : k + bs.length ≤ xs.length) :
    splice (splice xs k bs) (k + bs.length) cs = splice xs k (bs ++ cs) := by
  have hlen : (xs.take k ++ bs).length = k + bs.length := by
    simp only [List.length_append, List.length_take]
    omega
  unfold splice
  rw [List.take_append_of_le_length (by omega), List.take_of_length_le (by omega),
    List.drop_append, hlen, List.drop_eq_nil_of_le (by omega), List.drop_drop]
  simp only [List.nil_append, List.append_assoc, List.length_append]
  congr 3
  congr 1
  omega

theorem getD_splice {k i : ℕ} (d : UInt8) (h : k + bs.length ≤ xs.length) :
    (splice xs k bs).getD i d
      = if i < k then xs.getD i d else if i < k + bs.length then bs.getD (i - k) d
        else xs.getD i d := by
  simp only [splice, List.getD_eq_getElem?_getD]
  split_ifs with h₁ h₂
  · rw [List.append_assoc, List.getElem?_append_left (by simp; omega), List.getElem?_take_of_lt h₁]
  · rw [List.append_assoc, List.getElem?_append_right (by simp; omega),
      List.getElem?_append_left (by simp; omega)]
    congr 2
    simp
    omega
  · rw [List.getElem?_append_right (by simp; omega), List.getElem?_drop]
    congr 2
    simp
    omega

variable (m : Store)

theorem getD_read (a n i : ℕ) (d : UInt8) :
    (read m a n).getD i d = if i < n then m (a + i) else d := by
  split_ifs with h
  · rw [List.getD_eq_getElem _ _ (by simpa using h), getElem_read]
  · rw [List.getD_eq_default _ _ (by simpa using h)]

theorem take_read (a : ℕ) {n k : ℕ} (h : k ≤ n) :
    (read m a n).take k = read m a k := by
  rw [← Nat.add_sub_cancel' h, ← read_append, List.take_left' (length_read m a k)]

theorem drop_read (a : ℕ) {n k : ℕ} (h : k ≤ n) :
    (read m a n).drop k = read m (a + k) (n - k) := by
  conv_lhs => rw [← Nat.add_sub_cancel' h, ← read_append]
  exact List.drop_left' (length_read m a k)

/-- **Read, modify, write**: only the bytes of the splice change. -/
theorem put_splice (b n k : ℕ) (bs : List UInt8) (h : k + bs.length ≤ n) :
    put m b (splice (read m b n) k bs) = put m (b + k) bs := by
  funext x
  unfold put
  by_cases hx : x < b
  · rw [if_pos hx, if_pos (by omega)]
  rw [if_neg hx, getD_splice _ (by simpa using h)]
  by_cases hk : x < b + k
  · rw [if_pos hk, if_pos (by omega), getD_read]
    split_ifs
    · congr 1
      omega
    · rfl
  rw [if_neg hk, if_neg (by omega)]
  by_cases hlen : x - b < k + bs.length
  · rw [if_pos hlen, show x - b - k = x - (b + k) by omega]
  · rw [if_neg hlen, getD_read, List.getD_eq_default _ _ (by omega)]
    split_ifs
    · congr 1
      omega
    · rfl

/-- Two runs next to each other are one. -/
theorem put_put (a : ℕ) (xs ys : List UInt8) :
    put (put m a xs) (a + xs.length) ys = put m a (xs ++ ys) := by
  funext x
  unfold put
  by_cases hx : x < a
  · rw [if_pos (by omega), if_pos hx, if_pos hx]
  rw [if_neg hx, if_neg hx]
  by_cases hlen : x < a + xs.length
  · rw [if_pos hlen, List.getD_append _ _ _ _ (by omega)]
  · rw [if_neg hlen, List.getD_eq_default xs _ (by omega),
      List.getD_append_right _ _ _ _ (by omega),
      show x - (a + xs.length) = x - a - xs.length by omega]

@[simp] theorem put_nil (a : ℕ) : put m a [] = m := by
  funext x
  simp [put]

/-- A shorter run of ones leaves a zero that a longer one covers. -/
theorem put_take_ne {n k : ℕ} (a : ℕ) (h : k < n) :
    put (fun _ => 0) a ((List.replicate n 1).take k) ≠ put (fun _ => 0) a (List.replicate n 1) := by
  intro heq
  have hat := congrFun heq (a + k)
  have hlen : ((List.replicate n (1 : UInt8)).take k).length = k := by simp; omega
  rw [put_above _ (by omega), put_inside _ (by simpa using h)] at hat
  simp at hat

end ByteStore
