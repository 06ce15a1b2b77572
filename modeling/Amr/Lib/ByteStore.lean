/-
# Byte stores

A store has a byte at every address. `read` and `put` are the two accesses; `program` is the write
of a device that changes its cells in units, such as the sectors of a flash memory: the bytes
written are exact, what else stands in a unit that the write touches is free, and every other unit
keeps its bytes. `value` and `bytesOf` relate a run of bytes to the number it spells, lowest byte
first.
-/
import Mathlib

namespace ByteStore

abbrev Store := ℕ → UInt8

/-- The `n` bytes from `a` on. -/
def read (m : Store) (a n : ℕ) : List UInt8 := (List.range' a n).map m

/-- A store with `bs` from `a` on. -/
def put (m : Store) (a : ℕ) (bs : List UInt8) : Store := fun x =>
  if x < a then m x else bs.getD (x - a) (m x)

/-- The address lies in a unit of size `u` that `[a, a + n)` touches. -/
def Touched (u a n x : ℕ) : Prop := a / u ≤ x / u ∧ x / u ≤ (a + n - 1) / u

instance (u a n x : ℕ) : Decidable (Touched u a n x) := by unfold Touched; infer_instance

/-- A write of `bs` at `a` into a device with units of size `u`; `rest` is what the write leaves in
the other cells of the units it touches. -/
def program (u : ℕ) (m rest : Store) (a : ℕ) (bs : List UInt8) : Store :=
  put (fun x => if Touched u a bs.length x then rest x else m x) a bs

variable (m : Store)

@[simp] theorem length_read (a n : ℕ) : (read m a n).length = n := by simp [read]

/-- A read depends on the bytes it reads only. -/
theorem read_congr {m m' : Store} {a n : ℕ} (h : ∀ x, a ≤ x → x < a + n → m x = m' x) :
    read m a n = read m' a n := by
  refine List.map_congr_left fun x hx => ?_
  rw [List.mem_range'_1] at hx
  exact h x hx.1 hx.2

theorem getElem_read {m : Store} {a n k : ℕ} (h : k < (read m a n).length) :
    (read m a n)[k] = m (a + k) := by
  simp [read]

/-- Two reads in a row are one. -/
theorem read_append (a n k : ℕ) :
    read m a n ++ read m (a + n) k = read m a (n + k) := by
  rw [read, read, read, ← List.map_append, ← List.range'_append, one_mul]

theorem put_below {a x : ℕ} (bs : List UInt8) (h : x < a) : put m a bs x = m x :=
  if_pos h

theorem put_above {a x : ℕ} {bs : List UInt8} (h : a + bs.length ≤ x) :
    put m a bs x = m x := by
  unfold put
  rw [if_neg (by omega), List.getD_eq_default _ _ (by omega)]

theorem put_inside {a k : ℕ} {bs : List UInt8} (h : k < bs.length) :
    put m a bs (a + k) = bs[k] := by
  unfold put
  rw [if_neg (by omega), Nat.add_sub_cancel_left, List.getD_eq_getElem _ _ h]

/-- What was put is read back. -/
theorem read_put (a : ℕ) (bs : List UInt8) : read (put m a bs) a bs.length = bs := by
  refine List.ext_getElem (by simp) fun k h _ => ?_
  rw [getElem_read, put_inside m (by simpa using h)]

/-- What was written is read back. -/
theorem read_program (u : ℕ) (m rest : Store) (a : ℕ) (bs : List UInt8) :
    read (program u m rest a bs) a bs.length = bs :=
  read_put _ a bs

/-- A write keeps the units it does not touch. -/
theorem program_untouched {u a x : ℕ} (m rest : Store) {bs : List UInt8} (hbs : bs ≠ [])
    (h : ¬ Touched u a bs.length x) : program u m rest a bs x = m x := by
  have hlen : 0 < bs.length := List.length_pos_iff.mpr hbs
  have hout : x < a ∨ a + bs.length ≤ x := by
    by_contra hin
    refine h ⟨Nat.div_le_div_right ?_, Nat.div_le_div_right ?_⟩ <;> omega
  unfold program
  rcases hout with hout | hout
  · rw [put_below _ _ hout, if_neg h]
  · rw [put_above _ hout, if_neg h]

/-! ### Numbers -/

/-- The number that the bytes spell. -/
def value : List UInt8 → ℕ
  | [] => 0
  | b :: bs => b.toNat + 256 * value bs

/-- The `n` lowest bytes of a number. -/
def bytesOf : ℕ → ℕ → List UInt8
  | 0, _ => []
  | n + 1, v => UInt8.ofNat v :: bytesOf n (v / 256)

@[simp] theorem length_bytesOf (n v : ℕ) : (bytesOf n v).length = n := by
  induction n generalizing v with
  | zero => rfl
  | succ n ih => simp [bytesOf, ih]

theorem value_bytesOf (n v : ℕ) : value (bytesOf n v) = v % 256 ^ n := by
  induction n generalizing v with
  | zero => simp [bytesOf, value, Nat.mod_one]
  | succ n ih =>
    have byte : (UInt8.ofNat v).toNat = v % 256 := UInt8.toNat_ofNat'
    rw [bytesOf, value, ih, byte, pow_succ' 256 n, Nat.mod_mul]

end ByteStore
