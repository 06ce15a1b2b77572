/-
# A log in a ring of slots

Entries are written into `n` slots in turn, and the oldest one is overwritten when all slots are in
use. A reader who starts at the slot where a piece of the log begins, and reads up to the slot that
is written next, reads that piece, as long as it is shorter than the ring.
-/
import Mathlib

/-- The slots of a ring of `n` slots, and the one that is written next. -/
structure RingLog (n : ℕ) (α : Type*) where
  slot : ℕ → α
  next : ℕ

namespace RingLog

variable {n : ℕ} {α : Type*}

def add (r : RingLog n α) (a : α) : RingLog n α where
  slot := Function.update r.slot r.next a
  next := (r.next + 1) % n

def addAll (r : RingLog n α) (l : List α) : RingLog n α := l.foldl add r

/-- The last `k` entries, oldest first. -/
def last (r : RingLog n α) (k : ℕ) : List α :=
  (List.range k).map fun j => r.slot ((r.next + (n - k) + j) % n)

/-- The entries in the slots from `i` on, up to the slot `stop`: the loop of a reader, who makes at
most as many rounds as there are slots. -/
def read (slot : ℕ → α) (n : ℕ) : ℕ → ℕ → ℕ → Option (List α)
  | 0, i, stop => if i = stop then some [] else none
  | fuel + 1, i, stop =>
    if i = stop then some []
    else (read slot n fuel ((i + 1) % n) stop).map (slot i :: ·)

variable (r : RingLog n α)

@[simp] theorem addAll_nil : r.addAll [] = r := rfl

theorem addAll_concat (l : List α) (a : α) :
    r.addAll (l ++ [a]) = (r.addAll l).add a := by
  simp [addAll, List.foldl_append]

theorem addAll_cons (a : α) (l : List α) :
    r.addAll (a :: l) = (r.add a).addAll l := rfl

/-- The next slot is as far on as there are entries. -/
theorem addAll_next (hnext : r.next < n) (l : List α) :
    (r.addAll l).next = (r.next + l.length) % n := by
  induction l using List.reverseRecOn with
  | nil => simp [Nat.mod_eq_of_lt hnext]
  | append_singleton l a ih =>
    rw [addAll_concat]
    simp only [add, ih, List.length_append, List.length_singleton]
    rw [Nat.mod_add_mod, Nat.add_assoc]

theorem addAll_next_lt (hnext : r.next < n) (l : List α) :
    (r.addAll l).next < n := by
  rw [addAll_next r hnext]
  exact Nat.mod_lt _ (by omega)

/-! ### The last entries -/

/-- The last entries after a write are those before it, and the one that is written. -/
theorem last_add (hnext : r.next < n) (a : α) {k : ℕ} (hk : k < n) :
    (r.add a).last (k + 1) = r.last k ++ [a] := by
  unfold last
  rw [List.range_succ, List.map_append, List.map_singleton]
  congr 1
  · refine List.map_congr_left fun j hj => ?_
    have hj : j < k := List.mem_range.mp hj
    have hsame : ((r.add a).next + (n - (k + 1)) + j) % n = (r.next + (n - k) + j) % n := by
      simp only [add]
      rw [Nat.add_assoc, Nat.mod_add_mod]
      congr 1
      omega
    have hne : (r.next + (n - k) + j) % n ≠ r.next := by
      intro heq
      have hle : n - k + j < n := by omega
      rcases Nat.lt_or_ge (r.next + (n - k) + j) n with h | h
      · rw [Nat.mod_eq_of_lt h] at heq
        omega
      · rw [Nat.mod_eq_sub_mod h, Nat.mod_eq_of_lt (by omega)] at heq
        omega
    rw [hsame]
    exact Function.update_of_ne hne ..
  · have hnew : ((r.add a).next + (n - (k + 1)) + k) % n = r.next := by
      simp only [add]
      rw [Nat.add_assoc, Nat.mod_add_mod]
      have : r.next + 1 + (n - (k + 1) + k) = r.next + n := by omega
      rw [this, Nat.add_mod_right, Nat.mod_eq_of_lt hnext]
    rw [hnew]
    exact congrArg (fun x => [x]) (Function.update_self ..)

/-- The last entries of the ring are the last of those that were written. -/
theorem last_addAll (hnext : r.next < n) (l : List α) :
    ∀ k, k ≤ n → k ≤ l.length → (r.addAll l).last k = l.drop (l.length - k) := by
  induction l using List.reverseRecOn with
  | nil =>
    intro k _ hk
    obtain rfl : k = 0 := by simpa using hk
    rfl
  | append_singleton l a ih =>
    intro k hkn hk
    rw [List.length_append, List.length_singleton] at hk ⊢
    rcases k with _ | k
    · simp [last]
    · rw [addAll_concat, last_add _ (addAll_next_lt r hnext l) a (by omega),
        ih k (by omega) (by omega), Nat.add_sub_add_right,
        List.drop_append_of_le_length (by omega)]

/-- A slot that the writes do not come to keeps its entry. -/
theorem addAll_slot_of_not_written (l : List α) :
    ∀ (r : RingLog n α), r.next + l.length ≤ n → ∀ i, i < n →
      i < r.next ∨ r.next + l.length ≤ i → (r.addAll l).slot i = r.slot i := by
  induction l with
  | nil => exact fun _ _ _ _ _ => rfl
  | cons a l ih =>
    intro r hfits i hi hout
    rw [List.length_cons] at hfits hout
    have hne : i ≠ r.next := by omega
    have hslot : (r.add a).slot i = r.slot i := Function.update_of_ne hne ..
    rw [addAll_cons]
    rcases Nat.lt_or_ge (r.next + 1) n with hlt | hge
    · have hnext : (r.add a).next = r.next + 1 := Nat.mod_eq_of_lt hlt
      rw [ih (r.add a) (by omega) i hi (by omega), hslot]
    · obtain rfl : l = [] := List.eq_nil_of_length_eq_zero (by omega)
      exact hslot

/-- A slot has an entry that was written, or the one that it had before. -/
theorem addAll_slot (l : List α) (i : ℕ) :
    (r.addAll l).slot i = r.slot i ∨ (r.addAll l).slot i ∈ l := by
  induction l generalizing r with
  | nil => exact .inl rfl
  | cons a l ih =>
    rw [addAll_cons]
    rcases ih (r.add a) with h | h
    · rw [h]
      by_cases hi : i = r.next
      · subst hi
        exact .inr (by rw [show (r.add a).slot r.next = a from Function.update_self ..]
                       exact List.mem_cons_self)
      · exact .inl (Function.update_of_ne hi ..)
    · exact .inr (List.mem_cons_of_mem _ h)

/-! ### A reader -/

/-- The reader reads the slots from `i` on. -/
theorem read_eq (slot : ℕ → α) : ∀ (k fuel i : ℕ), k < n → k ≤ fuel → i < n →
    read slot n fuel i ((i + k) % n) = some ((List.range k).map fun j => slot ((i + j) % n)) := by
  intro k
  induction k with
  | zero =>
    intro fuel i _ _ hi
    rw [Nat.add_zero, Nat.mod_eq_of_lt hi]
    cases fuel <;> simp [read]
  | succ k ih =>
    intro fuel i hk hfuel hi
    obtain ⟨fuel, rfl⟩ := Nat.exists_eq_succ_of_ne_zero (by omega : fuel ≠ 0)
    have hne : i ≠ (i + (k + 1)) % n := by
      rcases Nat.lt_or_ge (i + (k + 1)) n with h | h
      · rw [Nat.mod_eq_of_lt h]
        omega
      · rw [Nat.mod_eq_sub_mod h, Nat.mod_eq_of_lt (by omega)]
        omega
    have hstop : (i + (k + 1)) % n = ((i + 1) % n + k) % n := by
      rw [Nat.mod_add_mod]
      congr 1
      omega
    rw [read, if_neg hne, hstop, ih fuel _ (by omega) (by omega) (Nat.mod_lt _ (by omega)),
      Option.map_some, List.range_succ_eq_map, List.map_cons, List.map_map,
      Nat.add_zero i, Nat.mod_eq_of_lt hi]
    refine congrArg some (congrArg (slot i :: ·) (List.map_congr_left fun j _ => ?_))
    simp only [Function.comp_apply, Nat.mod_add_mod]
    congr 2
    omega

/-- **A reader reads the piece of the log that was written since it started**, if the piece is
shorter than the ring. -/
theorem read_addAll (hnext : r.next < n) {l : List α} (hl : l.length < n)
    {fuel : ℕ} (hfuel : n ≤ fuel) :
    read (r.addAll l).slot n fuel r.next (r.addAll l).next = some l := by
  have hlast := last_addAll r hnext l l.length hl.le le_rfl
  rw [Nat.sub_self, List.drop_zero] at hlast
  have hslots : (List.range l.length).map (fun j => (r.addAll l).slot ((r.next + j) % n)) =
      (r.addAll l).last l.length := by
    unfold last
    refine List.map_congr_left fun j _ => congrArg _ ?_
    rw [addAll_next r hnext l, Nat.add_assoc, Nat.mod_add_mod]
    have : r.next + l.length + (n - l.length + j) = r.next + j + n := by omega
    rw [this, Nat.add_mod_right]
  rw [addAll_next r hnext l, read_eq _ _ _ _ hl (by omega) hnext, hslots, hlast]

end RingLog
