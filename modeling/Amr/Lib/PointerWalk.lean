/-
# Loops that follow pointers

A do-while loop over a linked structure: its body visits a place, which fails or gives the place to
visit next and the record so far, and the loop goes on until the next place is an end. A body
`Follows` three functions of the place alone when these say where a visit fails, where it goes on
and what it notes. Then the loop comes to an end exactly where, on the way the pointers give, some
visit fails or leads to an end; what it has recorded then is what the visits up to there have noted.
On a finite set of places, the way ends before it comes to a place twice, or never.
-/
import Mathlib

namespace PointerWalk

variable {V R ε : Type*}

/-- The loop, for at most `n` visits. -/
def walk (body : V → R → Except ε (V × R)) (done : V → Bool) : ℕ → V → R → Option (Except ε R)
  | 0, _, _ => none
  | n + 1, v, r =>
    match body v r with
    | .error e => some (.error e)
    | .ok (v', r') => if done v' then some (.ok r') else walk body done n v' r'

/-- A visit fails at the `bad` places, and elsewhere goes on to `next` and records `note`. -/
structure Follows (body : V → R → Except ε (V × R)) (bad : V → Prop) (next : V → V)
    (note : V → R → R) : Prop where
  fails : ∀ v r, bad v → ∃ e, body v r = .error e
  goes : ∀ v r, ¬ bad v → body v r = .ok (next v, note v r)

/-- On the way from `v` some visit fails or leads to an end. -/
def Ends (bad : V → Prop) (next : V → V) (done : V → Bool) (v : V) : Prop :=
  ∃ i, bad (next^[i] v) ∨ done (next^[i + 1] v) = true

/-- The visits from `v` to the `m`-th one all succeed, and that one is the first to lead to an
end. -/
def Completes (bad : V → Prop) (next : V → V) (done : V → Bool) (v : V) (m : ℕ) : Prop :=
  (∀ i ≤ m, ¬ bad (next^[i] v)) ∧ (∀ i < m, done (next^[i + 1] v) = false) ∧
    done (next^[m + 1] v) = true

/-- What the first `m` visits from `v` make of a record. -/
def notes (next : V → V) (note : V → R → R) : ℕ → V → R → R
  | 0, _, r => r
  | m + 1, v, r => notes next note m (next v) (note v r)

variable {body : V → R → Except ε (V × R)} {bad : V → Prop} {next : V → V} {note : V → R → R}
  {done : V → Bool} {m n : ℕ} {v : V} {r r' : R}

/-- What every visit on the way keeps is kept. -/
theorem notes_keep (I : R → Prop) (hr : I r)
    (hI : ∀ i < m, ∀ s, I s → I (note (next^[i] v) s)) : I (notes next note m v r) := by
  induction m generalizing v r with
  | zero => exact hr
  | succ m ih =>
    refine ih (hI 0 (Nat.succ_pos m) r hr) fun i hi s hs => ?_
    exact hI (i + 1) (Nat.succ_lt_succ hi) s hs

/-- What one visit brings about and the others keep holds in the end. -/
theorem notes_bring (I : R → Prop) {j : ℕ} (hj : j < m) (hbring : ∀ s, I (note (next^[j] v) s))
    (hI : ∀ i < m, ∀ s, I s → I (note (next^[i] v) s)) : I (notes next note m v r) := by
  induction m generalizing v r j with
  | zero => exact absurd hj (Nat.not_lt_zero j)
  | succ m ih =>
    cases j with
    | zero =>
      have hfirst : I (note v r) := hbring r
      change I (notes next note m (next v) (note v r))
      exact notes_keep I hfirst fun i hi s hs => hI (i + 1) (Nat.succ_lt_succ hi) s hs
    | succ j =>
      refine ih (Nat.lt_of_succ_lt_succ hj) hbring fun i hi s hs => ?_
      exact hI (i + 1) (Nat.succ_lt_succ hi) s hs

theorem Completes.ends (h : Completes bad next done v m) : Ends bad next done v :=
  ⟨m, .inr h.2.2⟩

/-- A completed way, one visit later. -/
theorem Completes.tail (h : Completes bad next done v (m + 1)) :
    Completes bad next done (next v) m :=
  ⟨fun i hi => h.1 (i + 1) (Nat.succ_le_succ hi), fun i hi => h.2.1 (i + 1) (Nat.succ_lt_succ hi),
    h.2.2⟩

/-- One visit more in front. -/
theorem Completes.cons (hv : ¬ bad v) (hnext : done (next v) = false)
    (h : Completes bad next done (next v) m) : Completes bad next done v (m + 1) := by
  refine ⟨fun i hi => ?_, fun i hi => ?_, h.2.2⟩
  · cases i with
    | zero => exact hv
    | succ i => exact h.1 i (Nat.le_of_succ_le_succ hi)
  · cases i with
    | zero => exact hnext
    | succ i => exact h.2.1 i (Nat.lt_of_succ_lt_succ hi)

namespace Follows

/-- **What a loop that ends well has done.** -/
theorem completes_of_ok (h : Follows body bad next note) (hw : walk body done n v r = some (.ok r')) :
    ∃ m < n, Completes bad next done v m ∧ r' = notes next note (m + 1) v r := by
  induction n generalizing v r with
  | zero => cases hw
  | succ n ih =>
    by_cases hv : bad v
    · obtain ⟨e, he⟩ := h.fails v r hv
      rw [walk, he] at hw
      cases hw
    · rw [walk, h.goes v r hv] at hw
      dsimp only at hw
      by_cases hd : done (next v) = true
      · rw [if_pos hd] at hw
        obtain rfl : note v r = r' := by injection hw with hw; injection hw
        refine ⟨0, Nat.succ_pos n, ⟨fun i hi => ?_, fun i hi => absurd hi (Nat.not_lt_zero i), hd⟩,
          rfl⟩
        obtain rfl := Nat.le_zero.mp hi
        exact hv
      · rw [if_neg hd] at hw
        obtain ⟨m, hm, hc, rfl⟩ := ih hw
        exact ⟨m + 1, Nat.succ_lt_succ hm, hc.cons hv (Bool.eq_false_iff.mpr hd), rfl⟩

/-- A way that completes is walked to its end, given visits enough. -/
theorem ok_of_completes (h : Follows body bad next note) (hc : Completes bad next done v m)
    (hn : m < n) : walk body done n v r = some (.ok (notes next note (m + 1) v r)) := by
  induction m generalizing n v r with
  | zero =>
    obtain ⟨n, rfl⟩ := Nat.exists_eq_add_of_lt hn
    rw [Nat.zero_add, walk, h.goes v r (hc.1 0 le_rfl)]
    exact if_pos hc.2.2
  | succ m ih =>
    obtain ⟨n, rfl⟩ := Nat.exists_eq_succ_of_ne_zero (Nat.ne_zero_of_lt hn)
    rw [walk, h.goes v r (hc.1 0 (Nat.zero_le _))]
    dsimp only
    have hd : ¬ done (next v) = true := Bool.eq_false_iff.mp (hc.2.1 0 (Nat.succ_pos m))
    rw [if_neg hd]
    exact ih hc.tail (Nat.lt_of_succ_lt_succ hn)

theorem ends_of_walk (h : Follows body bad next note) {x : Except ε R}
    (hw : walk body done n v r = some x) : Ends bad next done v := by
  induction n generalizing v r with
  | zero => cases hw
  | succ n ih =>
    by_cases hv : bad v
    · exact ⟨0, .inl hv⟩
    · rw [walk, h.goes v r hv] at hw
      dsimp only at hw
      by_cases hd : done (next v) = true
      · exact ⟨0, .inr hd⟩
      · rw [if_neg hd] at hw
        obtain ⟨i, hi⟩ := ih hw
        exact ⟨i + 1, hi⟩

/-- **The loop comes to an end exactly on a way that ends.** -/
theorem ends_iff (h : Follows body bad next note) :
    (∃ n x, walk body done n v r = some x) ↔ Ends bad next done v := by
  constructor
  · rintro ⟨n, x, hw⟩
    exact h.ends_of_walk hw
  · rintro ⟨i, hi⟩
    refine ⟨i + 1, ?_⟩
    induction i generalizing v r with
    | zero =>
      by_cases hv : bad v
      · obtain ⟨e, he⟩ := h.fails v r hv
        exact ⟨.error e, by rw [walk, he]⟩
      · refine ⟨.ok (note v r), ?_⟩
        rw [walk, h.goes v r hv]
        exact if_pos (hi.resolve_left hv)
    | succ i ih =>
      by_cases hv : bad v
      · obtain ⟨e, he⟩ := h.fails v r hv
        exact ⟨.error e, by rw [walk, he]⟩
      · rw [walk, h.goes v r hv]
        dsimp only
        by_cases hd : done (next v) = true
        · exact ⟨_, if_pos hd⟩
        · rw [if_neg hd]
          exact ih hi

end Follows

end PointerWalk
