/-
# Selection sort in an array

An array is a function of its positions. A sort of its first `n` entries exchanges, for every
position in turn, the entry there with a least one from there on (`sort`). It rearranges the
entries among the sorted positions (`sort_eq_comp`) and leaves their keys in order
(`sort_monotone`). In an array in order, the entries that share the least key come first, and the
first place where two neighbours differ is where they end (`first_change`).
-/
import Mathlib

namespace SelectionSort

variable {α β : Type} [LinearOrder β]

def swap (l : ℕ → α) (a b : ℕ) : ℕ → α :=
  Function.update (Function.update l a (l b)) b (l a)

/-- The position of a least entry among those from `lo` to `n`, the first of them. -/
def least (key : α → β) (l : ℕ → α) (lo n : ℕ) : ℕ :=
  (List.range' (lo + 1) (n - (lo + 1))).foldl
    (fun m k => if key (l k) < key (l m) then k else m) lo

/-- The first `n` entries sorted by `key`. -/
def sort (key : α → β) (l : ℕ → α) (n : ℕ) : ℕ → α :=
  (List.range (n - 1)).foldl (fun l lo => swap l (least key l lo n) lo) l

theorem swap_eq (l : ℕ → α) (a b : ℕ) : swap l a b = l ∘ Equiv.swap a b := by
  funext k
  simp only [swap, Function.update_apply, Function.comp_apply, Equiv.swap_apply_def]
  by_cases hb : k = b <;> by_cases ha : k = a <;> simp_all

/-- A search through a list of positions ends at one of them, or where it began, and none has a
smaller key. -/
theorem search_spec (key : α → β) (l : ℕ → α) :
    ∀ (ks : List ℕ) (m : ℕ),
      let r := ks.foldl (fun m k => if key (l k) < key (l m) then k else m) m
      (r = m ∨ r ∈ ks) ∧ key (l r) ≤ key (l m) ∧ ∀ k ∈ ks, key (l r) ≤ key (l k)
  | [], m => ⟨.inl rfl, le_rfl, nofun⟩
  | k :: ks, m => by
    obtain ⟨hr, hm, hks⟩ := search_spec key l ks (if key (l k) < key (l m) then k else m)
    simp only [List.foldl_cons]
    generalize ks.foldl _ _ = r at hr hm hks ⊢
    by_cases hlt : key (l k) < key (l m)
    · rw [if_pos hlt] at hr hm
      refine ⟨.inr ?_, hm.trans hlt.le, ?_⟩
      · rcases hr with rfl | hr
        · exact List.mem_cons_self
        · exact List.mem_cons_of_mem _ hr
      · rintro k' hk'
        rcases List.mem_cons.mp hk' with rfl | hk'
        · exact hm
        · exact hks _ hk'
    · rw [if_neg hlt] at hr hm
      refine ⟨hr.imp_right (List.mem_cons_of_mem _), hm, ?_⟩
      rintro k' hk'
      rcases List.mem_cons.mp hk' with rfl | hk'
      · exact hm.trans (not_lt.mp hlt)
      · exact hks _ hk'

variable (key : α → β)

theorem least_spec (l : ℕ → α) {lo n : ℕ} (h : lo < n) :
    lo ≤ least key l lo n ∧ least key l lo n < n ∧
      ∀ k, lo ≤ k → k < n → key (l (least key l lo n)) ≤ key (l k) := by
  obtain ⟨hr, hlo, hks⟩ := search_spec key l (List.range' (lo + 1) (n - (lo + 1))) lo
  have hmem : ∀ k, k ∈ List.range' (lo + 1) (n - (lo + 1)) ↔ lo < k ∧ k < n := by
    intro k
    rw [List.mem_range'_1]
    omega
  change (least key l lo n = lo ∨ least key l lo n ∈ _) at hr
  refine ⟨?_, ?_, fun k hk hkn => ?_⟩
  · rcases hr with hr | hr
    · exact hr.ge
    · exact ((hmem _).mp hr).1.le
  · rcases hr with hr | hr
    · rw [hr]
      exact h
    · exact ((hmem _).mp hr).2
  · rcases hk.eq_or_lt with rfl | hlt
    · exact hlo
    · exact hks k ((hmem k).mpr ⟨hlt, hkn⟩)

/-- The array after the first `m` exchanges. The induction is on `m`: the entries before `m` are
in order and no later one has a smaller key. -/
theorem exchanges_spec (key : α → β) (l : ℕ → α) (n : ℕ) :
    ∀ m ≤ n - 1,
      ∃ e : Equiv.Perm ℕ, (∀ k, n ≤ k → e k = k) ∧
        (List.range m).foldl (fun l lo => swap l (least key l lo n) lo) l = l ∘ e ∧
        ∀ a < m, ∀ b, a ≤ b → b < n → key (l (e a)) ≤ key (l (e b))
  | 0, _ => ⟨Equiv.refl ℕ, fun _ _ => rfl, rfl, nofun⟩
  | m + 1, hm => by
    obtain ⟨e, hfix, he, hord⟩ := exchanges_spec key l n m (Nat.le_of_succ_le hm)
    have hmn : m < n := by omega
    obtain ⟨hlo, hhi, hleast⟩ := least_spec key (l ∘ e) hmn
    rw [List.range_succ, List.foldl_append, he]
    simp only [List.foldl_cons, List.foldl_nil, swap_eq]
    generalize hp : least key (l ∘ e) m n = p at hlo hhi hleast ⊢
    -- an exchange of `p` and `m` leaves the entries before `m` where they are
    have hbefore : ∀ a < m, Equiv.swap p m a = a := fun a ha =>
      Equiv.swap_apply_of_ne_of_ne (by omega) (by omega)
    have hwithin : ∀ b, m ≤ b → b < n → m ≤ Equiv.swap p m b ∧ Equiv.swap p m b < n := by
      intro b hb hbn
      rw [Equiv.swap_apply_def]
      split_ifs <;> omega
    refine ⟨(Equiv.swap p m).trans e, fun k hk => ?_, ?_, fun a ha b hab hb => ?_⟩
    · rw [Equiv.trans_apply, Equiv.swap_apply_of_ne_of_ne (by omega) (by omega), hfix k hk]
    · rfl
    · simp only [Equiv.trans_apply]
      rcases Nat.lt_succ_iff_lt_or_eq.mp ha with ha | rfl
      · rw [hbefore a ha]
        by_cases hbm : b < m
        · rw [hbefore b hbm]
          exact hord a ha b hab hb
        · obtain ⟨hge, hlt⟩ := hwithin b (not_lt.mp hbm) hb
          exact hord a ha _ (ha.le.trans hge) hlt
      · rw [Equiv.swap_apply_right]
        obtain ⟨hge, hlt⟩ := hwithin b hab hb
        exact hleast _ hge hlt

/-- **A sort rearranges**, and moves nothing past its end. -/
theorem sort_eq_comp (l : ℕ → α) (n : ℕ) :
    ∃ e : Equiv.Perm ℕ, (∀ k, k < n ↔ e k < n) ∧ sort key l n = l ∘ e ∧
      ∀ a b, a ≤ b → b < n → key (l (e a)) ≤ key (l (e b)) := by
  obtain ⟨e, hfix, he, hord⟩ := exchanges_spec key l n (n - 1) le_rfl
  refine ⟨e, fun k => ⟨fun hk => ?_, fun hk => ?_⟩, he, fun a b hab hb => ?_⟩
  · by_contra hge
    have heq := e.injective (hfix (e k) (not_lt.mp hge))
    omega
  · by_contra hge
    have heq := hfix k (not_lt.mp hge)
    omega
  · rcases hab.eq_or_lt with rfl | hlt
    · exact le_rfl
    · exact hord a (by omega) b hab hb

/-- The keys of a sorted array are in order. -/
theorem sort_monotone (l : ℕ → α) {n a b : ℕ} (hab : a ≤ b) (hb : b < n) :
    key (sort key l n a) ≤ key (sort key l n b) := by
  obtain ⟨e, -, he, hord⟩ := sort_eq_comp key l n
  rw [he]
  exact hord a b hab hb

/-- The entries of a sorted array are those it had. -/
theorem exists_sort_iff (l : ℕ → α) (n : ℕ) (P : α → Prop) :
    (∃ k < n, P (sort key l n k)) ↔ ∃ k < n, P (l k) := by
  obtain ⟨e, hlt, he, -⟩ := sort_eq_comp key l n
  rw [he]
  constructor
  · rintro ⟨k, hk, hP⟩
    exact ⟨e k, (hlt k).mp hk, hP⟩
  · rintro ⟨k, hk, hP⟩
    exact ⟨e.symm k, (hlt _).mpr (by simpa using hk), by simpa using hP⟩

/-- **Where the least key ends**: up to the first place where two neighbours differ all keys are
the least one, and behind it none is. -/
theorem first_change {key : ℕ → β} {n j : ℕ} (hord : ∀ a b, a ≤ b → b < n → key a ≤ key b)
    (hsame : ∀ k < j, key k = key (k + 1)) :
    (∀ k ≤ j, key k = key 0) ∧
      (key j ≠ key (j + 1) → ∀ k, j < k → k < n → key 0 < key k) := by
  have heq : ∀ k ≤ j, key k = key 0 := by
    intro k hk
    induction k with
    | zero => rfl
    | succ k ih => rw [← hsame k hk, ih (Nat.le_of_succ_le hk)]
  refine ⟨heq, fun hne k hjk hkn => ?_⟩
  have hstep : key j < key (j + 1) := (hord j (j + 1) (Nat.le_succ j) (by omega)).lt_of_ne hne
  rw [← heq j le_rfl]
  exact hstep.trans_le (hord (j + 1) k hjk hkn)

end SelectionSort
