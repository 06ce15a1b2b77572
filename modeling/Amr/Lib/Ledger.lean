/-
# Ledgers of acquired and released resources

A ledger lists the acquisitions and releases that a piece of code makes, oldest first. It is
balanced when every resource is released as often as it is acquired and never before: what a
function that cleans up after itself leaves behind. The rules compose ledgers: one after another,
and a balanced ledger inside the bracket of one more resource.
-/
import Mathlib

namespace Ledger

variable {ρ : Type*} [DecidableEq ρ]

inductive Op (ρ : Type*)
  | acquire (r : ρ)
  | release (r : ρ)
  deriving DecidableEq

/-- How often `r` is acquired. -/
def acquired (r : ρ) (ops : List (Op ρ)) : ℕ := ops.count (.acquire r)

/-- How often `r` is released. -/
def released (r : ρ) (ops : List (Op ρ)) : ℕ := ops.count (.release r)

/-- Everything acquired is released exactly once, and nothing else is released. -/
def Balanced (ops : List (Op ρ)) : Prop :=
  ∀ r, released r ops = acquired r ops ∧ ∀ p, p <+: ops → released r p ≤ acquired r p

@[simp] theorem acquired_append (r : ρ) (l m : List (Op ρ)) :
    acquired r (l ++ m) = acquired r l + acquired r m := List.count_append

@[simp] theorem released_append (r : ρ) (l m : List (Op ρ)) :
    released r (l ++ m) = released r l + released r m := List.count_append

variable (r s : ρ)

@[simp] theorem acquired_acquire :
    acquired r [.acquire s] = if s = r then 1 else 0 := by
  simp [acquired, List.count_singleton]

@[simp] theorem acquired_release : acquired r [.release s] = 0 := by
  simp [acquired]

@[simp] theorem released_acquire : released r [.acquire s] = 0 := by
  simp [released]

@[simp] theorem released_release :
    released r [.release s] = if s = r then 1 else 0 := by
  simp [released, List.count_singleton]

/-- A prefix of two lists in a row ends inside the first, or in the second. -/
theorem prefix_append_split {α : Type*} {l m p : List α} (h : p <+: l ++ m) :
    p <+: l ∨ ∃ q, p = l ++ q ∧ q <+: m := by
  rcases List.prefix_or_prefix_of_prefix h (List.prefix_append l m) with hp | ⟨q, rfl⟩
  · exact .inl hp
  · exact .inr ⟨q, rfl, (List.prefix_append_right_inj l).mp h⟩

/-- Nothing acquired, nothing released. -/
theorem balanced_nil : Balanced ([] : List (Op ρ)) := by
  intro r
  refine ⟨rfl, fun p hp => ?_⟩
  rw [List.prefix_nil.mp hp]
  exact le_rfl

/-- **Sequence.** One balanced ledger after another is balanced. -/
theorem Balanced.append {l m : List (Op ρ)} (hl : Balanced l) (hm : Balanced m) :
    Balanced (l ++ m) := by
  intro r
  refine ⟨by simp [(hl r).1, (hm r).1], fun p hp => ?_⟩
  rcases prefix_append_split hp with h | ⟨q, rfl, hq⟩
  · exact (hl r).2 p h
  · have := (hl r).1
    have := (hm r).2 q hq
    simp only [acquired_append, released_append]
    omega

/-- **Bracket.** A balanced ledger between the acquisition and the release of a resource is
balanced. -/
theorem Balanced.bracket {l : List (Op ρ)} (r : ρ) (hl : Balanced l) :
    Balanced (.acquire r :: l ++ [.release r]) := by
  intro s
  have hcount := (hl s).1
  refine ⟨?_, fun p hp => ?_⟩
  · have h : (Op.acquire r :: l ++ [Op.release r]) = [.acquire r] ++ l ++ [.release r] := rfl
    rw [h]
    simp only [acquired_append, released_append, acquired_acquire, acquired_release,
      released_acquire, released_release]
    omega
  · cases p with
    | nil => exact le_rfl
    | cons a p =>
      obtain ⟨rfl, htail⟩ : a = .acquire r ∧ p <+: l ++ [.release r] := by
        simpa [List.cons_prefix_cons] using hp
      have ha : acquired s (Op.acquire r :: p) = (if r = s then 1 else 0) + acquired s p := by
        rw [← List.singleton_append, acquired_append, acquired_acquire]
      have hr : released s (Op.acquire r :: p) = released s p := by
        rw [← List.singleton_append, released_append, released_acquire, Nat.zero_add]
      rw [ha, hr]
      rcases prefix_append_split htail with h | ⟨q, rfl, hq⟩
      · have := (hl s).2 p h
        omega
      · have hq' : released s q ≤ if r = s then 1 else 0 := by
          rw [← released_release]
          exact hq.sublist.count_le _
        simp only [acquired_append, released_append]
        omega

/-- A resource acquired more often than released breaks the balance. -/
theorem not_balanced_of_held {r : ρ} {ops : List (Op ρ)} (h : released r ops < acquired r ops) :
    ¬ Balanced ops := fun hb => by
  have := (hb r).1
  omega

end Ledger
