/-
# Text in columns

A line is printed piece by piece, and a piece may be that of a column. Where the piece of a column
starts is the length of what was printed before it. When the columns are printed one after the other
and each prints its own piece only, that is the sum of what the columns before it printed.
-/
import Mathlib.Algebra.BigOperators.Group.Finset.Basic

namespace Columns

open Finset

variable {α : Type*}

/-- Some text, of a column or of none. -/
structure Piece (α : Type*) where
  col : Option ℕ
  text : List α
  deriving DecidableEq, Repr

def text (ps : List (Piece α)) : List α := ps.flatMap Piece.text

/-- Where the first piece of a column starts. -/
def start (i : ℕ) : List (Piece α) → Option ℕ
  | [] => none
  | p :: ps => if p.col = some i then some 0 else (start i ps).map (p.text.length + ·)

/-- Text without a piece of the column only shifts it. -/
theorem start_append {i : ℕ} {ps : List (Piece α)} (h : ∀ p ∈ ps, p.col ≠ some i)
    (qs : List (Piece α)) :
    start i (ps ++ qs) = (start i qs).map ((text ps).length + ·) := by
  induction ps with
  | nil => simp [text]
  | cons p ps ih =>
    rw [List.forall_mem_cons] at h
    rw [List.cons_append, start, if_neg h.1, ih h.2, Option.map_map]
    congr 1
    funext x
    simp [text, Nat.add_assoc]

/-- A piece of the column comes before what is behind it. -/
theorem start_append_of_some {i a : ℕ} {ps : List (Piece α)} (h : start i ps = some a)
    (qs : List (Piece α)) : start i (ps ++ qs) = some a := by
  induction ps generalizing a with
  | nil => exact absurd h nofun
  | cons p ps ih =>
    rw [start] at h
    rw [List.cons_append, start]
    by_cases hp : p.col = some i
    · rwa [if_pos hp] at h ⊢
    · rw [if_neg hp] at h ⊢
      obtain ⟨b, hb, rfl⟩ := Option.map_eq_some_iff.1 h
      rw [ih hb]
      rfl

/-- Columns one after the other, each with its own pieces: a column starts behind all that those
before it printed. -/
theorem start_flatMap {f : ℕ → List (Piece α)}
    (hown : ∀ j, ∀ p ∈ f j, ∀ i, p.col = some i → i = j) {k n a : ℕ} (hk : k < n)
    (ha : start k (f k) = some a) :
    start k ((List.range n).flatMap f) = some ((∑ j ∈ range k, (text (f j)).length) + a) := by
  obtain ⟨d, rfl⟩ : ∃ d, n = k + (d + 1) := ⟨n - k - 1, by omega⟩
  have hbefore : ∀ p ∈ (List.range k).flatMap f, p.col ≠ some k := by
    intro p hp hcol
    obtain ⟨j, hj, hpj⟩ := List.mem_flatMap.1 hp
    have := List.mem_range.1 hj
    have := hown j p hpj k hcol
    omega
  have hlen : (text ((List.range k).flatMap f)).length = ∑ j ∈ range k, (text (f j)).length := by
    clear hbefore hk ha
    induction k with
    | zero => rfl
    | succ k ih =>
      rw [List.range_succ, List.flatMap_append, Finset.sum_range_succ, ← ih]
      simp [text]
  rw [List.range_add, List.flatMap_append, start_append hbefore, hlen, List.range_succ_eq_map,
    List.map_cons, List.flatMap_cons, Nat.add_zero, start_append_of_some ha]
  rfl

end Columns
