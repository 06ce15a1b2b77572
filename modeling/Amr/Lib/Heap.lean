/-
# Heaps of separate blocks

A heap has blocks of cells, each with the address it was allocated at; a cell is `none` until it is
written. An allocation may fail, and a block that is freed is gone. The heap notes whether something
went wrong: a block was freed that is not allocated, or cells were read or written that do not lie
inside an allocated block. What is allocated and belongs to nobody is a leak: a heap whose `Sole`
block is at one address has none.
-/
import Mathlib

variable {β : Type*}

/-- The blocks that are allocated, the address of the next one, and whether something went wrong. -/
structure Heap (β : Type*) where
  block : ℕ → Option (List (Option β))
  fresh : ℕ
  wrong : Bool

namespace Heap

/-! ### Operations -/

/-- An allocation of `n` cells, which may fail. -/
def malloc (h : Heap β) (n : ℕ) (ok : Bool) : Option ℕ × Heap β :=
  if ok then
    (some h.fresh, {
      block := Function.update h.block h.fresh (some (List.replicate n none))
      fresh := h.fresh + 1
      wrong := h.wrong })
  else (none, h)

/-- The block at `p` is freed. -/
def free (h : Heap β) (p : ℕ) : Heap β :=
  { h with block := Function.update h.block p none, wrong := h.wrong || (h.block p).isNone }

/-- The `n` cells from `offset` on lie inside the block at `p`. -/
def inside (h : Heap β) (p : ℕ) (offset : ℤ) (n : ℕ) : Bool :=
  match h.block p with
  | none => false
  | some cells => decide (0 ≤ offset ∧ offset + n ≤ cells.length)

/-- Cells with `data` from `offset` on. -/
def splice (cells data : List (Option β)) (offset : ℕ) : List (Option β) :=
  cells.take offset ++ data ++ cells.drop (offset + data.length)

/-- `data` is written to the block at `p`, from `offset` on. -/
def store (h : Heap β) (p : ℕ) (offset : ℤ) (data : List (Option β)) : Heap β :=
  if h.inside p offset data.length then
    { h with
      block := Function.update h.block p ((h.block p).map fun cells =>
        splice cells data offset.toNat) }
  else { h with wrong := true }

/-- The first `n` cells of the block at `src` are copied to the start of the one at `dst`. -/
def copy (h : Heap β) (dst src n : ℕ) : Heap β :=
  if h.inside src 0 n then h.store dst 0 (((h.block src).getD []).take n)
  else { h with wrong := true }

/-- The block at `p` is the only one, holds `cells`, and nothing has gone wrong. -/
structure Sole (h : Heap β) (p : ℕ) (cells : List (Option β)) : Prop where
  block_eq : h.block = Function.update (fun _ => none) p (some cells)
  lt_fresh : p < h.fresh
  right : h.wrong = false

variable {h : Heap β} {p q n : ℕ} {offset : ℤ} {cells cells' data : List (Option β)}

/-! ### What the operations do where nothing goes wrong -/

theorem malloc_ok : h.malloc n true = (some h.fresh, {
    block := Function.update h.block h.fresh (some (List.replicate n none))
    fresh := h.fresh + 1
    wrong := h.wrong }) := rfl

theorem free_of_block (hp : h.block p = some cells) :
    h.free p = { h with block := Function.update h.block p none } := by
  rw [free, hp, Option.isNone_some, Bool.or_false]

theorem inside_iff (hp : h.block p = some cells) :
    h.inside p offset n = true ↔ 0 ≤ offset ∧ offset + n ≤ cells.length := by
  rw [inside, hp]
  exact decide_eq_true_iff

theorem store_of_inside (hp : h.block p = some cells) (h0 : 0 ≤ offset)
    (hlen : offset + data.length ≤ cells.length) :
    h.store p offset data =
      { h with block := Function.update h.block p (some (splice cells data offset.toNat)) } := by
  rw [store, if_pos ((inside_iff hp).mpr ⟨h0, hlen⟩), hp]
  rfl

/-- A write past the end of a block goes wrong. -/
theorem store_past (hp : h.block p = some cells) (hlen : cells.length < offset + data.length) :
    (h.store p offset data).wrong = true := by
  have hnot : ¬ h.inside p offset data.length = true := fun hin =>
    absurd ((inside_iff hp).mp hin).2 (not_le.mpr hlen)
  rw [store, if_neg hnot]

theorem copy_of_le (hp : h.block p = some cells) (hq : h.block q = some cells')
    (hn : n ≤ cells.length) (hn' : n ≤ cells'.length) :
    h.copy q p n =
      { h with block := Function.update h.block q (some (cells.take n ++ cells'.drop n)) } := by
  have htake : (cells.take n).length = n := List.length_take_of_le hn
  rw [copy, if_pos ((inside_iff hp).mpr ⟨le_rfl, by omega⟩), hp, Option.getD_some,
    store_of_inside hq le_rfl (by omega), splice, htake]
  simp

/-! ### A heap with one block -/

namespace Sole

theorem block_self (hs : h.Sole p cells) : h.block p = some cells := by
  rw [hs.block_eq, Function.update_self]

theorem block_of_ne (hs : h.Sole p cells) (hq : q ≠ p) : h.block q = none := by
  rw [hs.block_eq, Function.update_of_ne hq]

/-- What is allocated is the block. -/
theorem eq_of_block (hs : h.Sole p cells) (hq : (h.block q).isSome) : q = p := by
  by_contra hne
  rw [hs.block_of_ne hne] at hq
  cases hq

/-- A write inside the block. -/
theorem store (hs : h.Sole p cells) (h0 : 0 ≤ offset)
    (hlen : offset + data.length ≤ cells.length) :
    (h.store p offset data).Sole p (splice cells data offset.toNat) := by
  rw [store_of_inside hs.block_self h0 hlen]
  refine ⟨?_, hs.lt_fresh, hs.right⟩
  rw [hs.block_eq, Function.update_idem]

/-- The contents move to a block of another size: a block is allocated, the first `n` cells are
copied to it, and the old one is freed. -/
theorem move {k : ℕ} (hs : h.Sole p cells) (hn : n ≤ cells.length) (hk : n ≤ k) :
    ((((h.malloc k true).2).copy h.fresh p n).free p).Sole h.fresh
      (cells.take n ++ List.replicate (k - n) none) := by
  have hne : h.fresh ≠ p := (Nat.ne_of_lt hs.lt_fresh).symm
  rw [malloc_ok]
  have hold : (Function.update h.block h.fresh (some (List.replicate k none))) p = some cells := by
    rw [Function.update_of_ne hne.symm]
    exact hs.block_self
  rw [copy_of_le hold (Function.update_self ..) hn (by rw [List.length_replicate]; exact hk)]
  have hlast := Function.update_of_ne hne.symm
    (some (cells.take n ++ (List.replicate k none).drop n))
    (Function.update h.block h.fresh (some (List.replicate k none)))
  rw [free_of_block (hlast.trans hold)]
  refine ⟨?_, Nat.lt_succ_self _, hs.right⟩
  dsimp only
  rw [Function.update_idem, Function.update_comm hne, hs.block_eq, Function.update_idem,
    Function.update_eq_self_iff.mpr rfl, List.drop_replicate]

end Sole

end Heap
