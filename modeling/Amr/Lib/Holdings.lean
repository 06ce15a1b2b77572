/-
# What a program holds

A program acquires resources, keeps pointers to them, and releases them. A book records which
resources are held, which pointers are not NULL, and whether something went wrong: a resource was
used or released that was not held, or acquired while it was held. So a book that ends empty, with
nothing wrong, says that everything acquired was released exactly once, and used only in between.

The programs considered here set a pointer when they acquire and clear it when they release: a book
in which pointers and resources agree stays such a book.
-/
import Mathlib

namespace Holdings

variable {ρ : Type*} [DecidableEq ρ]

/-- The resources that are held, the pointers that are not NULL, and whether something went wrong. -/
structure Book (ρ : Type*) where
  held : Finset ρ
  ptr : Finset ρ
  wrong : Bool

namespace Book

/-- Pointers and resources agree. -/
def of (H : Finset ρ) (w : Bool) : Book ρ := ⟨H, H, w⟩

variable (H : Finset ρ)

@[simp] theorem of_held (w : Bool) : (of H w).held = H := rfl

@[simp] theorem of_ptr (w : Bool) : (of H w).ptr = H := rfl

@[simp] theorem of_wrong (w : Bool) : (of H w).wrong = w := rfl

/-! ### Operations -/

/-- The resource is acquired, and a pointer to it set. -/
def acquire (r : ρ) (b : Book ρ) : Book ρ :=
  ⟨insert r b.held, insert r b.ptr, b.wrong || decide (r ∈ b.held)⟩

/-- An allocation that may fail; then the pointer is NULL. -/
def alloc (ok : Bool) (r : ρ) (b : Book ρ) : Book ρ :=
  if ok then b.acquire r else { b with ptr := b.ptr.erase r }

/-- The resource is read, written or called. -/
def use (r : ρ) (b : Book ρ) : Book ρ := { b with wrong := b.wrong || decide (r ∉ b.held) }

/-- The resource is released, and its pointer cleared. -/
def undo (r : ρ) (b : Book ρ) : Book ρ :=
  ⟨b.held.erase r, b.ptr.erase r, b.wrong || decide (r ∉ b.held)⟩

/-- A pointer that is kept in `owner` is tested, and the resource released when it is not NULL. -/
def release (owner r : ρ) (b : Book ρ) : Book ρ :=
  if r ∈ b.ptr then (b.use owner).undo r else b.use owner

/-- A release that is harmless when the resource is not held. -/
def discard (r : ρ) (b : Book ρ) : Book ρ := ⟨b.held.erase r, b.ptr.erase r, b.wrong⟩

/-- The resource is released, and a pointer to it is left. -/
def free (r : ρ) (b : Book ρ) : Book ρ :=
  ⟨b.held.erase r, b.ptr, b.wrong || decide (r ∉ b.held)⟩

/-- A release that must come after that of every user. -/
def undoUnused (users : List ρ) (r : ρ) (b : Book ρ) : Book ρ :=
  let b' := b.undo r
  { b' with wrong := b'.wrong || users.any fun u => decide (u ∈ b.held) }

/-- Nothing is held, and nothing went wrong. -/
def Clear (b : Book ρ) : Prop := b.held = ∅ ∧ b.wrong = false

/-! ### Operations on a book in which pointers and resources agree -/

variable (r o : ρ) (H : Finset ρ) (w : Bool)

@[simp] theorem acquire_of : (of H w).acquire r = of (insert r H) (w || decide (r ∈ H)) := rfl

@[simp] theorem use_of : (of H w).use r = of H (w || decide (r ∉ H)) := rfl

@[simp] theorem undo_of : (of H w).undo r = of (H.erase r) (w || decide (r ∉ H)) := rfl

@[simp] theorem discard_of : (of H w).discard r = of (H.erase r) w := rfl

@[simp] theorem undoUnused_of (users : List ρ) : (of H w).undoUnused users r =
    of (H.erase r) ((w || decide (r ∉ H)) || users.any fun u => decide (u ∈ H)) := rfl

@[simp] theorem release_of : (of H w).release o r = of (H.erase r) (w || decide (o ∉ H)) := by
  unfold release
  rw [of_ptr]
  split
  · next hr => simp [hr]
  · next hr => simp [Finset.erase_eq_of_notMem hr]

variable {r H}

theorem alloc_of (hr : r ∉ H) (ok : Bool) :
    (of H w).alloc ok r = of (if ok then insert r H else H) w := by
  cases ok with
  | true => simp [alloc, hr]
  | false => simp [alloc, of, Finset.erase_eq_of_notMem hr]

theorem clear_of : (of H w).Clear ↔ H = ∅ ∧ w = false := Iff.rfl

end Book

end Holdings
