/-
# Chains of cells that link to the next one

Cells are named by their addresses, and `next` is the link stored in a cell. A pointer spells a list
of addresses when following the links from it passes exactly these cells and comes to an end. What a
pointer spells is unique, has no address twice and depends only on the links of the cells it passes;
linking a new cell behind the last one appends its address. The walks of a program that follows the
links, to the end or a number of steps, are read off the list that is spelled.
-/
import Mathlib

namespace LinkedCells

variable {ι : Type*} {next next' : ι → Option ι} {p : Option ι} {cells : List ι}

/-- Following `next` from `p` passes `cells` in this order and ends. -/
def Spells (next : ι → Option ι) : Option ι → List ι → Prop
  | p, [] => p = none
  | p, a :: cells => p = some a ∧ Spells next (next a) cells

@[simp] theorem spells_nil : Spells next p [] ↔ p = none := Iff.rfl

variable {a : ι}

@[simp] theorem spells_cons :
    Spells next p (a :: cells) ↔ p = some a ∧ Spells next (next a) cells := Iff.rfl

/-- The last cell of the chain from `a`, looked for through at most `fuel` cells. -/
def lastCell (next : ι → Option ι) : ℕ → ι → Option ι
  | 0, _ => none
  | fuel + 1, a =>
    match next a with
    | none => some a
    | some b => lastCell next fuel b

namespace Spells

/-- A pointer spells one list. -/
theorem unique {others : List ι} (h : Spells next p cells) (h' : Spells next p others) :
    cells = others := by
  induction cells generalizing p others with
  | nil =>
    cases others with
    | nil => rfl
    | cons b others => exact absurd (h.symm.trans h'.1) (by simp)
  | cons a cells ih =>
    cases others with
    | nil => exact absurd (h'.symm.trans h.1) (by simp)
    | cons b others =>
      obtain rfl : a = b := Option.some.inj (h.1.symm.trans h'.1)
      rw [ih h.2 h'.2]

/-- A pointer to a cell spells a list that starts with it. -/
theorem eq_cons (h : Spells next (some a) cells) : ∃ rest, cells = a :: rest := by
  cases cells with
  | nil => simp at h
  | cons b rest =>
    obtain rfl : a = b := Option.some.inj h.1
    exact ⟨rest, rfl⟩

theorem first_mem (h : Spells next (some a) cells) : a ∈ cells := by
  obtain ⟨rest, rfl⟩ := h.eq_cons
  exact List.mem_cons_self ..

/-- The link of a cell of the chain spells the rest of it. -/
theorem of_mem (h : Spells next p cells) (ha : a ∈ cells) :
    ∃ before after, cells = before ++ a :: after ∧ Spells next (next a) after := by
  induction cells generalizing p with
  | nil => simp at ha
  | cons b cells ih =>
    rcases List.mem_cons.mp ha with rfl | ha
    · exact ⟨[], cells, rfl, h.2⟩
    · obtain ⟨before, after, rfl, hafter⟩ := ih h.2 ha
      exact ⟨b :: before, after, rfl, hafter⟩

/-- **No cell is passed twice**: a cell that was met again would spell two lists. -/
theorem nodup (h : Spells next p cells) : cells.Nodup := by
  induction cells generalizing p with
  | nil => exact List.nodup_nil
  | cons a cells ih =>
    refine List.nodup_cons.mpr ⟨fun ha => ?_, ih h.2⟩
    obtain ⟨before, after, hcells, hafter⟩ := h.2.of_mem ha
    have hlength := congrArg List.length (h.2.unique hafter)
    simp only [hcells, List.length_append, List.length_cons] at hlength
    omega

/-- What a pointer spells depends on the links of the cells it passes only. -/
theorem frame (h : Spells next p cells) (hnext : ∀ a ∈ cells, next' a = next a) :
    Spells next' p cells := by
  induction cells generalizing p with
  | nil => exact h
  | cons a cells ih =>
    refine ⟨h.1, ?_⟩
    rw [hnext a (List.mem_cons_self ..)]
    exact ih h.2 fun b hb => hnext b (List.mem_cons_of_mem a hb)

/-- **A cell linked behind the last one is the new last one.** -/
theorem snoc {z new : ι} (h : Spells next p cells) (hz : cells.getLast? = some z)
    (hlink : next' z = some new) (hend : next' new = none)
    (hnext : ∀ a ∈ cells, a ≠ z → next' a = next a) : Spells next' p (cells ++ [new]) := by
  induction cells generalizing p with
  | nil => simp at hz
  | cons a cells ih =>
    refine ⟨h.1, ?_⟩
    cases cells with
    | nil =>
      obtain rfl : a = z := by simpa using hz
      exact ⟨hlink, hend⟩
    | cons b cells =>
      have hz' : (b :: cells).getLast? = some z := by simpa [List.getLast?_cons_cons] using hz
      have haz : a ≠ z := by
        rintro rfl
        exact (List.nodup_cons.mp h.nodup).1 (List.mem_of_getLast? hz')
      rw [hnext a (List.mem_cons_self ..) haz]
      exact ih h.2 hz' fun c hc => hnext c (List.mem_cons_of_mem a hc)

/-- The walk to the end finds the last cell. -/
theorem lastCell_eq {fuel : ℕ} (h : Spells next (some a) cells)
    (hfuel : cells.length ≤ fuel) : lastCell next fuel a = cells.getLast? := by
  induction fuel generalizing a cells with
  | zero =>
    obtain rfl := List.length_eq_zero_iff.mp (Nat.le_zero.mp hfuel)
    simp at h
  | succ fuel ih =>
    cases cells with
    | nil => simp at h
    | cons b cells =>
      obtain rfl : a = b := Option.some.inj h.1
      have hrest : Spells next (next a) cells := h.2
      cases hlink : next a with
      | none =>
        rw [hlink] at hrest
        have hcells : cells = [] := hrest.unique (spells_nil.mpr rfl)
        rw [lastCell, hlink, hcells]
        rfl
      | some b =>
        rw [hlink] at hrest
        cases cells with
        | nil => simp at hrest
        | cons c cells =>
          rw [lastCell, hlink, List.getLast?_cons_cons]
          exact ih hrest (Nat.le_of_succ_le_succ hfuel)

/-- A cell of the chain is the first one or the next one of another. -/
theorem pred {b : ι} (h : Spells next p cells) (hb : b ∈ cells) :
    p = some b ∨ ∃ a ∈ cells, next a = some b := by
  induction cells generalizing p with
  | nil => simp at hb
  | cons a cells ih =>
    rcases List.mem_cons.mp hb with rfl | hb
    · exact .inl h.1
    · rcases ih h.2 hb with hfirst | ⟨c, hc, hlink⟩
      · exact .inr ⟨a, List.mem_cons_self .., hfirst⟩
      · exact .inr ⟨c, List.mem_cons_of_mem a hc, hlink⟩

/-- The next one of a cell of the chain is a later cell of it. -/
theorem next_mem {a b : ι} (h : Spells next p cells) (ha : a ∈ cells) (hab : next a = some b) :
    ∃ before rest, cells = before ++ a :: b :: rest := by
  obtain ⟨before, after, hcells, hafter⟩ := h.of_mem ha
  rw [hab] at hafter
  obtain ⟨rest, rfl⟩ := hafter.eq_cons
  exact ⟨before, rest, hcells⟩

/-- The first cell is the next one of no cell of the chain. -/
theorem next_ne_first {a b : ι} (h : Spells next (some b) cells) (ha : a ∈ cells) :
    next a ≠ some b := by
  intro hab
  obtain ⟨before, rest, rfl⟩ := h.next_mem ha hab
  have hnodup := h.nodup
  cases before with
  | nil =>
    obtain rfl : b = a := Option.some.inj h.1
    simp at hnodup
  | cons c before =>
    obtain rfl : b = c := Option.some.inj h.1
    simp at hnodup

/-- A cell is the next one of one cell of the chain. -/
theorem next_inj {a a' b : ι} (h : Spells next p cells) (ha : a ∈ cells) (ha' : a' ∈ cells)
    (hab : next a = some b) (hab' : next a' = some b) : a = a' := by
  induction cells generalizing p with
  | nil => simp at ha
  | cons c cells ih =>
    have hrest := h.2
    rcases List.mem_cons.mp ha with hc | hmem <;> rcases List.mem_cons.mp ha' with hc' | hmem'
    · exact hc.trans hc'.symm
    · rw [← hc, hab] at hrest
      exact absurd hab' (hrest.next_ne_first hmem')
    · rw [← hc', hab'] at hrest
      exact absurd hab (hrest.next_ne_first hmem)
    · exact ih hrest hmem hmem'

/-- The cells of a chain are at most the cells there are. -/
theorem length_le {next : ℕ → Option ℕ} {p : Option ℕ} {cells : List ℕ} {n : ℕ}
    (h : Spells next p cells) (hn : ∀ a ∈ cells, a < n) : cells.length ≤ n := by
  have hsub : cells ⊆ List.range n := fun a ha => List.mem_range.mpr (hn a ha)
  simpa using (h.nodup.subperm hsub).length_le

end Spells

end LinkedCells
