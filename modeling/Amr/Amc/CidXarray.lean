/-
# The command id allocator of the host

`get_gcq_cid` and `remove_gcq_cid` of `src/sw/AMI/driver/ami_amc_control.c`. The ids of all
devices come from one allocating XArray of the kernel, whose documented behaviour is modelled
here: `xa_alloc_cyclic` takes the first free index from `next` on, wraps to the lower limit, and
fails with `-ENOMEM` or, when no index of the limit is free, `-EBUSY`; `xa_erase` clears an index
and returns what was stored there.
-/
import Amr.Amc.Command

namespace Amr.Amc

/-- The largest command id; the limit is inclusive. -/
def MAX_COMMAND_IDS : ℕ := 255

/-- `cid_xarray`, which maps an allocated id to its context, and `next_cid_id`. -/
structure CidXarray where
  entries : ℕ → Option ℕ
  nextCidId : ℕ

/-- The driver as loaded: no id is allocated. -/
def CidXarray.empty : CidXarray := ⟨fun _ => none, 0⟩

def CidXarray.allocated (x : CidXarray) : Set ℕ := {id | x.entries id ≠ none}

/-- The first free id from `first` on. -/
def CidXarray.firstFree (x : CidXarray) (first : ℕ) : Option ℕ :=
  (List.range (MAX_COMMAND_IDS + 1)).find? fun id => decide (first ≤ id) && (x.entries id).isNone

/-- `xa_alloc_cyclic` with the limit of `get_gcq_cid`; `noMemory` tells that the kernel could not
allocate a node. -/
def CidXarray.xaAllocCyclic (x : CidXarray) (entry : ℕ) (noMemory : Bool) :
    Except ℤ (ℕ × CidXarray) :=
  if noMemory then .error (-ENOMEM)
  else match (x.firstFree x.nextCidId).or (x.firstFree 0) with
    | some id => .ok (id, ⟨Function.update x.entries id (some entry), id + 1⟩)
    | none => .error (-EBUSY)

def getGcqCid (x : CidXarray) (amcCtrlCtxt : ℕ) (noMemory : Bool) : Except ℤ (ℕ × CidXarray) :=
  x.xaAllocCyclic amcCtrlCtxt noMemory

def CidXarray.xaErase (x : CidXarray) (id : ℕ) : Option ℕ × CidXarray :=
  (x.entries id, { x with entries := Function.update x.entries id none })

/-- `remove_gcq_cid`: the id is erased whoever it belongs to. -/
def removeGcqCid (x : CidXarray) (amcCtrlCtxt id : ℕ) : ℤ × CidXarray :=
  let (amcCtrlCtxtReturned, x) := x.xaErase id
  (if amcCtrlCtxtReturned ≠ some amcCtrlCtxt then - EIO else 0, x)

def CidXarray.HasFree (x : CidXarray) : Prop := ∃ id ≤ MAX_COMMAND_IDS, x.entries id = none

/-! ### What allocation and release do -/

variable {x : CidXarray}

theorem CidXarray.firstFree_eq_some {first id : ℕ}
    (h : x.firstFree first = some id) : id ≤ MAX_COMMAND_IDS ∧ x.entries id = none := by
  have hmem := List.mem_of_find?_eq_some h
  have hfree := List.find?_some h
  simp only [Bool.and_eq_true, decide_eq_true_eq, Option.isNone_iff_eq_none] at hfree
  exact ⟨Nat.lt_succ_iff.mp (List.mem_range.mp hmem), hfree.2⟩

theorem CidXarray.firstFree_zero_eq_none :
    x.firstFree 0 = none ↔ ¬ x.HasFree := by
  simp only [firstFree, List.find?_eq_none, List.mem_range, Nat.zero_le, decide_true,
    Bool.true_and, Option.isNone_iff_eq_none, HasFree, not_exists, not_and, Nat.lt_succ_iff]

theorem getGcqCid_ok {x x' : CidXarray} {ctx id : ℕ} {noMemory : Bool}
    (h : getGcqCid x ctx noMemory = .ok (id, x')) :
    id ≤ MAX_COMMAND_IDS ∧ x.entries id = none ∧
      x' = ⟨Function.update x.entries id (some ctx), id + 1⟩ := by
  unfold getGcqCid CidXarray.xaAllocCyclic at h
  split_ifs at h
  split at h
  · rename_i i hi
    obtain ⟨rfl, rfl⟩ : i = id ∧ _ = x' := by simpa using h
    rcases Option.or_eq_some_iff.mp hi with hi | ⟨-, hi⟩
    · exact ⟨(CidXarray.firstFree_eq_some hi).1, (CidXarray.firstFree_eq_some hi).2, rfl⟩
    · exact ⟨(CidXarray.firstFree_eq_some hi).1, (CidXarray.firstFree_eq_some hi).2, rfl⟩
  · cases h

theorem getGcqCid_error {ctx : ℕ} {noMemory : Bool} {ret : ℤ}
    (h : getGcqCid x ctx noMemory = .error ret) : ret ≠ 0 := by
  have henomem : -ENOMEM ≠ 0 := by decide
  have hebusy : -EBUSY ≠ 0 := by decide
  unfold getGcqCid CidXarray.xaAllocCyclic at h
  split_ifs at h
  · cases h
    exact henomem
  · split at h
    · cases h
    · cases h
      exact hebusy

theorem getGcqCid_isOk_iff {ctx : ℕ} {noMemory : Bool} :
    (∃ r, getGcqCid x ctx noMemory = .ok r) ↔ noMemory = false ∧ x.HasFree := by
  unfold getGcqCid CidXarray.xaAllocCyclic
  cases noMemory with
  | true => simp
  | false =>
    have hnone := CidXarray.firstFree_zero_eq_none (x := x)
    cases h : (x.firstFree x.nextCidId).or (x.firstFree 0) with
    | none =>
      have hfull := hnone.mp (Option.or_eq_none_iff.mp h).2
      exact iff_of_false (by rintro ⟨r, hr⟩; cases hr) (fun hfree => hfull hfree.2)
    | some id =>
      obtain ⟨hid, hfree⟩ : id ≤ MAX_COMMAND_IDS ∧ x.entries id = none := by
        rcases Option.or_eq_some_iff.mp h with h | ⟨-, h⟩ <;> exact CidXarray.firstFree_eq_some h
      exact iff_of_true ⟨_, rfl⟩ ⟨rfl, id, hid, hfree⟩

@[simp] theorem removeGcqCid_snd (x : CidXarray) (ctx id : ℕ) :
    (removeGcqCid x ctx id).2 = { x with entries := Function.update x.entries id none } := rfl

theorem entries_remove_alloc {x x' : CidXarray} {ctx id : ℕ} {noMemory : Bool}
    (h : getGcqCid x ctx noMemory = .ok (id, x')) :
    (removeGcqCid x' ctx id).2.entries = x.entries := by
  obtain ⟨-, hfree, rfl⟩ := getGcqCid_ok h
  rw [removeGcqCid_snd, Function.update_idem, ← hfree, Function.update_eq_self]

end Amr.Amc
